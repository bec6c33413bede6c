import Mathlib.Data.Nat.ModEq
import Chip8.Proofs.Schedule

/-! Runs in chunks. A run forgets the part of a tick that is pending when it ends. So several runs
deliver what each of them delivers alone, which is at most one tick less for every break than one
run of as many steps delivers. Where no part of a tick is pending at the breaks nothing is lost:
the chunks and the one run are the same steps and ticks in the same order. -/

namespace Chip8

namespace Session

/-- Runs of several lengths, each from where the one before has come to. -/
def runEach (s : Session) (m : Machine) : List Nat → List Run
  | [] => []
  | n :: rest => s.run m n :: (s.run m n).session.runEach (s.run m n).machine rest

/-- The machine that runs of several lengths leave. -/
def machineAfter (s : Session) (m : Machine) (sizes : List Nat) : Machine :=
  (s.runEach m sizes).foldl (fun _ run => run.machine) m

/-- No step of the runs faults: each of them makes all its steps. -/
def Unhalted (s : Session) (m : Machine) (sizes : List Nat) : Prop :=
  (s.runEach m sizes).map (fun run => run.executed) = sizes.map (fun (n : Nat) => (n : Int))

/-- The steps and ticks of runs of several lengths. -/
def chunks (s : Session) (sizes : List Nat) : List Event :=
  sizes.flatMap s.schedule

/-- At the end of a run of this length no part of a tick is pending. -/
def Settles (s : Session) (n : Nat) : Prop :=
  s.cpuHz ∣ n * s.timerHz

variable {s : Session} {a b n : Nat} {sizes : List Nat}

theorem ticksBy_add (settled : s.Settles a) (b : Nat) :
    s.ticksBy (a + b) = s.ticksBy a + s.ticksBy b := by
  rw [ticksBy, Nat.add_mul, Nat.add_div_of_dvd_right settled]
  rfl

theorem ticksBy_add_le (s : Session) (a b : Nat) :
    s.ticksBy a + s.ticksBy b ≤ s.ticksBy (a + b) := by
  unfold ticksBy
  rw [Nat.add_mul]
  exact Nat.div_add_div_le_add_div

/-- What a break loses is less than one tick. -/
theorem ticksBy_add_le_succ (s : Session) (a b : Nat) :
    s.ticksBy (a + b) ≤ s.ticksBy a + s.ticksBy b + 1 := by
  unfold ticksBy
  rw [Nat.add_mul, Nat.add_div s.cpuHz_pos]
  split <;> omega

theorem sum_ticksBy_le (s : Session) (sizes : List Nat) :
    (sizes.map s.ticksBy).sum ≤ s.ticksBy sizes.sum := by
  induction sizes with
  | nil => simp
  | cons a rest ih =>
    have joined := s.ticksBy_add_le a rest.sum
    simp only [List.map_cons, List.sum_cons]
    omega

theorem ticksBy_sum_le (s : Session) (sizes : List Nat) :
    s.ticksBy sizes.sum ≤ (sizes.map s.ticksBy).sum + (sizes.length - 1) := by
  induction sizes with
  | nil => simp [ticksBy]
  | cons a rest ih =>
    cases rest with
    | nil => simp
    | cons b rest =>
      have joined := s.ticksBy_add_le_succ a (b :: rest).sum
      simp only [List.map_cons, List.sum_cons, List.length_cons] at joined ih ⊢
      omega

/-- Behind a length that settles the schedule starts again. -/
theorem schedule_add (settled : s.Settles a) (b : Nat) :
    s.schedule (a + b) = s.schedule a ++ s.schedule b := by
  induction b with
  | zero => simp [schedule]
  | succ b ih =>
    rw [← Nat.add_assoc, schedule, schedule, ih, Nat.add_assoc, ticksBy_add settled,
      ticksBy_add settled, Nat.add_sub_add_left, List.append_assoc]

/-- Of several lengths only the last may leave a part of a tick. -/
theorem chunks_eq_schedule (settled : ∀ a ∈ sizes.dropLast, s.Settles a) :
    s.chunks sizes = s.schedule sizes.sum := by
  induction sizes with
  | nil => rfl
  | cons a rest ih =>
    cases rest with
    | nil => simp [chunks]
    | cons b rest =>
      obtain ⟨first, others⟩ := List.forall_mem_cons.mp settled
      rw [List.sum_cons, schedule_add first, ← ih others]
      rfl

variable {m : Machine}

theorem passes_add (settled : s.Settles a) :
    s.Passes m (a + b) ↔ s.Passes m a ∧ s.Passes (m.afterAll (s.schedule a)) b := by
  have later (j : Nat) : m.afterAll (s.schedule (a + j))
      = (m.afterAll (s.schedule a)).afterAll (s.schedule j) := by
    rw [schedule_add settled, Machine.afterAll_append]
  constructor
  · intro passes
    refine ⟨passes.mono (Nat.le_add_right a b), ?_⟩
    intro j less
    rw [← later]
    exact passes (a + j) (by omega)
  · rintro ⟨first, second⟩ j less
    by_cases early : j < a
    · exact first j early
    · obtain ⟨i, rfl⟩ := Nat.exists_eq_add_of_le (Nat.le_of_not_lt early)
      rw [later]
      exact second i (by omega)

theorem ticks_schedule (passes : s.Passes m n) :
    (m.afterAll (s.schedule n)).ticks = m.ticks + s.ticksBy n := by
  induction n with
  | zero => simp [schedule, Machine.afterAll, ticksBy]
  | succ n ih =>
    obtain ⟨snapshot, last, ended⟩ := passes n (Nat.lt_succ_self n)
    have before := ih (passes.mono (Nat.le_succ n))
    have grown := s.ticksBy_le_succ n
    rw [Machine.afterAll_schedule_succ ended, Machine.ticks_tickTimes,
      Machine.ticks_of_step ended, before]
    omega

/-- A run that makes all its steps, each with the ticks of the schedule. -/
structure Whole (s : Session) (m : Machine) (n : Nat) (run : Run) : Prop where
  executed : run.executed = n
  machine : run.machine = m.afterAll (s.schedule n)
  session : run.session = s

/-- The rest of a run, from where the schedule has come to: all its steps pass, or it makes less
than all of them. -/
theorem runFrom_whole_or_less (s : Session) (left j : Nat) (notices : Array Notice)
    (passes : s.Passes m j) :
    (s.Passes m (j + left) ∧ s.Whole m (j + left)
      (s.runFrom (m.afterAll (s.schedule j)) (j * s.timerHz % s.cpuHz) j notices left)) ∨
    (¬ s.Passes m (j + left) ∧
      (s.runFrom (m.afterAll (s.schedule j)) (j * s.timerHz % s.cpuHz) j notices left).executed
        < (j + left : Nat)) := by
  induction left generalizing j notices with
  | zero => exact .inl ⟨passes, rfl, rfl, rfl⟩
  | succ left ih =>
    cases stepped : (m.afterAll (s.schedule j)).step with
    | mk result last =>
      cases result with
      | ok snapshot =>
        obtain ⟨notices', next⟩ := s.runFrom_schedule stepped left notices
        rw [next, Nat.add_left_comm, Nat.add_comm left]
        exact ih (j + 1) notices' (passes.succ stepped)
      | error f =>
        refine .inr ⟨?_, ?_⟩
        · intro all
          obtain ⟨snapshot, after, ended⟩ := all j (by omega)
          rw [stepped] at ended
          cases congrArg Outcome.result ended
        · rw [runFrom, stepped]
          dsimp only
          split <;> (dsimp only; omega)

theorem run_whole_or_less (s : Session) (m : Machine) (n : Nat) :
    (s.Passes m n ∧ s.Whole m n (s.run m n)) ∨ (¬ s.Passes m n ∧ (s.run m n).executed < n) := by
  have positive : ¬ (n : Int) < 0 := by omega
  have whole := s.runFrom_whole_or_less n 0 #[] (.zero s m)
  rw [Nat.zero_add, Nat.zero_mul, Nat.zero_mod] at whole
  rw [run, if_neg positive]
  exact whole

/-- A run without a fault is its schedule. -/
theorem run_of_passes (passes : s.Passes m n) : s.Whole m n (s.run m n) := by
  obtain ⟨_, whole⟩ | ⟨stopped, _⟩ := s.run_whole_or_less m n
  · exact whole
  · exact absurd passes stopped

theorem executed_eq_iff (s : Session) (m : Machine) (n : Nat) :
    (s.run m n).executed = n ↔ s.Passes m n := by
  obtain ⟨passes, whole⟩ | ⟨stopped, less⟩ := s.run_whole_or_less m n
  · exact iff_of_true whole.executed passes
  · exact iff_of_false (Int.ne_of_lt less) stopped

theorem unhalted_cons (s : Session) (m : Machine) (n : Nat) (rest : List Nat) :
    s.Unhalted m (n :: rest) ↔
      s.Passes m n ∧ s.Unhalted (m.afterAll (s.schedule n)) rest := by
  have both : s.Unhalted m (n :: rest) ↔ (s.run m n).executed = n ∧
      (s.run m n).session.Unhalted (s.run m n).machine rest := List.cons_eq_cons
  rw [both, executed_eq_iff]
  apply and_congr_right
  intro passes
  have whole := run_of_passes passes
  rw [whole.machine, whole.session]

theorem unhalted_singleton (s : Session) (m : Machine) (n : Nat) :
    s.Unhalted m [n] ↔ s.Passes m n := by
  rw [unhalted_cons]
  exact and_iff_left rfl

theorem machineAfter_cons (passes : s.Passes m n) (rest : List Nat) :
    s.machineAfter m (n :: rest) = s.machineAfter (m.afterAll (s.schedule n)) rest := by
  have whole := run_of_passes passes
  have first : s.machineAfter m (n :: rest)
      = (s.run m n).session.machineAfter (s.run m n).machine rest := rfl
  rw [first, whole.machine, whole.session]

/-- Runs without a fault are their schedules, one after another. -/
theorem machineAfter_eq (unhalted : s.Unhalted m sizes) :
    s.machineAfter m sizes = m.afterAll (s.chunks sizes) := by
  induction sizes generalizing m with
  | nil => rfl
  | cons n rest ih =>
    obtain ⟨passes, later⟩ := (unhalted_cons s m n rest).mp unhalted
    rw [machineAfter_cons passes, ih later, ← Machine.afterAll_append]
    rfl

theorem ticks_machineAfter (unhalted : s.Unhalted m sizes) :
    (s.machineAfter m sizes).ticks = m.ticks + (sizes.map s.ticksBy).sum := by
  induction sizes generalizing m with
  | nil => rfl
  | cons n rest ih =>
    obtain ⟨passes, later⟩ := (unhalted_cons s m n rest).mp unhalted
    rw [machineAfter_cons passes, ih later, ticks_schedule passes, List.map_cons, List.sum_cons,
      Nat.add_assoc]

/-- Where nothing is pending at the breaks, the chunks meet a fault exactly if the one run does. -/
theorem unhalted_iff_passes (m : Machine) (settled : ∀ a ∈ sizes.dropLast, s.Settles a) :
    s.Unhalted m sizes ↔ s.Passes m sizes.sum := by
  induction sizes generalizing m with
  | nil => exact iff_of_true rfl (.zero s m)
  | cons a rest ih =>
    cases rest with
    | nil => exact unhalted_singleton s m a
    | cons b rest =>
      obtain ⟨first, others⟩ := List.forall_mem_cons.mp settled
      rw [unhalted_cons, List.sum_cons, passes_add first, ih _ others]

/-- Chunks lose a bounded number of ticks, and it is known exactly. They deliver the whole ticks of
each chunk, so at most as many as one run over all the steps and at most one less for every break.
If every chunk but the last ends where no part of a tick is pending, the chunks and the one run are
the same steps and ticks, they meet a fault or none alike, and they leave the same machine. -/
theorem chunks_lose_ticks (s : Session) (m : Machine) (sizes : List Nat) :
    (s.Unhalted m sizes → s.machineAfter m sizes = m.afterAll (s.chunks sizes) ∧
      (s.machineAfter m sizes).ticks
        = m.ticks + (sizes.map fun a => a * s.timerHz / s.cpuHz).sum) ∧
    (s.Unhalted m [sizes.sum] →
      (s.run m sizes.sum).machine = m.afterAll (s.schedule sizes.sum) ∧
      (s.run m sizes.sum).machine.ticks = m.ticks + sizes.sum * s.timerHz / s.cpuHz) ∧
    (sizes.map fun a => a * s.timerHz / s.cpuHz).sum ≤ sizes.sum * s.timerHz / s.cpuHz ∧
    sizes.sum * s.timerHz / s.cpuHz
      ≤ (sizes.map fun a => a * s.timerHz / s.cpuHz).sum + (sizes.length - 1) ∧
    ((∀ a ∈ sizes.dropLast, s.cpuHz ∣ a * s.timerHz) →
      s.chunks sizes = s.schedule sizes.sum ∧
      (s.Unhalted m sizes ↔ s.Unhalted m [sizes.sum]) ∧
      (s.Unhalted m sizes → s.machineAfter m sizes = (s.run m sizes.sum).machine)) := by
  refine ⟨?_, ?_, s.sum_ticksBy_le sizes, s.ticksBy_sum_le sizes, ?_⟩
  · intro unhalted
    exact ⟨machineAfter_eq unhalted, ticks_machineAfter unhalted⟩
  · intro unhalted
    have passes := (unhalted_singleton s m _).mp unhalted
    have whole := run_of_passes passes
    refine ⟨whole.machine, ?_⟩
    rw [whole.machine]
    exact ticks_schedule passes
  · intro settled
    have same := chunks_eq_schedule settled
    refine ⟨same, ?_, ?_⟩
    · rw [unhalted_iff_passes m settled, unhalted_singleton]
    · intro unhalted
      have whole := run_of_passes ((unhalted_iff_passes m settled).mp unhalted)
      rw [machineAfter_eq unhalted, same, whole.machine]

end Session

/-- A machine at a jump to itself. -/
structure Machine.Loops (m : Machine) : Prop where
  wellFormed : m.toCore.WellFormed
  bus : ∃ log, m.bus = .holding (Memory.image [0x12, 0x00]) log
  pc : m.cpu.pc = programStart

namespace Machine.Loops

variable {m : Machine}

theorem step (loops : m.Loops) :
    ∃ snapshot last, m.step = .done snapshot last ∧ last.Loops := by
  obtain ⟨log, bus⟩ := loops.bus
  have fits : ([0x12, 0x00] : Program).length ≤ maxProgramSize := by decide
  have jump : Opcode.decode 0x1200 = .jump 0x200 := by decide
  have jumps : Opcode.ofBytes 0x12 0x00 = 0x1200 := by decide
  obtain ⟨snapshot, last, ended, _, done⟩ :=
    executed_of_image loops.wellFormed fits bus (k := 0) loops.pc (by decide) jump jumps rfl
  have kept := wellFormed_of_step loops.wellFormed ended
  refine ⟨snapshot, last, ended, kept, ⟨#[], ?_⟩, ?_⟩
  · rw [done.last]
    exact congrArg Bus.clearLog bus
  · rw [done.last]
    rfl

theorem tickTimes (loops : m.Loops) (n : Nat) : (m.tickTimes n).Loops := by
  induction n generalizing m with
  | zero => exact loops
  | succ n ih => exact ih ⟨⟨loops.wellFormed.cpu.tick, loops.wellFormed.bus⟩, loops.bus, loops.pc⟩

theorem afterAll_schedule (loops : m.Loops) (s : Session) (k : Nat) :
    (m.afterAll (s.schedule k)).Loops := by
  induction k with
  | zero => exact loops
  | succ k ih =>
    obtain ⟨snapshot, last, ended, again⟩ := ih.step
    rw [afterAll_schedule_succ ended]
    exact again.tickTimes _

theorem passes (loops : m.Loops) (s : Session) (n : Nat) : s.Passes m n := by
  intro j _
  obtain ⟨snapshot, last, ended, _⟩ := (loops.afterAll_schedule s j).step
  exact ⟨snapshot, last, ended⟩

theorem unhalted (loops : m.Loops) (s : Session) (sizes : List Nat) : s.Unhalted m sizes := by
  induction sizes generalizing m with
  | nil => rfl
  | cons n rest ih =>
    exact (Session.unhalted_cons s m n rest).mpr
      ⟨loops.passes s n, ih (loops.afterAll_schedule s n)⟩

end Machine.Loops

/-- A jump to itself, with three ticks to two steps: two runs of one step deliver two ticks of
three, and a run of two steps and one of a single step leave what one run of three steps leaves. -/
theorem Session.chunks_lose_ticks_loop :
    ∃ (m : Machine) (s : Session), m.Reachable ∧ s.cpuHz = 2 ∧ s.timerHz = 3 ∧
      (s.machineAfter m [1, 1]).ticks = m.ticks + 2 ∧
      (s.run m (2 : Nat)).machine.ticks = m.ticks + 3 ∧
      s.machineAfter m [2, 1] = (s.run m (3 : Nat)).machine := by
  have fits : ([0x12, 0x00] : Program).length ≤ maxProgramSize := by decide
  obtain ⟨m, reachable, loops⟩ : ∃ m : Machine, m.Reachable ∧ m.Loops :=
    have reachable := Machine.reachable_ofBus fits 0
    ⟨_, reachable, reachable.wellFormed, ⟨#[], rfl⟩, rfl⟩
  let s : Session := { cpuHz := 2, timerHz := 3 }
  have unhalted := loops.unhalted s
  obtain ⟨single, whole, _⟩ := Session.chunks_lose_ticks s m [1, 1]
  obtain ⟨_, _, _, _, settled⟩ := Session.chunks_lose_ticks s m [2, 1]
  have even : ∀ a ∈ [2, 1].dropLast, s.cpuHz ∣ a * s.timerHz := by decide
  have two : ([1, 1].map fun a => a * s.timerHz / s.cpuHz).sum = 2 := by decide
  have three : [1, 1].sum * s.timerHz / s.cpuHz = 3 := by decide
  rw [two] at single
  rw [three] at whole
  exact ⟨m, s, reachable, rfl, rfl, (single (unhalted _)).2, (whole (unhalted _)).2,
    (settled even).2.2 (unhalted _)⟩

end Chip8
