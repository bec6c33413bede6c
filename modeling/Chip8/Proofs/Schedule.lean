import Chip8.Proofs.Runs
import Chip8.Session

/-! Runs of a session. The ticks that have fallen due after a number of steps are that number times
the ratio of the rates, rounded down. A run delivers them at once after each step, so that it is the
schedule of steps and ticks as far as the steps complete, and the step that a fault stops is not
ticked. -/

namespace Chip8

namespace Session

/-- The ticks that have fallen due after `j` steps. -/
def ticksBy (s : Session) (j : Nat) : Nat :=
  j * s.timerHz / s.cpuHz

/-- The first `j` steps, each with the ticks that fall due after it. -/
def schedule (s : Session) : Nat → List Event
  | 0 => []
  | j + 1 => s.schedule j ++ .step :: List.replicate (s.ticksBy (j + 1) - s.ticksBy j) .tick

/-- The first `k` steps of a schedule complete. -/
def Passes (s : Session) (m : Machine) (k : Nat) : Prop :=
  ∀ j < k, ∃ snapshot last, (m.afterAll (s.schedule j)).step = .done snapshot last

/-- Of the `n` steps of a schedule the first `k` complete, and a bounds fault stops the next one if
there is one. -/
structure Completes (s : Session) (m : Machine) (n k : Nat) : Prop where
  most : k ≤ n
  completed : s.Passes m k
  stopped : k < n → ∃ f last, f.isBounds = true ∧
    (m.afterAll (s.schedule k)).step = .fault f last

/-- A run of `n` steps is the schedule of the `k` that complete, and one step that faults unless
these are all. -/
structure Follows (s : Session) (m : Machine) (n k : Nat) (run : Run) : Prop where
  executed : run.executed = k
  escaped : run.escaped = none
  whole : k = n → run.machine = m.afterAll (s.schedule k) ∧ run.session = s
  halted : k < n → ∃ f, (m.afterAll (s.schedule k)).step = .fault f run.machine ∧
    run.session = { s with lastError := some f }

variable {s : Session} {m : Machine} {n k : Nat}

theorem ticksBy_succ (s : Session) (j : Nat) :
    s.ticksBy (j + 1) = (j * s.timerHz % s.cpuHz + s.timerHz) / s.cpuHz + s.ticksBy j := by
  have split := Nat.mod_add_div (j * s.timerHz) s.cpuHz
  rw [ticksBy, ticksBy, ← Nat.add_mul_div_left _ _ s.cpuHz_pos, Nat.succ_mul]
  congr 1
  omega

theorem ticksBy_le_succ (s : Session) (j : Nat) : s.ticksBy j ≤ s.ticksBy (j + 1) := by
  rw [ticksBy_succ]
  exact Nat.le_add_left _ _

theorem pending_succ (s : Session) (j : Nat) :
    (j + 1) * s.timerHz % s.cpuHz = (j * s.timerHz % s.cpuHz + s.timerHz) % s.cpuHz := by
  rw [Nat.succ_mul, Nat.mod_add_mod]

/-- The ticks that are due are the whole part of what is pending over the rate of the processor. -/
theorem deliver_eq (s : Session) (m : Machine) (pending : Nat) :
    s.deliver m pending = (m.tickTimes (pending / s.cpuHz), pending % s.cpuHz) := by
  induction m, pending using deliver.induct s with
  | case1 m pending due ih =>
    rw [deliver, if_pos due, ih, Nat.div_eq_sub_div s.cpuHz_pos due, Nat.mod_eq_sub_mod due]
    rfl
  | case2 m pending rest =>
    have less : pending < s.cpuHz := Nat.lt_of_not_le rest
    rw [deliver, if_neg rest, Nat.div_eq_of_lt less, Nat.mod_eq_of_lt less]
    rfl

theorem runFrom_done {snapshot : Snapshot} {last : Machine} (ended : m.step = .done snapshot last)
    (s : Session) (pending executed : Nat) (notices : Array Notice) (left : Nat) :
    s.runFrom m pending executed notices (left + 1)
      = s.runFrom (last.tickTimes ((pending + s.timerHz) / s.cpuHz))
          ((pending + s.timerHz) % s.cpuHz) (executed + 1)
          (notices ++ snapshot.notice?.toArray) left := by
  simp only [runFrom, ended, Outcome.done, deliver_eq]

theorem runFrom_fault {f : Fault} {last : Machine} (faulted : m.step = .fault f last)
    (bounds : f.isBounds = true) (s : Session) (pending executed : Nat) (notices : Array Notice)
    (left : Nat) :
    s.runFrom m pending executed notices (left + 1)
      = { session := { s with lastError := some f }
          machine := last
          executed
          notices := (notices.push (.sessionHalted last.cpu.pc f)).toList } := by
  rw [runFrom, faulted]
  exact if_pos bounds

theorem Passes.zero (s : Session) (m : Machine) : s.Passes m 0 :=
  fun _ less => absurd less (Nat.not_lt_zero _)

theorem Passes.succ (passes : s.Passes m k) {snapshot : Snapshot} {last : Machine}
    (ended : (m.afterAll (s.schedule k)).step = .done snapshot last) : s.Passes m (k + 1) := by
  intro j less
  cases Nat.lt_succ_iff_lt_or_eq.mp less with
  | inl earlier => exact passes j earlier
  | inr now =>
    subst now
    exact ⟨snapshot, last, ended⟩

theorem Passes.mono (passes : s.Passes m k) {j : Nat} (most : j ≤ k) : s.Passes m j :=
  fun i less => passes i (Nat.lt_of_lt_of_le less most)

theorem Completes.unique {other : Nat} (one : s.Completes m n k) (two : s.Completes m n other) :
    other = k := by
  have least {a b : Nat} (first : s.Completes m n a) (second : s.Completes m n b) : ¬ a < b := by
    intro less
    obtain ⟨snapshot, last, ended⟩ := second.completed a less
    obtain ⟨f, after, _, faulted⟩ := first.stopped (Nat.lt_of_lt_of_le less second.most)
    rw [ended] at faulted
    cases congrArg Outcome.result faulted
  have lower := least one two
  have upper := least two one
  omega

end Session

namespace Machine

variable {m : Machine}

theorem afterAll_ticks (m : Machine) (n : Nat) :
    m.afterAll (List.replicate n .tick) = m.tickTimes n := by
  induction n generalizing m with
  | zero => rfl
  | succ n ih => exact ih m.tick

theorem cycles_tickTimes (m : Machine) (n : Nat) : (m.tickTimes n).cycles = m.cycles := by
  induction n generalizing m with
  | zero => rfl
  | succ n ih => exact ih m.tick

theorem ticks_tickTimes (m : Machine) (n : Nat) : (m.tickTimes n).ticks = m.ticks + n := by
  induction n generalizing m with
  | zero => rfl
  | succ n ih =>
    have later : (m.tickTimes (n + 1)).ticks = m.ticks + 1 + n := ih m.tick
    omega

/-- A step of the schedule that completes is followed by its ticks. -/
theorem afterAll_schedule_succ {s : Session} {j : Nat} {snapshot : Snapshot} {last : Machine}
    (ended : (m.afterAll (s.schedule j)).step = .done snapshot last) :
    m.afterAll (s.schedule (j + 1)) = last.tickTimes (s.ticksBy (j + 1) - s.ticksBy j) := by
  have state : (m.afterAll (s.schedule j)).after .step = last := congrArg Outcome.state ended
  rw [Session.schedule, afterAll_append, ← afterAll_ticks, ← state]
  rfl

theorem counts_schedule (wf : m.toCore.WellFormed) {s : Session} {k : Nat}
    (passes : s.Passes m k) :
    (m.afterAll (s.schedule k)).cycles = m.cycles + k ∧
      (m.afterAll (s.schedule k)).ticks = m.ticks + s.ticksBy k := by
  induction k with
  | zero => simp [Session.schedule, afterAll, Session.ticksBy]
  | succ k ih =>
    obtain ⟨cycles, ticks⟩ := ih (passes.mono (Nat.le_succ k))
    obtain ⟨snapshot, last, ended⟩ := passes k (Nat.lt_succ_self k)
    obtain ⟨core, done⟩ := exists_executed (afterAll_wellFormed wf _) ended
    have grown := s.ticksBy_le_succ k
    rw [afterAll_schedule_succ ended, cycles_tickTimes, ticks_tickTimes, done.last]
    exact ⟨by dsimp only; omega, by dsimp only; omega⟩

end Machine

namespace Session

variable {m : Machine}

/-- A step that ends takes a run on along the schedule: what is pending stays the rest that the ticks
so far have left. -/
theorem runFrom_schedule (s : Session) {j : Nat} {snapshot : Snapshot} {last : Machine}
    (ended : (m.afterAll (s.schedule j)).step = .done snapshot last) (left : Nat)
    (notices : Array Notice) : ∃ notices',
      s.runFrom (m.afterAll (s.schedule j)) (j * s.timerHz % s.cpuHz) j notices (left + 1)
        = s.runFrom (m.afterAll (s.schedule (j + 1))) ((j + 1) * s.timerHz % s.cpuHz) (j + 1)
            notices' left := by
  have due : s.ticksBy (j + 1) - s.ticksBy j
      = (j * s.timerHz % s.cpuHz + s.timerHz) / s.cpuHz := by
    rw [ticksBy_succ, Nat.add_sub_cancel]
  rw [runFrom_done ended, ← due, ← Machine.afterAll_schedule_succ ended, ← pending_succ]
  exact ⟨_, rfl⟩

/-- The rest of a run, from where the schedule has come to. -/
theorem runFrom_follows (s : Session) (wf : m.toCore.WellFormed) (left j : Nat)
    (notices : Array Notice) (passes : s.Passes m j) :
    ∃ k, s.Completes m (j + left) k ∧ s.Follows m (j + left) k
      (s.runFrom (m.afterAll (s.schedule j)) (j * s.timerHz % s.cpuHz) j notices left) := by
  induction left generalizing j notices with
  | zero =>
    refine ⟨j, ⟨Nat.le_refl j, passes, fun less => absurd less (Nat.lt_irrefl j)⟩, ?_⟩
    constructor
    · rfl
    · rfl
    · exact fun _ => ⟨rfl, rfl⟩
    · exact fun less => absurd less (Nat.lt_irrefl j)
  | succ left ih =>
    cases Machine.step_ends_or_faults (Machine.afterAll_wellFormed wf (s.schedule j)) with
    | inl ended =>
      obtain ⟨snapshot, last, ended, _⟩ := ended
      obtain ⟨notices', next⟩ := runFrom_schedule s ended left notices
      rw [next, Nat.add_left_comm, Nat.add_comm left]
      exact ih (j + 1) notices' (passes.succ ended)
    | inr faulted =>
      obtain ⟨f, bounds, faulted⟩ := faulted
      refine ⟨j, ⟨by omega, passes, fun _ => ⟨f, _, bounds, faulted⟩⟩, ?_⟩
      rw [runFrom_fault faulted bounds]
      constructor
      · rfl
      · rfl
      · intro all
        omega
      · exact fun _ => ⟨f, faulted, rfl⟩

theorem run_follows (s : Session) (wf : m.toCore.WellFormed) (n : Nat) :
    ∃ k, s.Completes m n k ∧ s.Follows m n k (s.run m n) := by
  have positive : ¬ (n : Int) < 0 := by omega
  have none : 0 = 0 * s.timerHz % s.cpuHz := by rw [Nat.zero_mul, Nat.zero_mod]
  have whole := runFrom_follows s wf n 0 #[] (.zero s m)
  rw [Nat.zero_add, ← none] at whole
  rw [run, if_neg positive]
  exact whole

/-- A run counts the steps that completed and the ticks that fell due after them. -/
theorem Follows.counts {s : Session} {n k : Nat} {run : Run} (wf : m.toCore.WellFormed)
    (completes : s.Completes m n k) (follows : s.Follows m n k run) :
    run.machine.cycles = m.cycles + k ∧ run.machine.ticks = m.ticks + s.ticksBy k := by
  have counted := Machine.counts_schedule wf completes.completed
  cases Nat.lt_or_eq_of_le completes.most with
  | inl less =>
    obtain ⟨f, faulted, _⟩ := follows.halted less
    rw [Machine.fetched_of_fault (Machine.afterAll_wellFormed wf _) faulted]
    exact counted
  | inr all =>
    rw [(follows.whole all).1]
    exact counted

/-- A run keeps the exact schedule. One number of its steps completes before a bounds fault stops
the next one or the run is over; the run is the schedule of these steps, with the ticks that have
fallen due after each of them, and then the step that faults. -/
theorem run_keeps_schedule (reachable : m.Reachable) (s : Session) (n : Nat) :
    ∃ k, (∀ other, s.Completes m n other ↔ other = k) ∧ s.Follows m n k (s.run m n) ∧
      (∀ j ≤ k, (m.afterAll (s.schedule j)).cycles = m.cycles + j ∧
        (m.afterAll (s.schedule j)).ticks = m.ticks + j * s.timerHz / s.cpuHz) ∧
      (s.run m n).machine.cycles = m.cycles + k ∧
      (s.run m n).machine.ticks = m.ticks + k * s.timerHz / s.cpuHz := by
  have wf := reachable.wellFormed
  obtain ⟨k, completes, follows⟩ := s.run_follows wf n
  refine ⟨k, ?_, follows, ?_, follows.counts wf completes⟩
  · intro other
    constructor
    · exact completes.unique
    · rintro rfl
      exact completes
  · intro j most
    exact Machine.counts_schedule wf (completes.completed.mono most)

/-- A program that sets a register and returns from nowhere, with five ticks to two steps. -/
theorem run_keeps_schedule_underflow :
    ∃ (m : Machine) (s : Session), m.Reachable ∧ s.cpuHz = 2 ∧ s.timerHz = 5 ∧
      (s.run m (10 : Nat)).executed = 1 ∧ (s.run m (10 : Nat)).machine.cycles = m.cycles + 1 ∧
      (s.run m (10 : Nat)).machine.ticks = m.ticks + 2 ∧
      (s.run m (10 : Nat)).session.lastError = some .stackUnderflow := by
  have fits : ([0x60, 0x01, 0x00, 0xEE] : Program).length ≤ maxProgramSize := by decide
  have reachable := Machine.reachable_ofBus fits 0
  have wf := reachable.wellFormed
  have set : Opcode.decode 0x6001 = .setByte 0 1 := by decide
  have sets : Opcode.ofBytes 0x60 0x01 = 0x6001 := by decide
  have ret : Opcode.decode 0x00EE = .ret := by decide
  have returns : Opcode.ofBytes 0x00 0xEE = 0x00EE := by decide
  obtain ⟨snapshot, last, ended, _, done⟩ :=
    Machine.executed_of_image wf fits rfl (k := 0) rfl (by decide) set sets rfl
  let s : Session := { cpuHz := 2, timerHz := 5 }
  have due : s.ticksBy 1 - s.ticksBy 0 = 2 := by decide
  have later {m : Machine} (ended : m.step = .done snapshot last) :
      m.afterAll (s.schedule 1) = last.tickTimes 2 := by
    rw [← due]
    exact Machine.afterAll_schedule_succ (j := 0) ended
  have behind : (last.tickTimes 2).bus = .holding (Memory.image [0x60, 0x01, 0x00, 0xEE]) #[] := by
    rw [done.last]
    rfl
  have pc : (last.tickTimes 2).cpu.pc = ((programStart + 2 : Nat) : Int) := by
    rw [done.last]
    decide
  have empty : (last.tickTimes 2).cpu.sp = 0 := by
    rw [done.last]
    rfl
  have fault := Machine.fault?_of_image fits behind pc (by decide) ret returns
  rw [Instruction.fault?, if_pos empty, ← later ended] at fault
  have faulted := Machine.step_fault (Machine.afterAll_wellFormed wf (s.schedule 1)) fault
  obtain ⟨k, only, follows, _, cycles, ticks⟩ := run_keeps_schedule reachable s 10
  have one : 1 = k :=
    (only 1).mp ⟨by decide, (Passes.zero s _).succ ended, fun _ => ⟨_, _, rfl, faulted⟩⟩
  subst one
  obtain ⟨f, stopped, halted⟩ := follows.halted (by decide)
  rw [faulted] at stopped
  have same : Fault.stackUnderflow = f := Except.error.inj (congrArg Outcome.result stopped)
  have error := congrArg Session.lastError halted
  have ratio : 1 * s.timerHz / s.cpuHz = 2 := by decide
  rw [← same] at error
  rw [ratio] at ticks
  exact ⟨_, s, reachable, rfl, rfl, follows.executed, cycles, ticks, error⟩

end Session

end Chip8
