import Chip8.Proofs.Replay
import Chip8.Proofs.Signals

/-! Inputs. A program learns of the timers, the keys and the generator only through the
instructions that read them. Two machines that agree on everything that programs compute with take
the same steps, whatever signals come in between, until an instruction has read an input. -/

namespace Chip8

/-- Whether what an instruction does depends on a timer, on the keys or on a random byte. A byte of
which no bit is kept does not count. -/
def Instruction.readsInput : Instruction → Bool
  | readDelay _ | skipPressed _ | skipReleased _ | waitKey _ => true
  | random _ mask => mask.val ≠ 0
  | _ => false

/-- What a machine does by itself, and signals to it. -/
def Event.isRoutine : Event → Bool
  | step => true
  | event => event.isSignal

/-- The timers, the keys, the mark and the generators may differ in any way. -/
def Likeness.free : Likeness where
  dt _ _ := True
  st _ _ := True
  keys _ _ := True
  redraw _ _ := True
  random _ _ := True

theorem Instruction.readsInput_of_form {i : Instruction}
    (form : i.form = .readDelay ∨ i.form.looksAtKeys = true) : i.readsInput = true := by
  cases i with
  | readDelay x | skipPressed x | skipReleased x | waitKey x => rfl
  | _ => simp [Instruction.form, Form.looksAtKeys] at form

theorem Likeness.free_keptBy {i : Instruction} (blind : i.readsInput = false) :
    Likeness.free.KeptBy i := by
  have same := equal_keptBy i
  have unread : ¬ (i.form = .readDelay ∨ i.form.looksAtKeys = true) := by
    intro form
    exact Bool.false_ne_true (blind.symm.trans (Instruction.readsInput_of_form form))
  constructor
  · exact same.push
  · exact same.pop
  · exact fun form => absurd (.inl form) unread
  · exact fun _ _ => trivial
  · exact fun _ _ => trivial
  · exact fun looks => absurd (.inr looks) unread
  · exact fun _ => trivial
  · intro x mask random one two _
    subst random
    have masked : mask.val = 0 := by simpa [Instruction.readsInput] using blind
    rw [masked, Nat.and_zero, Nat.and_zero]
    exact ⟨trivial, rfl⟩

namespace Machine

/-- Two machines agree on everything that programs compute with. -/
structure Alike (m n : Machine) : Prop where
  pc : m.cpu.pc = n.cpu.pc
  v : m.cpu.v = n.cpu.v
  i : m.cpu.i = n.cpu.i
  sp : m.cpu.sp = n.cpu.sp
  stack : m.cpu.stack = n.cpu.stack
  display : m.cpu.display = n.cpu.display
  memory : m.bus.cells = n.bus.cells

/-- The step of a machine completes, and its instruction reads an input. -/
def ReadsInput (m : Machine) : Prop :=
  ∃ snapshot last, m.step = .done snapshot last ∧ snapshot.instruction.readsInput = true

/-- The machines at which the steps of a run are taken, in order. -/
def stepping (m : Machine) : List Event → List Machine
  | [] => []
  | event :: rest =>
    match event with
    | .step => m :: (m.after .step).stepping rest
    | _ => (m.after event).stepping rest

variable {m n o : Machine}

namespace Alike

theorem refl (m : Machine) : m.Alike m := by
  constructor <;> rfl

theorem symm (alike : m.Alike n) : n.Alike m :=
  ⟨alike.pc.symm, alike.v.symm, alike.i.symm, alike.sp.symm, alike.stack.symm,
    alike.display.symm, alike.memory.symm⟩

theorem trans (first : m.Alike n) (second : n.Alike o) : m.Alike o :=
  ⟨first.pc.trans second.pc, first.v.trans second.v, first.i.trans second.i,
    first.sp.trans second.sp, first.stack.trans second.stack,
    first.display.trans second.display, first.memory.trans second.memory⟩

theorem like (alike : m.Alike n) : m.cpu.Like .free n.cpu where
  v := alike.v
  i := alike.i
  pc := alike.pc
  sp := alike.sp
  display := alike.display
  stack := alike.stack
  dt := trivial
  st := trivial
  keys := trivial
  redraw := trivial
  random := trivial

theorem of_like (cpu : m.cpu.Like .free n.cpu) (memory : m.bus.cells = n.bus.cells) :
    m.Alike n :=
  ⟨cpu.pc, cpu.v, cpu.i, cpu.sp, cpu.stack, cpu.display, memory⟩

end Alike

end Machine

/-- The cells determine a standard bus, its log apart. -/
theorem Bus.clearLog_eq_of_cells {first second : Bus} (one : first.IsStandard)
    (two : second.IsStandard) (cells : first.cells = second.cells) :
    first.clearLog = second.clearLog := by
  obtain ⟨memory, log, rfl⟩ := one
  obtain ⟨memory', log', rfl⟩ := two
  rw [cells_holding, cells_holding] at cells
  have same : memory = memory' := by
    apply Vector.ext
    intro a inside
    have byte := congrFun cells a
    rw [Memory.cells_natCast, Memory.cells_natCast, Int.natCast_inj, UInt8.toNat_inj] at byte
    rw [← Memory.byte_eq_getElem, ← Memory.byte_eq_getElem, byte]
  rw [same, clearLog_holding, clearLog_holding]

namespace Machine

variable {m n : Machine}

theorem Alike.bus (alike : m.Alike n) (wf : m.toCore.WellFormed) (wf' : n.toCore.WellFormed) :
    m.bus.clearLog = n.bus.clearLog :=
  Bus.clearLog_eq_of_cells wf.bus wf'.bus alike.memory

theorem Alike.after_signal {event : Event} (signal : event.isSignal = true) :
    m.Alike (m.after event) := by
  rw [Machine.after_signal signal]
  cases event <;> constructor <;> rfl

/-- Steps of machines that are alike are seen as the same and leave the machines alike, unless they
complete an instruction that reads an input. -/
theorem Alike.step (alike : m.Alike n) (wf : m.toCore.WellFormed) (wf' : n.toCore.WellFormed)
    (blind : ¬ m.ReadsInput) : m.observe = n.observe ∧ m.step.state.Alike n.step.state := by
  have kept (harmless : m.toCore.fault? = none) : Likeness.free.KeptBy m.toCore.word.decode := by
    apply Likeness.free_keptBy
    obtain ⟨snapshot, last, ended, same⟩ := exists_snapshot wf harmless
    rw [← same]
    cases reads : snapshot.instruction.readsInput with
    | true => exact absurd ⟨snapshot, last, ended, reads⟩ blind
    | false => rfl
  obtain ⟨seen, one, two, shared, completed, cpus, first, second⟩ :=
    steps_like wf wf' alike.like (alike.bus wf wf') kept
  refine ⟨seen, ?_⟩
  rw [first, second]
  exact .of_like cpus rfl

theorem cases_isRoutine {event : Event} (routine : event.isRoutine = true) :
    event = .step ∨ event.isSignal = true := by
  cases event with
  | step => exact .inl rfl
  | _ => exact .inr routine

theorem stepping_step (m : Machine) (rest : List Event) :
    m.stepping (.step :: rest) = m :: (m.after .step).stepping rest := rfl

theorem stepping_signal {event : Event} (signal : event.isSignal = true) (rest : List Event) :
    m.stepping (event :: rest) = (m.after event).stepping rest := by
  cases event with
  | step => contradiction
  | _ => rfl

/-- Before its first step a run has seen signals only, and behind it it goes on in the same way. -/
theorem exists_first_step (wf : m.toCore.WellFormed) {events : List Event}
    (routine : ∀ event ∈ events, event.isRoutine = true) (some : m.stepping events ≠ []) :
    ∃ (first : Machine) (rest : List Event), m.Alike first ∧ first.toCore.WellFormed ∧
      (∀ event ∈ rest, event.isRoutine = true) ∧
      m.stepping events = first :: (first.after .step).stepping rest := by
  induction events generalizing m with
  | nil => contradiction
  | cons event rest ih =>
    obtain ⟨now, later⟩ := List.forall_mem_cons.mp routine
    rcases cases_isRoutine now with rfl | signal
    · exact ⟨m, rest, .refl m, wf, later, rfl⟩
    · rw [stepping_signal signal] at some ⊢
      obtain ⟨first, tail, same, kept, found⟩ := ih (after_wellFormed wf event) later some
      exact ⟨first, tail, (Alike.after_signal signal).trans same, kept, found⟩

/-- Runs of machines that agree come to the same steps until an instruction has read an input. -/
theorem alike_stepping (wf : m.toCore.WellFormed) (wf' : n.toCore.WellFormed) (alike : m.Alike n)
    {one two : List Event} (routine : ∀ event ∈ one, event.isRoutine = true)
    (routine' : ∀ event ∈ two, event.isRoutine = true) (k : Nat) {a b : Machine}
    (here : (m.stepping one)[k]? = some a) (there : (n.stepping two)[k]? = some b)
    (unread : ∀ j < k, ∀ c, (m.stepping one)[j]? = some c → ¬ c.ReadsInput) :
    a.Alike b ∧ a.toCore.WellFormed ∧ b.toCore.WellFormed := by
  induction k generalizing m n one two with
  | zero =>
    obtain ⟨first, rest, before, kept, _, left⟩ :=
      exists_first_step wf routine (List.ne_nil_of_mem (List.mem_of_getElem? here))
    obtain ⟨second, rest', before', kept', _, right⟩ :=
      exists_first_step wf' routine' (List.ne_nil_of_mem (List.mem_of_getElem? there))
    rw [left] at here
    rw [right] at there
    cases here
    cases there
    exact ⟨(before.symm.trans alike).trans before', kept, kept'⟩
  | succ k ih =>
    obtain ⟨first, rest, before, kept, signals, left⟩ :=
      exists_first_step wf routine (List.ne_nil_of_mem (List.mem_of_getElem? here))
    obtain ⟨second, rest', before', kept', signals', right⟩ :=
      exists_first_step wf' routine' (List.ne_nil_of_mem (List.mem_of_getElem? there))
    rw [left] at here unread
    rw [right] at there
    have blind : ¬ first.ReadsInput := unread 0 (Nat.succ_pos k) first rfl
    have stepped := (((before.symm.trans alike).trans before').step kept kept' blind).2
    apply ih (after_wellFormed kept .step) (after_wellFormed kept' .step) stepped signals signals'
      here there
    intro j less c found
    exact unread (j + 1) (Nat.succ_lt_succ less) c found

/-- Outside inputs enter through the instructions that read them. Two machines agree on everything
that programs compute with, and their runs have signals at different places: until a step of one
run has read an input, the steps of both decode the same word. As long as the last of these steps
reads none itself, both are seen as the same, with the same fault if they fail, and leave machines
that agree. -/
theorem inputs_enter_by_reading (reachable : m.Reachable) (reachable' : n.Reachable)
    (alike : m.Alike n) {one two : List Event}
    (routine : ∀ event ∈ one, event.isRoutine = true)
    (routine' : ∀ event ∈ two, event.isRoutine = true) (k : Nat) {a b : Machine}
    (here : (m.stepping one)[k]? = some a) (there : (n.stepping two)[k]? = some b)
    (unread : ∀ j < k, ∀ c, (m.stepping one)[j]? = some c → ¬ c.ReadsInput) :
    a.Alike b ∧ a.observe.fetched = b.observe.fetched ∧
      (¬ a.ReadsInput → a.observe = b.observe ∧ a.step.state.Alike b.step.state) := by
  obtain ⟨same, wf, wf'⟩ := alike_stepping reachable.wellFormed reachable'.wellFormed alike routine
    routine' k here there unread
  refine ⟨same, ?_, same.step wf wf'⟩
  exact fetched_eq_of_like wf wf' same.like (same.bus wf wf')

/-- Machines that are built alike, with any seeds, agree. -/
theorem alike_ofBus (bus : Bus) (seed other : Option Int) :
    (ofBus bus seed).Alike (ofBus bus other) := by
  have initial (one two : Generator) : (Cpu.initial one).Like .free (Cpu.initial two) := by
    constructor <;> first | rfl | trivial
  exact .of_like (initial _ _) rfl

theorem not_readsInput_of_done {snapshot : Snapshot} {last : Machine}
    (ended : m.step = .done snapshot last) (blind : snapshot.instruction.readsInput = false) :
    ¬ m.ReadsInput := by
  rintro ⟨other, after, same, reads⟩
  rw [ended] at same
  cases same
  exact Bool.false_ne_true (blind.symm.trans reads)

theorem not_readsInput_of_fault {f : Fault} {last : Machine} (stopped : m.step = .fault f last) :
    ¬ m.ReadsInput := by
  rintro ⟨snapshot, after, same, _⟩
  rw [stopped] at same
  cases congrArg Outcome.result same

/-- A program that sets the delay timer and then returns from nowhere, on machines with different
seeds. One of them runs with a tick, a key and a frame in between; both end with the same fault. -/
theorem inputs_enter_by_reading_underflow :
    ∃ m n a b : Machine, m.Reachable ∧ n.Reachable ∧ m.Alike n ∧
      (m.stepping [.step, .step, .step])[2]? = some a ∧
      (n.stepping [.tick, .step, .setKey 3 true, .step, .takeFrame, .step])[2]? = some b ∧
      a.observe.ended = .error .stackUnderflow ∧ a.observe = b.observe ∧
      a.step.state.Alike b.step.state := by
  have fits : ([0x60, 0x05, 0xF0, 0x15, 0x00, 0xEE] : Program).length ≤ maxProgramSize := by decide
  have reachable := reachable_ofBus fits 0
  have reachable' := reachable_ofBus fits 1
  have wf := reachable.wellFormed
  have set : Opcode.decode 0x6005 = .setByte 0 5 := by decide
  have sets : Opcode.ofBytes 0x60 0x05 = 0x6005 := by decide
  have delay : Opcode.decode 0xF015 = .setDelay 0 := by decide
  have delays : Opcode.ofBytes 0xF0 0x15 = 0xF015 := by decide
  have ret : Opcode.decode 0x00EE = .ret := by decide
  have returns : Opcode.ofBytes 0x00 0xEE = 0x00EE := by decide
  obtain ⟨_, next, ended, isSet, done⟩ :=
    executed_of_image wf fits rfl (k := 0) rfl (by decide) set sets rfl
  have wf' := wellFormed_of_step wf ended
  obtain ⟨_, last, ended', isDelay, done'⟩ :=
    executed_of_image wf' fits (by rw [done.last]; rfl) (k := 2)
      (by rw [done.last]; decide) (by decide) delay delays rfl
  have fault := fault?_of_image (m := last) fits (by rw [done'.last, done.last]; rfl) (k := 4)
    (by rw [done'.last, done.last]; decide) (by decide) ret returns
  have empty : last.cpu.sp = 0 := by
    rw [done'.last, done.last]
    rfl
  rw [Instruction.fault?, if_pos empty] at fault
  have stopped := step_fault (wellFormed_of_step wf' ended') fault
  have state : after _ .step = next := congrArg Outcome.state ended
  have state' : next.after .step = last := congrArg Outcome.state ended'
  have alike := alike_ofBus (.holding (Memory.image [0x60, 0x05, 0xF0, 0x15, 0x00, 0xEE]) #[])
    (some 0) (some 1)
  have steps {m : Machine} (state : m.after .step = next) :
      m.stepping [.step, .step, .step] = [m, next, last] := by
    rw [stepping_step, stepping_step, stepping_step, state, state']
    rfl
  have here := congrArg (fun machines : List Machine => machines[2]?) (steps state)
  have routine : ∀ event ∈ [Event.step, .step, .step], event.isRoutine = true := by
    simp [Event.isRoutine]
  have routine' : ∀ event ∈ [Event.tick, .step, .setKey 3 true, .step, .takeFrame, .step],
      event.isRoutine = true := by
    simp [Event.isRoutine, Event.isSignal]
  obtain ⟨_, _, same⟩ :=
    inputs_enter_by_reading reachable reachable' alike routine routine' 2 here rfl (by
      intro j less c found
      rw [steps state] at found
      obtain rfl | rfl : j = 0 ∨ j = 1 := by omega
      · cases found
        exact not_readsInput_of_done ended (by rw [isSet]; rfl)
      · cases found
        exact not_readsInput_of_done ended' (by rw [isDelay]; rfl))
  obtain ⟨seen, left⟩ := same (not_readsInput_of_fault stopped)
  have failed : last.observe.ended = .error .stackUnderflow := by rw [observe_of_fault stopped]
  exact ⟨_, _, last, _, reachable, reachable', alike, here, rfl, failed, seen, left⟩

end Machine

end Chip8
