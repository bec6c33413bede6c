import Chip8.Proofs.Faults
import Chip8.Proofs.Frame

/-! Runs of events. A step of a well-formed machine fails and leaves the processor as it was, or it
ends with what its instruction makes of the machine behind the fetch. The other events, a reset
apart, do not disturb the program: they reach the keys, the timers and the mark of the picture. -/

namespace Chip8

def Event.isReset : Event → Bool
  | reset _ => true
  | _ => false

/-- What a program works with is as it was. -/
structure Cpu.Undisturbed (before after : Cpu) : Prop where
  v : after.v = before.v
  i : after.i = before.i
  pc : after.pc = before.pc
  sp : after.sp = before.sp
  stack : after.stack = before.stack
  display : after.display = before.display
  random : after.random = before.random

theorem Cpu.Spares.behind {form : Form} {cpu after : Cpu} {target : Int}
    (spared : (cpu.jump target).Spares form after) : cpu.Spares form after :=
  { spared with }

namespace Machine

/-- The machine after events, one after another. -/
def afterAll (m : Machine) (events : List Event) : Machine :=
  events.foldl after m

/-- A number of steps, as long as they end, and their snapshots. -/
def stepTimes (m : Machine) : Nat → Outcome Machine (List Snapshot)
  | 0 => .done [] m
  | n + 1 =>
    m.step.andThen fun snapshot m =>
      (m.stepTimes n).andThen fun rest m => .done (snapshot :: rest) m

variable {m : Machine}

theorem afterAll_append (m : Machine) (first second : List Event) :
    m.afterAll (first ++ second) = (m.afterAll first).afterAll second :=
  List.foldl_append

theorem Reachable.afterAll (reachable : m.Reachable) (events : List Event) :
    (m.afterAll events).Reachable := by
  induction events generalizing m with
  | nil => exact reachable
  | cons event rest ih => exact ih (.after event reachable)

theorem stepTimes_succ {n : Nat} {snapshots : List Snapshot} {last : Machine}
    (ran : m.stepTimes (n + 1) = .done snapshots last) :
    ∃ snapshot next rest, m.step = .done snapshot next ∧ next.stepTimes n = .done rest last ∧
      snapshots = snapshot :: rest := by
  obtain ⟨snapshot, next, first, later⟩ := Outcome.exists_of_andThen ran
  obtain ⟨rest, final, ran, ended⟩ := Outcome.exists_of_andThen later
  cases ended
  exact ⟨snapshot, next, rest, first, ran, rfl⟩

theorem length_of_stepTimes {n : Nat} {snapshots : List Snapshot} {last : Machine}
    (ran : m.stepTimes n = .done snapshots last) : snapshots.length = n := by
  induction n generalizing m snapshots with
  | zero =>
    cases ran
    rfl
  | succ n ih =>
    obtain ⟨snapshot, next, rest, _, later, rfl⟩ := stepTimes_succ ran
    rw [List.length_cons, ih later]

theorem state_stepTimes_succ {snapshot : Snapshot} {next : Machine}
    (first : m.step = .done snapshot next) (n : Nat) :
    (m.stepTimes (n + 1)).state = (next.stepTimes n).state := by
  rw [stepTimes, first, Outcome.andThen_done]
  cases next.stepTimes n with
  | mk result last => cases result <;> rfl

theorem afterAll_wellFormed (wf : m.toCore.WellFormed) (events : List Event) :
    (m.afterAll events).toCore.WellFormed := by
  induction events generalizing m with
  | nil => exact wf
  | cons event rest ih => exact ih (after_wellFormed wf event)

theorem wellFormed_of_step (wf : m.toCore.WellFormed) {snapshot : Snapshot} {last : Machine}
    (ended : m.step = .done snapshot last) : last.toCore.WellFormed := by
  have kept := step_wellFormed wf
  rw [ended] at kept
  exact kept

/-- A step that ends counts no tick. -/
theorem ticks_of_step {snapshot : Snapshot} {last : Machine}
    (ended : m.step = .done snapshot last) : last.ticks = m.ticks := by
  obtain ⟨opcode, between, stepped, kept⟩ := Outcome.exists_of_andThen ended
  obtain ⟨core, _, rfl⟩ := Outcome.exists_of_onState stepped
  cases kept
  rfl

/-- Behind its fetch the counter stands two addresses further. -/
theorem pc_behind (wf : m.toCore.WellFormed) (inside : m.cpu.pc ≤ 0xFFE) :
    m.toCore.behind.cpu.pc = m.cpu.pc + instructionLength := by
  have low := wf.cpu.pc.1
  have length : (instructionLength : Int) = 2 := rfl
  exact congrArg Cpu.pc (Cpu.jump_eq m.cpu (by omega))

/-- A step ends, sparing what its form spares, or a bounds fault stops it. -/
theorem step_ends_or_faults (wf : m.toCore.WellFormed) :
    (∃ snapshot last, m.step = .done snapshot last ∧
        m.cpu.Spares snapshot.instruction.form last.cpu) ∨
      ∃ f, f.isBounds = true ∧ m.step = .fault f (m.withCore m.toCore.fetched) := by
  cases fault : m.toCore.fault? with
  | some f => exact .inr ⟨f, Core.isBounds_of_fault? fault, step_fault wf fault⟩
  | none =>
    obtain ⟨snapshot, last, ended, _⟩ := exists_snapshot wf fault
    obtain ⟨core, done⟩ := exists_executed wf ended
    refine .inl ⟨snapshot, last, ended, ?_⟩
    rw [done.last]
    exact (Core.spares_of_execute done.executed).cpu.behind

theorem fetched_of_fault (wf : m.toCore.WellFormed) {f : Fault} {last : Machine}
    (faulted : m.step = .fault f last) : last = m.withCore m.toCore.fetched := by
  cases step_ends_or_faults wf with
  | inl ended =>
    obtain ⟨snapshot, after, ended, _⟩ := ended
    rw [ended] at faulted
    cases congrArg Outcome.result faulted
  | inr stopped =>
    obtain ⟨g, _, stopped⟩ := stopped
    rw [stopped] at faulted
    exact (congrArg Outcome.state faulted).symm

/-- Taking a frame clears the mark of the picture and nothing else. -/
theorem takeFrame_eq (m : Machine) :
    m.takeFrame = (if m.cpu.redraw then some m.cpu.display else none,
      m.withCpu { m.cpu with redraw := false }) := by
  cases marked : m.cpu.redraw with
  | true => simp [takeFrame, Cpu.takeFrame, marked]
  | false =>
    have same : { m.cpu with redraw := false } = m.cpu := by rw [← marked]
    simp [takeFrame, Cpu.takeFrame, marked, same]

theorem cpu_accessed (m : Machine) (access : Except Fault Bus) :
    (m.accessed access).cpu = m.cpu := by
  cases access <;> rfl

theorem after_setKey (m : Machine) (key : Fin 16) (held : Bool) :
    m.after (.setKey key held)
      = m.withCpu { m.cpu with keys := m.cpu.keys.setIfInBounds key.val held } := by
  have found : Cpu.key? key.val = some key := dif_pos (by omega)
  rw [after, setKey?, Cpu.setKey?, found, ← set_eq_setIfInBounds]
  rfl

theorem undisturbed_after {event : Event} (noStep : event ≠ .step)
    (noReset : event.isReset = false) : m.cpu.Undisturbed (m.after event).cpu := by
  cases event with
  | step => contradiction
  | tick => constructor <;> rfl
  | setKey key held =>
    rw [after_setKey]
    constructor <;> rfl
  | takeFrame =>
    rw [after, takeFrame_eq]
    constructor <;> rfl
  | reset given => contradiction
  | load address byte =>
    rw [after, cpu_accessed]
    constructor <;> rfl
  | write address byte =>
    rw [after, cpu_accessed]
    constructor <;> rfl

end Machine

end Chip8
