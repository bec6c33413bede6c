import Chip8.Proofs.Inputs

/-! Halting. What a step fails on is the counter, the word there, the depth of the stack, the index
or a register, and a failed step leaves all of these. Signals do not reach them. So a machine that
has failed once fails in the same way for as long as nothing but steps and signals come to it. -/

namespace Chip8.Machine

variable {m : Machine} {f : Fault}

/-- A step that fails and a signal leave what programs compute with, and the cycle count. -/
theorem alike_after_of_fault (wf : m.toCore.WellFormed) (fault : m.toCore.fault? = some f)
    {event : Event} (routine : event.isRoutine = true) :
    m.Alike (m.after event) ∧ (m.after event).cycles = m.cycles := by
  rcases cases_isRoutine routine with rfl | signal
  · rw [after, step_fault wf fault]
    constructor
    · constructor <;> rfl
    · rfl
  · refine ⟨.after_signal signal, ?_⟩
    rw [after_signal signal]

theorem fault?_eq_of_alike {n : Machine} (wf : m.toCore.WellFormed) (wf' : n.toCore.WellFormed)
    (alike : m.Alike n) : m.toCore.fault? = n.toCore.fault? :=
  Core.fault?_eq_of_like alike.like (alike.bus wf wf')

theorem alike_afterAll_of_fault (wf : m.toCore.WellFormed) (fault : m.toCore.fault? = some f)
    {events : List Event} (routine : ∀ event ∈ events, event.isRoutine = true) :
    m.Alike (m.afterAll events) ∧ (m.afterAll events).cycles = m.cycles := by
  induction events generalizing m with
  | nil => exact ⟨.refl m, rfl⟩
  | cons event rest ih =>
    obtain ⟨now, later⟩ := List.forall_mem_cons.mp routine
    have kept := after_wellFormed wf event
    obtain ⟨one, cycles⟩ := alike_after_of_fault wf fault now
    have same := (fault?_eq_of_alike wf kept one).symm.trans fault
    obtain ⟨others, total⟩ := ih kept same later
    exact ⟨one.trans others, total.trans cycles⟩

/-- A fault is permanent. After steps and signals of any number and order the next step fails with
the same fault, and what programs compute with and the cycle count have not changed. -/
theorem fault_lasts (reachable : m.Reachable) (failed : m.step.result = .error f)
    {events : List Event} (routine : ∀ event ∈ events, event.isRoutine = true) :
    (m.afterAll events).step.result = .error f ∧ m.Alike (m.afterAll events) ∧
      (m.afterAll events).cycles = m.cycles := by
  have wf := reachable.wellFormed
  have kept := afterAll_wellFormed wf events
  have fault := (result_step_error_iff wf f).mp failed
  obtain ⟨alike, cycles⟩ := alike_afterAll_of_fault wf fault routine
  refine ⟨?_, alike, cycles⟩
  rw [result_step_error_iff kept, ← fault?_eq_of_alike wf kept alike]
  exact fault

/-- A program that asks for a key beyond the keypad. Pressing keys does not help. -/
theorem fault_lasts_keypad :
    ∃ m : Machine, m.Reachable ∧ m.step.result = .error (.keypad 0x10) ∧
      (m.afterAll [.setKey 0 true, .step, .tick, .step, .takeFrame]).step.result
        = .error (.keypad 0x10) ∧
      m.Alike (m.afterAll [.setKey 0 true, .step, .tick, .step, .takeFrame]) := by
  have fits : ([0x60, 0x10, 0xE0, 0x9E] : Program).length ≤ maxProgramSize := by decide
  have reachable := reachable_ofBus fits 0
  have set : Opcode.decode 0x6010 = .setByte 0 0x10 := by decide
  have sets : Opcode.ofBytes 0x60 0x10 = 0x6010 := by decide
  have skip : Opcode.decode 0xE09E = .skipPressed 0 := by decide
  have skips : Opcode.ofBytes 0xE0 0x9E = 0xE09E := by decide
  obtain ⟨_, last, ended, _, done⟩ :=
    executed_of_image reachable.wellFormed fits rfl (k := 0) rfl (by decide) set sets rfl
  have later := Reachable.after .step reachable
  have state : after _ .step = last := congrArg Outcome.state ended
  rw [state] at later
  have key : last.cpu.v.get 0 = 0x10 := by
    rw [done.last]
    rfl
  have fault := fault?_of_image (m := last) fits (by rw [done.last]; rfl) (k := 2)
    (by rw [done.last]; decide) (by decide) skip skips
  rw [Instruction.fault?, key, if_pos (by decide)] at fault
  have failed := (result_step_error_iff later.wellFormed _).mpr fault
  have routine : ∀ event ∈ [Event.setKey 0 true, .step, .tick, .step, .takeFrame],
      event.isRoutine = true := by
    simp [Event.isRoutine, Event.isSignal]
  obtain ⟨again, alike, _⟩ := fault_lasts later failed routine
  exact ⟨last, later, failed, again, alike⟩

end Chip8.Machine
