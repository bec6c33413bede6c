import Chip8.Proofs.Runs

/-! Calls and returns. Only a call writes to the stack, and it writes above the entries in use; only
a return takes an entry away, the topmost. So an entry lasts as long as the stack stays deeper, and
the return that takes the entry of a call goes behind that call, whatever happened in between. -/

namespace Chip8

/-- The stack entries below a depth are the same. -/
def Cpu.SameBelow (depth : Int) (one two : Cpu) : Prop :=
  ∀ k : Fin 16, (k.val : Int) < depth → two.stack.get k = one.stack.get k

namespace Cpu.SameBelow

variable {depth : Int} {one two three : Cpu}

theorem of_eq (same : two.stack = one.stack) : one.SameBelow depth two := by
  intro k _
  rw [same]

theorem trans (first : one.SameBelow depth two) (second : two.SameBelow depth three) :
    one.SameBelow depth three := by
  intro k below
  rw [second k below, first k below]

theorem mono {lower : Int} (le : lower ≤ depth) (same : one.SameBelow depth two) :
    one.SameBelow lower two := by
  intro k below
  exact same k (by omega)

end Cpu.SameBelow

namespace Instruction

theorem exists_of_form_call {i : Instruction} (form : i.form = .call) :
    ∃ target, i = call target := by
  cases i with
  | call target => exact ⟨target, rfl⟩
  | _ => cases form

theorem eq_of_form_ret {i : Instruction} (form : i.form = .ret) : i = ret := by
  cases i with
  | ret => rfl
  | _ => cases form

end Instruction

namespace Machine

variable {m : Machine}

/-- A call puts its own address on top of the stack. -/
theorem of_called (wf : m.toCore.WellFormed) {snapshot : Snapshot} {last : Machine}
    (ended : m.step = .done snapshot last) (form : snapshot.instruction.form = .call) :
    ∃ slot : Fin 16, m.cpu.sp = slot.val ∧ last.cpu.sp = slot.val + 1 ∧
      last.cpu.stack.get slot = m.cpu.pc ∧ m.cpu.SameBelow slot.val last.cpu := by
  obtain ⟨core, done⟩ := exists_executed wf ended
  obtain ⟨target, call⟩ := Instruction.exists_of_form_call form
  have passed := done.passed
  have executed := done.executed
  rw [call] at passed executed
  have room : m.cpu.sp ≠ 16 := not_of_guard passed
  obtain ⟨low, high⟩ := wf.cpu.sp
  obtain ⟨slot, free⟩ := Cpu.exists_slot (n := m.cpu.sp) (by omega)
  have fetched := (Core.behind_wellFormed wf done.inside).2
  rw [Instruction.execute_call fetched slot free target] at executed
  cases executed
  have own : m.toCore.behind.cpu.pc - instructionLength = m.cpu.pc := by
    rw [pc_behind wf done.inside]
    omega
  have entry (k : Fin 16) : last.cpu.stack.get k
      = if k = slot then m.cpu.pc else m.cpu.stack.get k := by
    rw [done.last, ← own]
    exact Cpu.stack_pushedAt _ slot k _
  refine ⟨slot, free, ?_, ?_, ?_⟩
  · rw [done.last, ← free]
    rfl
  · rw [entry, if_pos rfl]
  · intro k below
    have other : k ≠ slot := by
      rintro rfl
      omega
    rw [entry, if_neg other]

/-- A return takes the topmost entry and goes behind the call that left it. -/
theorem of_returned (wf : m.toCore.WellFormed) {snapshot : Snapshot} {last : Machine}
    (ended : m.step = .done snapshot last) (form : snapshot.instruction.form = .ret) :
    ∃ slot : Fin 16, m.cpu.sp = slot.val + 1 ∧ last.cpu.sp = slot.val ∧
      last.cpu.pc = m.cpu.stack.get slot + 2 := by
  obtain ⟨core, done⟩ := exists_executed wf ended
  have ret := Instruction.eq_of_form_ret form
  have passed := done.passed
  have executed := done.executed
  rw [ret] at passed executed
  have filled : m.cpu.sp ≠ 0 := not_of_guard passed
  obtain ⟨low, high⟩ := wf.cpu.sp
  obtain ⟨slot, top⟩ := Cpu.exists_slot (n := m.cpu.sp - 1) (by omega)
  have depth : m.toCore.behind.cpu.sp = slot.val + 1 := by
    change m.cpu.sp = _
    omega
  have bound := wf.cpu.stack slot
  rw [Instruction.execute_ret slot depth] at executed
  cases executed
  refine ⟨slot, depth, ?_, ?_⟩
  · rw [done.last]
    rfl
  · rw [done.last]
    exact congrArg Cpu.pc (Cpu.jump_eq _ (show 0 ≤ m.cpu.stack.get slot + 2 ∧ _ by omega))

theorem stack_of_step (wf : m.toCore.WellFormed) : m.cpu.SameBelow m.cpu.sp m.step.state.cpu := by
  cases step_ends_or_faults wf with
  | inl ended =>
    obtain ⟨snapshot, last, ended, spared⟩ := ended
    rw [ended]
    by_cases form : snapshot.instruction.form = .call
    · obtain ⟨slot, depth, _, _, same⟩ := of_called wf ended form
      rw [depth]
      exact same
    · exact .of_eq (spared.stack form)
  | inr faulted =>
    obtain ⟨f, _, stopped⟩ := faulted
    rw [stopped]
    exact .of_eq rfl

/-- No event but a reset changes a stack entry in use. -/
theorem stack_after (wf : m.toCore.WellFormed) {event : Event} (noReset : event.isReset = false) :
    m.cpu.SameBelow m.cpu.sp (m.after event).cpu := by
  by_cases step : event = .step
  · subst step
    exact stack_of_step wf
  · exact .of_eq (undisturbed_after step noReset).stack

theorem stack_afterAll (wf : m.toCore.WellFormed) {events : List Event}
    (noReset : ∀ event ∈ events, event.isReset = false) {depth : Int}
    (deeper : ∀ early, early <+: events → depth < (m.afterAll early).cpu.sp) :
    m.cpu.SameBelow (depth + 1) (m.afterAll events).cpu := by
  induction events generalizing m with
  | nil => exact .of_eq rfl
  | cons event rest ih =>
    have here : depth < m.cpu.sp := deeper [] List.nil_prefix
    obtain ⟨now, others⟩ := List.forall_mem_cons.mp noReset
    have one := stack_after wf now
    have later := ih (after_wellFormed wf event) others
      (fun early first => deeper (event :: early) (List.cons_prefix_cons.mpr ⟨rfl, first⟩))
    exact (one.mono (by omega)).trans later

/-- Only a return takes an entry from the stack. -/
theorem returned_of_sp_lt (wf : m.toCore.WellFormed) (less : m.step.state.cpu.sp < m.cpu.sp) :
    ∃ snapshot last, m.step = .done snapshot last ∧ snapshot.instruction.form = .ret := by
  cases step_ends_or_faults wf with
  | inl ended =>
    obtain ⟨snapshot, last, ended, spared⟩ := ended
    rw [ended] at less
    refine ⟨snapshot, last, ended, ?_⟩
    by_cases call : snapshot.instruction.form = .call
    · obtain ⟨slot, before, after, _⟩ := of_called wf ended call
      have grown : last.cpu.sp < m.cpu.sp := less
      omega
    · by_cases ret : snapshot.instruction.form = .ret
      · exact ret
      · have same := spared.sp call ret
        exact absurd less (Int.not_lt.mpr (Int.le_of_eq same.symm))
  | inr faulted =>
    obtain ⟨f, _, stopped⟩ := faulted
    rw [stopped] at less
    exact absurd less (Int.lt_irrefl _)

/-- Calls and returns bracket. As long as the stack stays deeper than at a call, the entries of the
caller last; and the step that brings it back is a return to behind the call. -/
theorem call_returns (reachable : m.Reachable) {call : Snapshot} {called : Machine}
    (calls : m.step = .done call called) (form : call.instruction.form = .call)
    {events : List Event} (noReset : ∀ event ∈ events, event.isReset = false)
    (deeper : ∀ early, early <+: events → m.cpu.sp < (called.afterAll early).cpu.sp)
    (back : (called.afterAll events).step.state.cpu.sp = m.cpu.sp) :
    (∀ early, early <+: events → m.cpu.SameBelow m.cpu.sp (called.afterAll early).cpu) ∧
      ∃ ret last, (called.afterAll events).step = .done ret last ∧ ret.instruction = .ret ∧
        last.cpu.pc = m.cpu.pc + 2 ∧ m.cpu.SameBelow m.cpu.sp last.cpu := by
  have wf := reachable.wellFormed
  have inside := wellFormed_of_step wf calls
  obtain ⟨slot, depth, _, own, below⟩ := of_called wf calls form
  have kept (early : List Event) (first : early <+: events) :
      called.cpu.SameBelow (slot.val + 1) (called.afterAll early).cpu := by
    apply stack_afterAll inside
    · intro event member
      exact noReset event (first.subset member)
    · intro earlier before
      rw [← depth]
      exact deeper earlier (before.trans first)
  have lasts (early : List Event) (first : early <+: events) :
      m.cpu.SameBelow slot.val (called.afterAll early).cpu :=
    below.trans ((kept early first).mono (by omega))
  have deep := deeper events List.prefix_rfl
  have wf' := afterAll_wellFormed inside events
  obtain ⟨ret, last, ended, isRet⟩ := returned_of_sp_lt wf' (by omega)
  obtain ⟨top, before, after, pc⟩ := of_returned wf' ended isRet
  have popped := stack_of_step wf'
  rw [ended] at back popped
  have brought : last.cpu.sp = m.cpu.sp := back
  have same : top = slot := Fin.ext (by omega)
  rw [depth]
  refine ⟨lasts, ret, last, ended, Instruction.eq_of_form_ret isRet, ?_, ?_⟩
  · rw [pc, same, kept events List.prefix_rfl slot (by omega), own]
  · exact (lasts events List.prefix_rfl).trans (popped.mono (by omega))

/-- A program that calls a subroutine that returns at once; in between the timers tick. -/
theorem call_returns_ticked :
    ∃ (m called last : Machine) (call ret : Snapshot), m.Reachable ∧
      m.step = .done call called ∧ call.instruction = .call 0x204 ∧
      (called.afterAll [.tick]).step = .done ret last ∧ ret.instruction = .ret ∧
      last.cpu.pc = m.cpu.pc + 2 ∧ m.cpu.SameBelow m.cpu.sp last.cpu := by
  have fits : ([0x22, 0x04, 0x00, 0x00, 0x00, 0xEE] : Program).length ≤ maxProgramSize := by decide
  have reachable := reachable_ofBus fits 0
  have wf := reachable.wellFormed
  have call : Opcode.decode 0x2204 = .call 0x204 := by decide
  have calls : Opcode.ofBytes 0x22 0x04 = 0x2204 := by decide
  have ret : Opcode.decode 0x00EE = .ret := by decide
  have returns : Opcode.ofBytes 0x00 0xEE = 0x00EE := by decide
  obtain ⟨one, called, ended, isCall, done⟩ :=
    executed_of_image wf fits rfl (k := 0) rfl (by decide) call calls
      (Instruction.execute_call (Core.behind_wellFormed wf (by decide)).2 0 rfl 0x204)
  have bus : called.bus = .holding _ #[] := congrArg (fun n : Machine => n.bus) done.last
  have pc : called.cpu.pc = ((programStart + 4 : Nat) : Int) := by
    rw [done.last]
    rfl
  have sp : called.cpu.sp = 1 := by
    rw [done.last]
    rfl
  have inside := after_wellFormed (wellFormed_of_step wf ended) .tick
  have filled : (called.after .tick).cpu.sp ≠ 0 := by
    change called.cpu.sp ≠ 0
    omega
  obtain ⟨two, last, core', ended', isRet, done'⟩ :=
    exists_executed_of_image inside fits bus pc (by decide) ret returns (if_neg filled)
  obtain ⟨slot, depth, popped, _⟩ := of_returned inside ended' (congrArg Instruction.form isRet)
  have deeper (early : List Event) (first : early <+: [.tick]) :
      (0 : Int) < (called.afterAll early).cpu.sp := by
    cases List.prefix_cons_iff.mp first with
    | inl none =>
      subst none
      change 0 < called.cpu.sp
      omega
    | inr ticked =>
      obtain ⟨rest, rfl, empty⟩ := ticked
      cases List.prefix_nil.mp empty
      change 0 < called.cpu.sp
      omega
  have back : (called.afterAll [.tick]).step.state.cpu.sp = 0 := by
    change (called.after .tick).step.state.cpu.sp = 0
    change called.cpu.sp = _ at depth
    rw [ended']
    change last.cpu.sp = 0
    omega
  obtain ⟨_, ret', last', ended'', isRet', pc', same⟩ :=
    call_returns reachable ended (congrArg Instruction.form isCall) (by simp [Event.isReset])
      deeper back
  exact ⟨_, called, last', one, ret', reachable, ended, isCall, ended'', isRet', pc', same⟩

end Machine

end Chip8
