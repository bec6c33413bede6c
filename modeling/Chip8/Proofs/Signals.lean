import Chip8.Proofs.Likeness

/-! Signals: ticks of the timers, keys, and requests for a frame. They come to a machine while it
runs, and a signal and a step may come in either order. The order makes no difference unless the
instruction works on the part of the processor that the signal works on: what is seen of the step,
the frame that is taken and the machine at the end are the same. -/

namespace Chip8

/-- Whether instructions of a form read or set a timer. -/
def Form.usesTimers : Form → Bool
  | readDelay | setDelay | setSound => true
  | _ => false

namespace Event

def isSignal : Event → Bool
  | tick | setKey _ _ | takeFrame => true
  | step | reset _ | load _ _ | write _ _ => false

/-- Whether instructions of a form work on the part that a signal works on. -/
def concerns : Event → Form → Bool
  | tick, form => form.usesTimers
  | setKey _ _, form => form.looksAtKeys
  | takeFrame, form => form.draws
  | _, _ => false

/-- How the processor before a signal corresponds to the one after it. -/
def likeness : Event → Likeness
  | tick =>
    { dt := fun one two => two = if 0 < one then one - 1 else one
      st := fun one two => two = if 0 < one then one - 1 else one }
  | setKey key held => { keys := fun one two => two = one.setIfInBounds key.val held }
  | takeFrame => { redraw := fun _ two => two = false }
  | _ => {}

def ticks : Event → Nat
  | tick => 1
  | _ => 0

theorem likeness_keptBy {event : Event} {i : Instruction}
    (aside : event.concerns i.form = false) : event.likeness.KeptBy i := by
  have same := Likeness.equal_keptBy i
  cases event with
  | tick =>
    have other {form : Form} (uses : form.usesTimers = true) : i.form ≠ form := by
      rintro rfl
      exact Bool.false_ne_true (aside.symm.trans uses)
    exact
      { same with
        readDelay := fun form => absurd form (other rfl)
        setDelay := fun form => absurd form (other rfl)
        setSound := fun form => absurd form (other rfl) }
  | setKey key held =>
    exact { same with keys := fun looks => absurd (aside.symm.trans looks) Bool.false_ne_true }
  | takeFrame =>
    exact { same with redraw := fun draws => absurd (aside.symm.trans draws) Bool.false_ne_true }
  | step => exact same
  | reset given => exact same
  | load address byte => exact same
  | write address byte => exact same

end Event

namespace Cpu

def signalled (cpu : Cpu) : Event → Cpu
  | .tick => cpu.tick
  | .setKey key held => { cpu with keys := cpu.keys.setIfInBounds key.val held }
  | .takeFrame => { cpu with redraw := false }
  | _ => cpu

theorem like_signalled (cpu : Cpu) (event : Event) :
    cpu.Like event.likeness (cpu.signalled event) := by
  cases event <;> constructor <;> rfl

/-- Nothing of a processor after a signal is left open. -/
theorem Like.eq_signalled {one two : Cpu} {event : Event} (like : one.Like event.likeness two) :
    two = one.signalled event := by
  obtain ⟨v, i, pc, sp, display, stack, dt, st, keys, redraw, random⟩ := like
  cases one
  cases two
  cases event
  all_goals
    dsimp only at v i pc sp display
    subst v i pc sp display
    cases stack
    cases dt
    cases st
    cases keys
    cases redraw
    cases random
    rfl

end Cpu

namespace Machine

variable {m : Machine} {event : Event}

/-- A signal changes the processor, and a tick is counted. -/
theorem after_signal (signal : event.isSignal = true) :
    m.after event = { m with cpu := m.cpu.signalled event, ticks := m.ticks + event.ticks } := by
  cases event with
  | tick => rfl
  | setKey key held =>
    rw [after_setKey]
    rfl
  | takeFrame =>
    rw [after, takeFrame_eq]
    rfl
  | step => contradiction
  | reset given => contradiction
  | load address byte => contradiction
  | write address byte => contradiction

/-- A step of an instruction that does not draw leaves the picture and its mark. -/
theorem picture_of_step (wf : m.toCore.WellFormed)
    (aside : m.cpu.pc ≤ 0xFFE → m.toCore.word.form.draws = false) :
    m.step.state.cpu.redraw = m.cpu.redraw ∧ m.step.state.cpu.display = m.cpu.display := by
  cases step_ends_or_faults wf with
  | inl ended =>
    obtain ⟨snapshot, last, ended, spared⟩ := ended
    obtain ⟨core, done⟩ := exists_executed wf ended
    have unmarked := aside done.inside
    rw [Snapshot.instruction, done.opcode, Opcode.form_decode] at spared
    have noClear : m.toCore.word.form ≠ .cls := by
      intro form
      rw [form] at unmarked
      contradiction
    have noDraw : m.toCore.word.form ≠ .draw := by
      intro form
      rw [form] at unmarked
      contradiction
    rw [ended]
    exact ⟨spared.redraw noClear noDraw, spared.display noClear noDraw⟩
  | inr faulted =>
    obtain ⟨f, _, stopped⟩ := faulted
    rw [stopped]
    exact ⟨rfl, rfl⟩

/-- A signal and a step commute, unless the instruction at the counter works on what the signal
works on: either order ends in the same machine, the same is seen of the step, and the same frame
is taken, or none. -/
theorem signal_commutes_with_step (reachable : m.Reachable) (signal : event.isSignal = true)
    (aside : m.cpu.pc ≤ 0xFFE → event.concerns m.toCore.word.form = false) :
    (m.after event).step.state = m.step.state.after event ∧
      (m.after event).observe = m.observe ∧
      (event = .takeFrame → m.step.state.takeFrame.1 = m.takeFrame.1) := by
  have wf := reachable.wellFormed
  have kept : m.toCore.fault? = none → event.likeness.KeptBy m.toCore.word.decode := by
    intro harmless
    apply Event.likeness_keptBy
    rw [Opcode.form_decode]
    exact aside (Core.fault?_eq_none_iff.mp harmless).1
  have state := after_signal (m := m) signal
  have like : m.cpu.Like event.likeness (m.after event).cpu := by
    rw [state]
    exact m.cpu.like_signalled event
  have bus : m.bus.clearLog = (m.after event).bus.clearLog := by rw [state]
  obtain ⟨seen, one, two, shared, completed, cpus, first, second⟩ :=
    steps_like wf (after_wellFormed wf event) like bus kept
  refine ⟨?_, seen.symm, ?_⟩
  · rw [second, first, state, after_signal signal, cpus.eq_signalled]
  · rintro rfl
    obtain ⟨redraw, display⟩ := picture_of_step wf aside
    rw [takeFrame_eq, takeFrame_eq, redraw, display]

/-- A program that clears the picture and sets a register: the frame of the cleared picture is
taken before or after the second step. -/
theorem signal_commutes_with_step_frame :
    ∃ m : Machine, m.Reachable ∧ m.toCore.word.decode = .setByte 0 1 ∧
      m.takeFrame.1 = some m.cpu.display ∧
      (m.after .takeFrame).step.state = m.step.state.after .takeFrame ∧
      (m.after .takeFrame).observe = m.observe ∧ m.step.state.takeFrame.1 = m.takeFrame.1 := by
  have fits : ([0x00, 0xE0, 0x60, 0x01] : Program).length ≤ maxProgramSize := by decide
  have reachable := reachable_ofBus fits 0
  have clear : Opcode.decode 0x00E0 = .cls := by decide
  have clears : Opcode.ofBytes 0x00 0xE0 = 0x00E0 := by decide
  have set : Opcode.decode 0x6001 = .setByte 0 1 := by decide
  have sets : Opcode.ofBytes 0x60 0x01 = 0x6001 := by decide
  obtain ⟨_, last, ended, _, done⟩ :=
    executed_of_image reachable.wellFormed fits rfl (k := 0) rfl (by decide) clear clears rfl
  have later := Reachable.after .step reachable
  have state : after _ .step = last := congrArg Outcome.state ended
  rw [state] at later
  have decoded : last.toCore.word.decode = .setByte 0 1 :=
    decode_of_image fits (by rw [done.last]; rfl) (k := 2) (by rw [done.last]; decide) (by decide)
      set sets
  have form := congrArg Instruction.form decoded
  rw [Opcode.form_decode] at form
  have marked : last.cpu.redraw = true := by
    rw [done.last]
    rfl
  have frame : last.takeFrame.1 = some last.cpu.display := by
    rw [takeFrame_eq, if_pos marked]
  have signal : Event.isSignal .takeFrame = true := rfl
  have aside : Event.concerns .takeFrame last.toCore.word.form = false := by
    rw [form]
    rfl
  obtain ⟨same, seen, frames⟩ := signal_commutes_with_step later signal fun _ => aside
  exact ⟨last, later, decoded, frame, same, seen, frames rfl⟩

end Machine

end Chip8
