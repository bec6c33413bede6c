import Chip8.Proofs.Runs

/-! The picture and the frames taken of it. The mark of the picture is set exactly when something
has been drawn since the last frame, and while it is not set the picture is that frame. So whoever
takes frames misses none and gets none twice. -/

namespace Chip8

/-- What becomes known of the picture: something was drawn, or a frame was taken. -/
inductive News where
  | drawn
  | frame (picture : Display)

namespace News

def frame? : News → Option Display
  | drawn => none
  | frame picture => some picture

/-- The frame that was taken last. The picture of a new machine is blank. -/
def lastFrame (news : List News) : Display :=
  (news.filterMap frame?).getLast?.getD .blank

/-- Something was drawn, and no frame was taken after it. -/
def DrawnSince (news : List News) : Prop :=
  ∃ before after, news = before ++ drawn :: after ∧ ∀ item ∈ after, item.frame? = none

theorem drawnSince_drawn (news : List News) : DrawnSince (news ++ [drawn]) :=
  ⟨news, [], rfl, by simp⟩

theorem not_drawnSince_frame (news : List News) (picture : Display) :
    ¬ DrawnSince (news ++ [frame picture]) := by
  rintro ⟨before, after, split, unseen⟩
  cases List.eq_nil_or_concat after with
  | inl none =>
    rw [none] at split
    cases (List.append_inj' split rfl).2
  | inr some =>
    obtain ⟨init, item, rfl⟩ := some
    have same : news ++ [frame picture] = (before ++ drawn :: init) ++ [item] := by simp [split]
    cases (List.append_inj' same rfl).2
    cases unseen (frame picture) (by simp)

theorem not_drawnSince_nil : ¬ DrawnSince [] := by
  rintro ⟨before, after, split, _⟩
  simp at split

theorem lastFrame_frame (news : List News) (picture : Display) :
    lastFrame (news ++ [frame picture]) = picture := by
  simp [lastFrame, frame?]

end News

open News

/-- Whether instructions of a form change the picture. -/
def Form.draws : Form → Bool
  | cls | draw => true
  | _ => false

theorem Instruction.redraw_of_draws {i : Instruction} {core after : Core}
    (ended : i.execute core = .done () after) (draws : i.form.draws = true) :
    after.cpu.redraw = true := by
  cases i with
  | cls =>
    cases ended
    rfl
  | draw x y height =>
    obtain ⟨sprite, drawn⟩ := Core.cpu_of_loadAtIndex ended
    rw [drawn]
    rfl
  | _ => cases draws

/-- The mark of the picture and the picture agree with what became known. -/
structure Cpu.Shown (cpu : Cpu) (news : List News) : Prop where
  redraw : cpu.redraw = true ↔ DrawnSince news
  display : cpu.redraw = false → cpu.display = lastFrame news

namespace Cpu.Shown

variable {cpu after : Cpu} {news : List News}

theorem initial (random : Generator) : (Cpu.initial random).Shown [] where
  redraw := ⟨by simp [Cpu.initial], fun drawn => absurd drawn not_drawnSince_nil⟩
  display _ := rfl

theorem kept (shown : cpu.Shown news) (redraw : after.redraw = cpu.redraw)
    (display : after.display = cpu.display) : after.Shown (news ++ []) := by
  rw [List.append_nil]
  constructor
  · rw [redraw]
    exact shown.redraw
  · rw [redraw, display]
    exact shown.display

theorem drawn (marked : cpu.redraw = true) (news : List News) :
    cpu.Shown (news ++ [.drawn]) where
  redraw := iff_of_true marked (drawnSince_drawn news)
  display unmarked := by
    rw [marked] at unmarked
    contradiction

theorem frame (cpu : Cpu) (news : List News) :
    ({ cpu with redraw := false } : Cpu).Shown (news ++ [.frame cpu.display]) where
  redraw := iff_of_false Bool.false_ne_true (not_drawnSince_frame news cpu.display)
  display _ := (lastFrame_frame news cpu.display).symm

end Cpu.Shown

namespace Machine

/-- What an event makes known of the picture. -/
def news? (m : Machine) : Event → Option News
  | .step =>
    match m.step.result with
    | .ok snapshot => if snapshot.instruction.form.draws then some .drawn else none
    | .error _ => none
  | .takeFrame => m.takeFrame.1.map .frame
  | .tick | .setKey _ _ | .reset _ | .load _ _ | .write _ _ => none

/-- What events, one after another, make known of the picture. -/
def news (m : Machine) : List Event → List News
  | [] => []
  | event :: rest => (m.news? event).toList ++ (m.after event).news rest

variable {m : Machine} {past : List News}

theorem shown_step (wf : m.toCore.WellFormed) (shown : m.cpu.Shown past) :
    (m.after .step).cpu.Shown (past ++ (m.news? .step).toList) := by
  cases step_ends_or_faults wf with
  | inl ended =>
    obtain ⟨snapshot, last, ended, spared⟩ := ended
    have known : m.news? .step
        = if snapshot.instruction.form.draws then some .drawn else none := by
      rw [news?, ended]
      rfl
    have state : m.after .step = last := congrArg Outcome.state ended
    rw [known, state]
    by_cases draws : snapshot.instruction.form.draws = true
    · obtain ⟨core, done⟩ := exists_executed wf ended
      have marked := Instruction.redraw_of_draws done.executed draws
      rw [if_pos draws, done.last]
      exact .drawn marked past
    · have noClear : snapshot.instruction.form ≠ .cls := fun form => draws (by rw [form]; rfl)
      have noDraw : snapshot.instruction.form ≠ .draw := fun form => draws (by rw [form]; rfl)
      rw [if_neg draws]
      exact shown.kept (spared.redraw noClear noDraw) (spared.display noClear noDraw)
  | inr faulted =>
    obtain ⟨f, _, stopped⟩ := faulted
    have known : m.news? .step = none := by
      rw [news?, stopped]
      rfl
    have state : m.after .step = m.withCore m.toCore.fetched := congrArg Outcome.state stopped
    rw [known, state]
    exact shown.kept rfl rfl

theorem shown_takeFrame (shown : m.cpu.Shown past) :
    (m.after .takeFrame).cpu.Shown (past ++ (m.news? .takeFrame).toList) := by
  rw [after, news?, takeFrame_eq]
  cases marked : m.cpu.redraw with
  | true => exact .frame m.cpu past
  | false => exact shown.kept marked.symm rfl

theorem shown_after (wf : m.toCore.WellFormed) {event : Event} (noReset : event.isReset = false)
    (shown : m.cpu.Shown past) :
    (m.after event).cpu.Shown (past ++ (m.news? event).toList) := by
  cases event with
  | step => exact shown_step wf shown
  | takeFrame => exact shown_takeFrame shown
  | reset given => contradiction
  | tick => exact shown.kept rfl rfl
  | setKey key held =>
    rw [after_setKey]
    exact shown.kept rfl rfl
  | load address byte | write address byte =>
    rw [after, cpu_accessed]
    exact shown.kept rfl rfl

theorem shown_afterAll (wf : m.toCore.WellFormed) {events : List Event}
    (noReset : ∀ event ∈ events, event.isReset = false) (shown : m.cpu.Shown past) :
    (m.afterAll events).cpu.Shown (past ++ m.news events) := by
  induction events generalizing m past with
  | nil =>
    rw [news, List.append_nil]
    exact shown
  | cons event rest ih =>
    obtain ⟨now, others⟩ := List.forall_mem_cons.mp noReset
    rw [news, ← List.append_assoc]
    exact ih (after_wellFormed wf event) others (shown_after wf now shown)

/-- A machine as it comes from a build or from a reset. -/
inductive Fresh : Machine → Prop
  | built {c : Config} {program : Except FileError Program} {m : Machine} (random : Generator) :
      (c.buildWith program).result = .ok m → Fresh (m.given random)
  | reset {m : Machine} (random : Generator) : m.Reachable → Fresh (m.reset.given random)

theorem Fresh.reachable (fresh : m.Fresh) : m.Reachable := by
  cases fresh with
  | built random built => exact .built random built
  | reset random reachable => exact .after (.reset random) reachable

theorem exists_initial_given {random : Generator} (initial : m.cpu = .initial random)
    (other : Generator) : ∃ random, (m.given other).cpu = .initial random := by
  unfold given
  split
  · exact ⟨random, initial⟩
  · refine ⟨other, ?_⟩
    change { m.cpu with random := other } = _
    rw [initial]
    rfl

theorem Fresh.exists_initial (fresh : m.Fresh) : ∃ random, m.cpu = .initial random := by
  cases fresh with
  | built random built =>
    obtain ⟨program, rfl⟩ := Config.result_buildWith built
    exact exists_initial_given rfl random
  | reset random reachable => exact exists_initial_given rfl random

/-- What a machine shows, after what became known of its picture. -/
structure Shows (m : Machine) (news : List News) : Prop where
  unmarked : m.cpu.redraw = false → m.cpu.display = lastFrame news
  frame : DrawnSince news → m.takeFrame.1 = some m.cpu.display
  noFrame : ¬ DrawnSince news → m.takeFrame.1 = none
  rest : m.takeFrame.2 = m.withCpu { m.cpu with redraw := false }

/-- No frame is lost or repeated between resets. While the picture is not marked it is the frame
that was taken last, and a frame is to be had, the picture itself, exactly if something was drawn
since; taking it clears the mark and nothing else. -/
theorem frames_follow_drawing {start : Machine} (fresh : start.Fresh) {events : List Event}
    (noReset : ∀ event ∈ events, event.isReset = false) :
    (start.afterAll events).Shows (start.news events) := by
  obtain ⟨random, initial⟩ := fresh.exists_initial
  have shown : start.cpu.Shown [] := by
    rw [initial]
    exact .initial random
  have now := shown_afterAll fresh.reachable.wellFormed noReset shown
  rw [List.nil_append] at now
  constructor
  · exact now.display
  · intro drawn
    rw [takeFrame_eq, now.redraw.mpr drawn]
    rfl
  · intro unseen
    rw [takeFrame_eq, if_neg (mt now.redraw.mp unseen)]
  · rw [takeFrame_eq]

/-- A program that draws a glyph; a frame is taken and a second one asked for. -/
theorem frames_follow_drawing_glyph :
    ∃ (start : Machine) (picture : Display), start.Fresh ∧
      start.news [.step, .takeFrame, .takeFrame] = [.drawn, .frame picture] ∧
      (start.afterAll [.step, .takeFrame, .takeFrame]).Shows [.drawn, .frame picture] := by
  have fits : ([0xD0, 0x15] : Program).length ≤ maxProgramSize := by decide
  have fresh : Fresh _ := .built (.ofSeed 0) (built_ofBus fits 0)
  have glyph : Opcode.decode 0xD015 = .draw 0 1 5 := by decide
  have glyphs : Opcode.ofBytes 0xD0 0x15 = 0xD015 := by decide
  obtain ⟨snapshot, last, core, ended, draw, done⟩ :=
    exists_executed_of_image fresh.reachable.wellFormed fits rfl (k := 0) rfl (by decide) glyph
      glyphs rfl
  have draws : snapshot.instruction.form.draws = true := by
    rw [draw]
    rfl
  have drawn := Instruction.redraw_of_draws done.executed draws
  have marked : last.cpu.redraw = true := by
    rw [done.last]
    exact drawn
  have known (start : Machine) (ended : start.step = .done snapshot last) :
      start.news [.step, .takeFrame, .takeFrame] = [.drawn, .frame last.cpu.display] := by
    simp [news, news?, after, ended, Outcome.done, draws, takeFrame_eq, marked, withCpu]
  refine ⟨_, _, fresh, known _ ended, ?_⟩
  rw [← known _ ended]
  exact frames_follow_drawing fresh (by simp [Event.isReset])

end Machine

end Chip8
