import Chip8.Proofs.Drawing
import Chip8.Proofs.Picture

/-! Frames across resets. A reset blanks the picture and clears its mark, so nothing tells that the
picture has changed. Who holds a frame that is not blank holds an old picture from then on, until an
instruction draws. -/

namespace Chip8

open News

/-- Who holds this frame is up to date: it is the picture, or the picture is to be had. -/
def Cpu.Current (cpu : Cpu) (held : Display) : Prop :=
  cpu.display = held ∨ cpu.redraw = true

namespace Cpu.Shown

variable {cpu : Cpu} {news : List News}

theorem unmarked (shown : cpu.Shown []) : cpu.redraw = false :=
  Bool.eq_false_iff.mpr (mt shown.redraw.mp not_drawnSince_nil)

/-- Where nothing became known of a blank picture, an earlier frame is up to date if it is blank. -/
theorem current_iff (shown : cpu.Shown []) (held : Display) :
    cpu.Current held ↔ held = .blank := by
  have blank : cpu.display = .blank := shown.display shown.unmarked
  simp [Current, shown.unmarked, blank, eq_comm]

/-- Where something became known, nothing earlier matters. -/
theorem current (shown : cpu.Shown news) (some : news ≠ []) (past : List News) :
    cpu.Current (lastFrame (past ++ news)) := by
  obtain ⟨init, item, rfl⟩ : ∃ init item, news = init ++ [item] :=
    (List.eq_nil_or_concat' news).resolve_left some
  cases item with
  | drawn => exact .inr (shown.redraw.mpr (drawnSince_drawn init))
  | frame picture =>
    have unmarked := Bool.eq_false_iff.mpr (mt shown.redraw.mp (not_drawnSince_frame init picture))
    have display := shown.display unmarked
    rw [lastFrame_frame] at display
    rw [← List.append_assoc, lastFrame_frame]
    exact .inl display

end Cpu.Shown

namespace Machine

variable {m start : Machine} {event : Event} {events later : List Event}

theorem news_append (m : Machine) (first second : List Event) :
    m.news (first ++ second) = m.news first ++ (m.afterAll first).news second := by
  induction first generalizing m with
  | nil => rfl
  | cons event rest ih => simp [news, ih, afterAll]

theorem marked_of_news? {picture : Display} (taken : m.news? event = some (.frame picture)) :
    m.cpu.redraw = true := by
  cases event with
  | step =>
    simp only [news?] at taken
    split at taken
    · split at taken <;> simp at taken
    · contradiction
  | takeFrame =>
    by_contra unmarked
    simp [news?, takeFrame_eq, unmarked] at taken
  | tick | setKey | reset | load | write => contradiction

/-- A picture that is not marked stays so until an instruction draws, and no frame is to be had. -/
theorem news_eq_nil (wf : m.toCore.WellFormed) (shown : m.cpu.Shown [])
    (noReset : ∀ event ∈ events, event.isReset = false) (noDraw : .drawn ∉ m.news events) :
    m.news events = [] := by
  -- As long as nothing becomes known, the next machine shows nothing new either.
  induction events generalizing m with
  | nil => rfl
  | cons event rest ih =>
    obtain ⟨now, others⟩ := List.forall_mem_cons.mp noReset
    have next := shown_after wf now shown
    simp only [news, List.mem_append, not_or] at noDraw
    cases known : m.news? event with
    | none =>
      rw [known] at next
      have none := ih (after_wellFormed wf event) next others noDraw.2
      simp [news, known, none]
    | some item =>
      cases item with
      | drawn => simp [known] at noDraw
      | frame picture =>
        have marked := marked_of_news? known
        rw [shown.unmarked] at marked
        contradiction

theorem Fresh.shown (fresh : m.Fresh) : m.cpu.Shown [] := by
  obtain ⟨random, initial⟩ := fresh.exists_initial
  rw [initial]
  exact .initial random

/-- An earlier frame is up to date on a machine that was built or reset exactly if an instruction has
drawn since, or if the frame is blank. -/
theorem Fresh.current_iff (fresh : m.Fresh) (noReset : ∀ event ∈ later, event.isReset = false)
    (past : List News) : (m.afterAll later).cpu.Current (lastFrame (past ++ m.news later)) ↔
      .drawn ∈ m.news later ∨ lastFrame past = .blank := by
  have wf := fresh.reachable.wellFormed
  have shown : (m.afterAll later).cpu.Shown (m.news later) := shown_afterAll wf noReset fresh.shown
  by_cases drawn : .drawn ∈ m.news later
  · exact iff_of_true (shown.current (List.ne_nil_of_mem drawn) past) (.inl drawn)
  · have none := news_eq_nil wf fresh.shown noReset drawn
    rw [none] at shown drawn ⊢
    rw [List.append_nil, shown.current_iff]
    simp

theorem Fresh.afterAll_reset (fresh : start.Fresh) (before : List Event) (random : Generator) :
    ((start.afterAll before).after (.reset random)).Fresh :=
  .reset random (fresh.reachable.afterAll before)

/-- A machine as it was built with a program that draws the digit 0. -/
structure AtDigit (m : Machine) : Prop where
  fresh : m.Fresh
  cpu : ∃ random, m.cpu = .initial random
  bus : m.bus = .holding (Memory.image [0xD0, 0x15]) #[]

theorem exists_atDigit : ∃ m : Machine, m.AtDigit := by
  have fits : ([0xD0, 0x15] : Program).length ≤ maxProgramSize := by decide
  exact ⟨_, .built (.ofSeed 0) (built_ofBus fits 0), ⟨_, rfl⟩, rfl⟩

theorem AtDigit.covers_corner (digit : m.AtDigit) {r : DrawRequest} (op : r.op = 0xD015)
    (index : r.index = 0) : r.Covers m.toCore.behind.cpu (Memory.image [0xD0, 0x15])
      (Display.cell 0 0) := by
  have fits : ([0xD0, 0x15] : Program).length ≤ maxProgramSize := by decide
  obtain ⟨random, initial⟩ := digit.cpu
  have origin (x : Register) : m.toCore.behind.cpu.coordinate x = 0 := by
    have zero : m.toCore.behind.cpu.v.get x = 0 := by
      change m.cpu.v.get x = 0
      simp [initial, Cpu.initial, Vector.get]
    simp [Cpu.coordinate, zero]
  have first : (Memory.image [0xD0, 0x15]).byte 0 = 0xF0 :=
    Memory.byte_image_font fits (k := 0) (by decide)
  apply r.covers_corner origin
  · rw [op]
    decide
  · rw [index, first]
    decide

/-- The step draws the digit, and the corner of the display is lit then. -/
theorem AtDigit.step (digit : m.AtDigit) : ∃ snapshot last, m.step = .done snapshot last ∧
    snapshot.instruction.form.draws = true ∧ last.bus = m.bus ∧ last.cpu.redraw = true ∧
    last.cpu.display ≠ .blank := by
  have fits : ([0xD0, 0x15] : Program).length ≤ maxProgramSize := by decide
  have glyph : Opcode.decode 0xD015 = .draw 0 1 5 := by decide
  have glyphs : Opcode.ofBytes 0xD0 0x15 = 0xD015 := by decide
  obtain ⟨random, initial⟩ := digit.cpu
  obtain ⟨snapshot, last, core, ended, draw, done⟩ :=
    exists_executed_of_image digit.fresh.reachable.wellFormed fits digit.bus (k := 0)
      (by rw [initial]; rfl) (by decide) glyph glyphs (by rw [initial]; rfl)
  let r : DrawRequest := ⟨0xD015, 0, by decide, by decide⟩
  have place : m.toCore.behind
      = .holding m.toCore.behind.cpu (Memory.image [0xD0, 0x15]) m.toCore.fetchLog := by
    change (⟨_, { m.bus with log := _ }⟩ : Core) = _
    rw [digit.bus]
    rfl
  have index : m.toCore.behind.cpu.i = r.index := congrArg Cpu.i initial
  obtain ⟨after, log, drawn, flipped⟩ :=
    Core.drawAt_holding m.toCore.behind.cpu (Memory.image [0xD0, 0x15]) m.toCore.fetchLog r
  rw [← place, Core.drawAt_of_index index, glyph, ← draw, done.executed] at drawn
  cases drawn
  have draws : snapshot.instruction.form.draws = true := by
    rw [draw]
    rfl
  have marked := Instruction.redraw_of_draws done.executed draws
  have dark : m.toCore.behind.cpu.display = .blank := congrArg Cpu.display initial
  have lit := flipped.lit (digit.covers_corner rfl rfl)
  refine ⟨snapshot, last, ended, draws, ?_, ?_, ?_⟩ <;> rw [done.last]
  · exact digit.bus.symm
  · exact marked
  · intro blank
    change after.display = .blank at blank
    rw [blank, dark] at lit
    cases corner : Display.blank.lit (Display.cell 0 0) <;> simp [corner] at lit

/-- After the step a frame is taken, and it is not blank. A reset leads back to the digit. -/
theorem AtDigit.shows (digit : m.AtDigit) :
    (m.afterAll [.step, .takeFrame]).cpu.redraw = false ∧
    (m.afterAll [.step, .takeFrame]).cpu.display = lastFrame (m.news [.step, .takeFrame]) ∧
    lastFrame (m.news [.step, .takeFrame]) ≠ .blank ∧
    ∀ random, ((m.afterAll [.step, .takeFrame]).after (.reset random)).AtDigit := by
  obtain ⟨snapshot, last, ended, draws, bus, marked, lit⟩ := digit.step
  have state : m.afterAll [.step, .takeFrame] = last.withCpu { last.cpu with redraw := false } := by
    simp [afterAll, after, ended, Outcome.done, takeFrame_eq]
  have news : m.news [.step, .takeFrame] = [.drawn, .frame last.cpu.display] := by
    simp [Machine.news, news?, after, ended, Outcome.done, draws, takeFrame_eq, marked]
  have held : lastFrame (m.news [.step, .takeFrame]) = last.cpu.display := by
    rw [news]
    exact lastFrame_frame [.drawn] _
  refine ⟨by rw [state]; rfl, by rw [held, state]; rfl, by rw [held]; exact lit, ?_⟩
  intro random
  have again := digit.fresh.afterAll_reset [.step, .takeFrame] random
  have kept : ((m.afterAll [.step, .takeFrame]).after (.reset random)).bus
      = (m.afterAll [.step, .takeFrame]).bus := bus_given _ random
  refine ⟨again, again.exists_initial, ?_⟩
  rw [kept, state]
  exact bus.trans digit.bus

theorem AtDigit.news_step (digit : m.AtDigit) : m.news [.step] = [.drawn] := by
  obtain ⟨snapshot, last, ended, draws, _⟩ := digit.step
  simp [news, news?, ended, Outcome.done, draws]

/-- A reset keeps its consumer up to date only if the last frame was blank. It leaves a blank picture
and no frame to be had. From then on the last frame is up to date exactly if it was blank or if an
instruction has drawn since. -/
theorem current_after_reset_iff (fresh : start.Fresh) (before : List Event) (random : Generator)
    (noReset : ∀ event ∈ later, event.isReset = false) :
    let reset := (start.afterAll before).after (.reset random)
    let events := before ++ .reset random :: later
    reset.cpu.display = .blank ∧ reset.takeFrame.1 = none ∧
    (reset.cpu.Current (lastFrame (start.news before)) ↔
      lastFrame (start.news before) = .blank) ∧
    ((start.afterAll events).cpu.Current (lastFrame (start.news events)) ↔
      .drawn ∈ reset.news later ∨ lastFrame (start.news before) = .blank) := by
  have again := fresh.afterAll_reset before random
  have shown := again.shown
  have joined : start.news (before ++ .reset random :: later)
      = start.news before ++ ((start.afterAll before).after (.reset random)).news later :=
    start.news_append before (.reset random :: later)
  refine ⟨shown.display shown.unmarked, ?_, shown.current_iff _, ?_⟩
  · simp [takeFrame_eq, shown.unmarked]
  · simp only [afterAll_append, joined]
    exact again.current_iff noReset (start.news before)

/-- The digit is drawn and its frame taken. The mark is clear and the frame is the picture, but after
a reset the frame is not the picture any more, and none is to be had. -/
theorem reset_outdates_digit : ∃ (start m : Machine) (random : Generator), start.Fresh ∧
    m = start.afterAll [.step, .takeFrame] ∧ m.cpu.redraw = false ∧
    m.cpu.display = lastFrame (start.news [.step, .takeFrame]) ∧
    ¬ (m.after (.reset random)).cpu.Current (lastFrame (start.news [.step, .takeFrame])) ∧
    (m.after (.reset random)).takeFrame.1 = none := by
  obtain ⟨start, digit⟩ := exists_atDigit
  obtain ⟨unmarked, shown, lit, again⟩ := digit.shows
  have blank := (again (.ofSeed 0)).fresh.shown
  refine ⟨start, _, .ofSeed 0, digit.fresh, rfl, unmarked, shown, ?_, ?_⟩
  · rw [blank.current_iff]
    exact lit
  · simp [takeFrame_eq, blank.unmarked]

/-- The frame of the digit is out of date after a reset, and up to date again when the program has
drawn once more. -/
theorem current_after_reset_iff_digit : ∃ (start : Machine) (random : Generator), start.Fresh ∧
    ¬ (start.afterAll [.step, .takeFrame, .reset random]).cpu.Current
      (lastFrame (start.news [.step, .takeFrame, .reset random])) ∧
    (start.afterAll [.step, .takeFrame, .reset random, .step]).cpu.Current
      (lastFrame (start.news [.step, .takeFrame, .reset random, .step])) := by
  obtain ⟨start, digit⟩ := exists_atDigit
  obtain ⟨_, _, lit, again⟩ := digit.shows
  let random := Generator.ofSeed 0
  have nothing : ∀ event ∈ ([] : List Event), event.isReset = false := by simp
  have onlyStep : ∀ event ∈ [Event.step], event.isReset = false := by simp [Event.isReset]
  obtain ⟨_, _, _, stale⟩ :=
    current_after_reset_iff digit.fresh [.step, .takeFrame] random nothing
  obtain ⟨_, _, _, redrawn⟩ :=
    current_after_reset_iff digit.fresh [.step, .takeFrame] random onlyStep
  refine ⟨start, random, digit.fresh, ?_, ?_⟩
  · intro current
    obtain drawn | blank := stale.mp current
    · simp [news] at drawn
    · exact lit blank
  · apply redrawn.mpr
    rw [(again random).news_step]
    simp

end Machine

end Chip8
