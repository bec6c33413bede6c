import Chip8.Proofs.Sprites
import Chip8.Proofs.Step

/-! Drawing. A draw flips the pixels that its sprite covers, and a draw changes nothing that another
one reads: VF counts as zero when it names a coordinate. So any number of draws over one memory and
the same registers act on the picture in any order alike, and two equal draws undo each other. The
flag tells of the first of two whether it met a lit pixel, of the second whether the first met one
that was not lit. -/

namespace Chip8

/-- The coordinate that a register gives a sprite. The flag is cleared before it is read. -/
def Cpu.coordinate (cpu : Cpu) (x : Register) : Int :=
  if x = Register.flag then 0 else cpu.v.get x

/-- A word that draws, the index that is set before it, and a sprite that lies in memory. -/
structure DrawRequest where
  op : Opcode
  index : Nat
  draws : op.form = .draw
  inRange : 0 < op.n.val → index + op.n.val ≤ 0x1000

/-- Sets the index and executes the word. -/
def Core.drawAt (core : Core) (r : DrawRequest) : Outcome Core Unit :=
  r.op.decode.execute (core.withCpu { core.cpu with i := r.index })

/-- Draws one after another. -/
def Core.drawEach (core : Core) : List DrawRequest → Outcome Core Unit
  | [] => .done () core
  | r :: rest => (core.drawAt r).andThen fun _ core => core.drawEach rest

/-- All the draws end, and this is the picture then. -/
def Core.Paints (core : Core) (requests : List DrawRequest) (picture : Display) : Prop :=
  ∃ after, core.drawEach requests = .done () after ∧ after.cpu.display = picture

/-- The flag is one if something holds, and else zero. -/
def Cpu.Flags (cpu : Cpu) (p : Prop) : Prop :=
  (p → cpu.v.get Register.flag = 1) ∧ (¬ p → cpu.v.get Register.flag = 0)

namespace DrawRequest

variable (r : DrawRequest) (cpu : Cpu) (memory : Memory) (log : Array Access)

/-- A set bit of the sprite lies on the pixel. -/
def Covers (p : Fin 2048) : Prop :=
  ∃ j k : Nat, j < r.op.n.val ∧ k < 8 ∧
    (memory.byte (r.index + j)).toNat.testBit (7 - k) = true ∧
    p = Display.cell (cpu.coordinate r.op.x + k) (cpu.coordinate r.op.y + j)

/-- The pixels under the set bits of the sprite, in the order in which they are flipped. -/
def cells : List (Fin 2048) :=
  Display.spriteCells (cpu.coordinate r.op.x) (cpu.coordinate r.op.y)
    (memory.slice r.index r.op.n.val)

theorem mem_cells {p : Fin 2048} : p ∈ r.cells cpu memory ↔ r.Covers cpu memory p := by
  rw [cells, Display.mem_spriteCells]
  apply exists_congr
  intro j
  apply exists_congr
  intro k
  by_cases inside : j < r.op.n.val
  · rw [Memory.getElem?_slice memory r.index r.op.n.val inside]
    simp [inside]
  · simp [inside]

/-- A sprite at the origin whose first bit is set covers the corner. -/
theorem covers_corner {cpu memory} (origin : ∀ x, cpu.coordinate x = 0) (tall : 0 < r.op.n.val)
    (first : (memory.byte r.index).toNat.testBit 7 = true) :
    r.Covers cpu memory (Display.cell 0 0) :=
  ⟨0, 0, tall, by decide, first, by simp [origin]⟩

/-- The pixels depend on the coordinates alone. -/
theorem cells_congr {one two : Cpu} (same : ∀ x, one.coordinate x = two.coordinate x) :
    r.cells one memory = r.cells two memory := by
  simp only [cells, same]

theorem nodup_cells : (r.cells cpu memory).Nodup := by
  apply Display.nodup_spriteCells
  rw [Memory.length_slice]
  omega

end DrawRequest

/-- What a draw makes of the processor, as far as draws are concerned. -/
structure Cpu.Drawn (cpu : Cpu) (r : DrawRequest) (memory : Memory) (after : Cpu) : Prop where
  display : after.display = cpu.display.flipEach (r.cells cpu memory)
  flags : after.Flags (∃ p, r.Covers cpu memory p ∧ cpu.display.lit p = true)
  coordinate : ∀ x, after.coordinate x = cpu.coordinate x

/-- A draw flips each pixel that its sprite covers. -/
theorem Cpu.Drawn.lit {cpu after : Cpu} {r : DrawRequest} {memory : Memory}
    (drawn : cpu.Drawn r memory after) {p : Fin 2048} (covered : r.Covers cpu memory p) :
    after.display.lit p = !cpu.display.lit p := by
  have once := List.count_eq_one_of_mem (r.nodup_cells cpu memory)
    ((r.mem_cells cpu memory).mpr covered)
  simp [drawn.display, Display.lit_flipEach, once]

/-- A draw leaves each other pixel. -/
theorem Cpu.Drawn.lit_of_missed {cpu after : Cpu} {r : DrawRequest} {memory : Memory}
    (drawn : cpu.Drawn r memory after) {p : Fin 2048} (missed : ¬ r.Covers cpu memory p) :
    after.display.lit p = cpu.display.lit p := by
  have never := List.count_eq_zero.mpr fun member => missed ((r.mem_cells cpu memory).mp member)
  simp [drawn.display, Display.lit_flipEach, never]

namespace Cpu

variable {cpu one two : Cpu}

theorem coordinate_eq (cpu : Cpu) (x : Register) :
    (cpu.setV Register.flag 0).v.get x = cpu.coordinate x :=
  cpu.v_setV Register.flag x 0

/-- Registers that differ in VF alone give the same coordinates. -/
theorem coordinate_congr {value : Int} (same : one.v = (two.setV Register.flag value).v)
    (x : Register) : one.coordinate x = two.coordinate x := by
  unfold coordinate
  split
  · rfl
  · rename_i other
    rw [same, v_setV, if_neg other]

theorem drawn_drawSprite (cpu : Cpu) (r : DrawRequest) (memory : Memory) :
    cpu.Drawn r memory (({ cpu with i := r.index } : Cpu).drawSprite r.op.x r.op.y
      (memory.slice r.index r.op.n.val)) := by
  let start : Cpu := ({ cpu with i := r.index } : Cpu).setV Register.flag 0
  let drawn := Display.flipAll (cpu.display, false) (r.cells cpu memory)
  let flagged := start.setV Register.flag (if drawn.2 then 1 else 0)
  have draw : start.display.draw (start.v.get r.op.x) (start.v.get r.op.y)
      (memory.slice r.index r.op.n.val) = drawn := by
    rw [coordinate_eq, coordinate_eq]
    rfl
  have made : ({ cpu with i := r.index } : Cpu).drawSprite r.op.x r.op.y
      (memory.slice r.index r.op.n.val) = { flagged with display := drawn.1, redraw := true } := by
    simp only [flagged, ← draw]
    rfl
  rw [made]
  refine ⟨Display.fst_flipAll cpu.display false _, ?_, ?_⟩
  · have flag : flagged.v.get Register.flag = if drawn.2 then 1 else 0 := by
      rw [v_setV, if_pos rfl]
    have hit := Display.snd_flipAll (r.nodup_cells cpu memory) cpu.display false
    simp only [DrawRequest.mem_cells, Bool.false_eq_true, false_or] at hit
    constructor
    · intro met
      exact flag.trans (if_pos (hit.mpr met))
    · intro none
      exact flag.trans (if_neg fun met => none (hit.mp met))
  · intro x
    have cleared : start.coordinate x = cpu.coordinate x := coordinate_congr rfl x
    exact (coordinate_congr rfl x).trans cleared

end Cpu

/-- The core of a processor and the cells of the standard map. -/
def Core.holding (cpu : Cpu) (memory : Memory) (log : Array Access) : Core :=
  ⟨cpu, .holding memory log⟩

theorem Opcode.decode_of_draws {op : Opcode} (draws : op.form = .draw) :
    op.decode = .draw op.x op.y op.n := by
  rw [decode, draws]
  rfl

namespace Core

variable (cpu : Cpu) (memory : Memory) (log : Array Access)

/-- A draw of a sprite that lies in memory ends, and it logs the reads of the sprite. -/
theorem execute_draw {index : Nat} (standing : cpu.i = index) (x y : Register) {n : Fin 16}
    (inRange : 0 < n.val → index + n.val ≤ 0x1000) :
    (Instruction.draw x y n).execute (holding cpu memory log) =
      .done () (holding (cpu.drawSprite x y (memory.slice index n.val)) memory
        (log ++ (memory.readLog index n.val).toArray)) := by
  have within : blockFault? index n.val = none := by
    apply if_neg
    omega
  have read := Bus.readBlock_holding memory log index n.val within
  simp only [Instruction.execute, loadAtIndex, holding, standing, read]
  rfl

/-- A draw ends. It leaves the memory as it is and adds to the log. -/
theorem drawAt_holding (r : DrawRequest) : ∃ after log',
    (holding cpu memory log).drawAt r = .done () (holding after memory log') ∧
      cpu.Drawn r memory after := by
  let start : Cpu := { cpu with i := r.index }
  have drawn := execute_draw start memory log rfl r.op.x r.op.y r.inRange
  rw [← Opcode.decode_of_draws r.draws] at drawn
  exact ⟨_, _, drawn, cpu.drawn_drawSprite r memory⟩

/-- A draw at the index where it stands is the instruction alone. -/
theorem drawAt_of_index {core : Core} {r : DrawRequest} (index : core.cpu.i = r.index) :
    core.drawAt r = r.op.decode.execute core := by
  rw [drawAt, ← index]
  rfl

/-- The pixels that draws flip, one draw after another. -/
def cellsOf (requests : List DrawRequest) : List (Fin 2048) :=
  requests.flatMap fun r => r.cells cpu memory

/-- Draws in a row flip their pixels in a row, for none of them moves another. -/
theorem drawEach_holding (requests : List DrawRequest) : ∃ after log',
    (holding cpu memory log).drawEach requests = .done () (holding after memory log') ∧
      after.display = cpu.display.flipEach (cellsOf cpu memory requests) := by
  -- Each draw leaves the coordinates, so the pixels of the later ones stay where they were.
  induction requests generalizing cpu log with
  | nil => exact ⟨cpu, log, rfl, rfl⟩
  | cons r rest ih =>
    obtain ⟨between, read, first, drawn⟩ := drawAt_holding cpu memory log r
    obtain ⟨after, log', later, display⟩ := ih between read
    refine ⟨after, log', ?_, ?_⟩
    · rw [drawEach, first]
      exact later
    · have unmoved : cellsOf between memory rest = cellsOf cpu memory rest := by
        simp only [cellsOf, DrawRequest.cells_congr _ memory drawn.coordinate]
      rw [display, unmoved, drawn.display, ← Display.flipEach_append]
      rfl

variable {cpu memory log} {requests permuted : List DrawRequest} {picture : Display}

theorem paints_iff : (holding cpu memory log).Paints requests picture ↔
    cpu.display.flipEach (cellsOf cpu memory requests) = picture := by
  obtain ⟨after, log', done, display⟩ := drawEach_holding cpu memory log requests
  rw [← display]
  constructor
  · rintro ⟨last, ended, rfl⟩
    rw [done] at ended
    cases ended
    rfl
  · intro painted
    exact ⟨_, done, painted⟩

/-- How often draws flip a pixel does not depend on their order. -/
theorem count_cellsOf (same : permuted.Perm requests) (p : Fin 2048) :
    (cellsOf cpu memory permuted).count p = (cellsOf cpu memory requests).count p :=
  (same.flatMap_right _).count_eq p

/-- Draws whose flips agree up to pairs paint the same picture. -/
theorem paints_congr (even : ∀ p, (cellsOf cpu memory permuted).count p % 2
      = (cellsOf cpu memory requests).count p % 2) :
    (holding cpu memory log).Paints permuted picture ↔
      (holding cpu memory log).Paints requests picture := by
  have same : cpu.display.flipEach (cellsOf cpu memory permuted)
      = cpu.display.flipEach (cellsOf cpu memory requests) := by
    ext p
    rw [Display.lit_flipEach, Display.lit_flipEach, even]
  rw [paints_iff, paints_iff, same]

theorem flags_twice (r : DrawRequest) : ∃ one two,
    (holding cpu memory log).drawAt r = .done () one ∧ one.drawAt r = .done () two ∧
      one.cpu.Flags (∃ p, r.Covers cpu memory p ∧ cpu.display.lit p = true) ∧
      two.cpu.Flags (∃ p, r.Covers cpu memory p ∧ cpu.display.lit p = false) := by
  obtain ⟨one, log', first, drawn⟩ := drawAt_holding cpu memory log r
  obtain ⟨two, _, second, again⟩ := drawAt_holding one memory log' r
  refine ⟨_, _, first, second, drawn.flags, ?_⟩
  have flipped (p : Fin 2048) : r.Covers one memory p ∧ one.display.lit p = true ↔
      r.Covers cpu memory p ∧ cpu.display.lit p = false := by
    rw [← DrawRequest.mem_cells, r.cells_congr memory drawn.coordinate, DrawRequest.mem_cells]
    apply and_congr_right
    intro covered
    simp [drawn.lit covered]
  have flags := again.flags
  simp only [flipped] at flags
  exact flags

/-- Any number of draws over one memory and the same registers paint one picture in every order,
and a draw that is put in twice, at any two places, leaves the picture. Of two equal draws in a row
the first sets the flag exactly if a pixel of its sprite was lit before, the second exactly if one
was not. -/
theorem draws_commute (cpu : Cpu) (memory : Memory) (log : Array Access) :
    (∀ requests, ∃ picture, ∀ permuted, permuted.Perm requests →
      (holding cpu memory log).Paints permuted picture) ∧
    (∀ r before between behind picture,
      (holding cpu memory log).Paints (before ++ between ++ behind) picture →
        (holding cpu memory log).Paints (before ++ r :: between ++ r :: behind) picture) ∧
    (∀ r, ∃ one two,
      (holding cpu memory log).drawAt r = .done () one ∧ one.drawAt r = .done () two ∧
      one.cpu.Flags (∃ p, r.Covers cpu memory p ∧ cpu.display.lit p = true) ∧
      two.cpu.Flags (∃ p, r.Covers cpu memory p ∧ cpu.display.lit p = false)) := by
  refine ⟨?_, ?_, flags_twice⟩
  · intro requests
    refine ⟨cpu.display.flipEach (cellsOf cpu memory requests), ?_⟩
    intro permuted same
    apply (paints_congr _).mpr (paints_iff.mpr rfl)
    intro p
    rw [count_cellsOf same]
  · intro r before between behind picture painted
    apply (paints_congr _).mpr painted
    intro p
    simp only [cellsOf, List.flatMap_append, List.flatMap_cons, List.count_append]
    omega

/-- The digits 0 and 1 of the font in the corner of a blank display: one picture in both orders, and
the digit 0 is drawn at first without a flag and then with one. -/
theorem draws_commute_digits :
    ∃ (core one two : Core) (r q : DrawRequest) (picture : Display),
      r.op = 0xD015 ∧ r.index = 0 ∧ q.op = 0xD015 ∧ q.index = 5 ∧
      core.Paints [r, q] picture ∧ core.Paints [q, r] picture ∧ core.Paints [r, r, q, r] picture ∧
      core.drawAt r = .done () one ∧ one.cpu.v.get Register.flag = 0 ∧
      one.drawAt r = .done () two ∧ two.cpu.v.get Register.flag = 1 := by
  obtain ⟨cpu, dark, origin⟩ : ∃ cpu : Cpu, (∀ p, cpu.display.lit p = false) ∧
      ∀ x, cpu.coordinate x = 0 := by
    refine ⟨.initial (.ofSeed 0), ?_, ?_⟩
    · intro p
      simp [Cpu.initial, Display.blank, Display.lit]
    · intro x
      simp [Cpu.coordinate, Cpu.initial, Vector.get]
  let memory := Memory.zero.putAll fontStart font
  let r : DrawRequest := ⟨0xD015, 0, by decide, by decide⟩
  let q : DrawRequest := ⟨0xD015, 5, by decide, by decide⟩
  have corner : r.Covers cpu memory (Display.cell 0 0) := by
    apply r.covers_corner origin (by decide)
    rw [Memory.byte_putAll _ _ _ (by decide)]
    decide
  obtain ⟨orders, pairs, flags⟩ := draws_commute cpu memory #[]
  obtain ⟨picture, all⟩ := orders [r, q]
  have painted := all [r, q] (.refl _)
  obtain ⟨one, two, first, second, unlit, lit⟩ := flags r
  refine ⟨_, one, two, r, q, picture, rfl, rfl, rfl, rfl, painted, all _ (.swap _ _ _),
    ?_, first, ?_, second, ?_⟩
  · exact pairs r [r] [q] [] picture painted
  · apply unlit.2
    rintro ⟨p, _, on⟩
    rw [dark p] at on
    cases on
  · exact lit.1 ⟨Display.cell 0 0, corner, dark _⟩

end Core

end Chip8
