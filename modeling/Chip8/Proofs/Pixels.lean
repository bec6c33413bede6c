import Chip8.Proofs.Decoding
import Chip8.Proofs.Drawing
import Chip8.Proofs.Frame

/-! A draw, pixel by pixel. The set bits of the sprite strike pixels of the display, no pixel twice,
and exactly the struck pixels flip. Beside the picture and VF a draw changes nothing. -/

namespace Chip8

namespace Display

/-- Whether the pixel in a column and a row is lit. -/
def on (d : Display) (column : Fin 64) (row : Fin 32) : Bool :=
  d.lit (cell column.val row.val)

theorem exists_cell (p : Fin 2048) :
    ∃ (column : Fin 64) (row : Fin 32), cell column.val row.val = p := by
  refine ⟨⟨p.val % 64, by omega⟩, ⟨p.val / 64, by omega⟩, ?_⟩
  rw [Fin.ext_iff]
  simp only [cell]
  omega

end Display

/-- The word DXYN. -/
def Opcode.drawing (x y : Register) (n : Fin 16) : Opcode :=
  ((0xD000 + 0x100 * x.val + 0x10 * y.val + n.val : Nat) : Int)

namespace Opcode

variable (x y : Register) (n : Fin 16)

theorem form_drawing : (drawing x y n).form = .draw :=
  draw_of_first (a := ⟨0xD, by decide⟩) rfl

theorem x_drawing : (drawing x y n).x = x :=
  x_ofDigits ⟨0xD, by decide⟩ x y n

theorem y_drawing : (drawing x y n).y = y :=
  y_ofDigits ⟨0xD, by decide⟩ x y n

theorem n_drawing : (drawing x y n).n = n :=
  n_ofDigits ⟨0xD, by decide⟩ x y n

end Opcode

namespace Cpu

variable (cpu : Cpu) (memory : Memory) (x y : Register) (n : Fin 16)

/-- The bit in row `j` and column `k` of the sprite at the index is set, and it lies, wrapped round
the edges, on the pixel in a column and a row. -/
structure Strikes (column : Fin 64) (row : Fin 32) (j k : Nat) : Prop where
  tall : j < n.val
  wide : k < 8
  set : (memory.byte (cpu.i.toNat + j)).toNat.testBit (7 - k) = true
  column : (column.val : Int) = (cpu.coordinate x + k) % 64
  row : (row.val : Int) = (cpu.coordinate y + j) % 32

/-- Some bit of the sprite strikes the pixel. -/
def Struck (column : Fin 64) (row : Fin 32) : Prop :=
  ∃ j k : Nat, cpu.Strikes memory x y n column row j k

/-- What DXYN makes of the processor. -/
structure DrawnByPixel (after : Cpu) : Prop where
  flipped : ∀ column row, cpu.Struck memory x y n column row →
    after.display.on column row = !cpu.display.on column row
  kept : ∀ column row, ¬ cpu.Struck memory x y n column row →
    after.display.on column row = cpu.display.on column row
  flags : after.Flags
    (∃ column row, cpu.Struck memory x y n column row ∧ cpu.display.on column row = true)
  redraw : after.redraw = true
  registers : ∀ z, z ≠ Register.flag → after.v.get z = cpu.v.get z
  i : after.i = cpu.i
  pc : after.pc = cpu.pc
  sp : after.sp = cpu.sp
  stack : after.stack = cpu.stack
  dt : after.dt = cpu.dt
  st : after.st = cpu.st
  keys : after.keys = cpu.keys
  random : after.random = cpu.random

variable {cpu memory x y n}

/-- The coordinates wrap at 64 and at 32, and a sprite is at most 8 wide and 15 high. -/
theorem Strikes.unique {column : Fin 64} {row : Fin 32} {j k j' k' : Nat}
    (one : cpu.Strikes memory x y n column row j k)
    (two : cpu.Strikes memory x y n column row j' k') : j = j' ∧ k = k' := by
  have rows := one.row.symm.trans two.row
  have columns := one.column.symm.trans two.column
  have tall := one.tall
  have tall' := two.tall
  have wide := one.wide
  have wide' := two.wide
  omega

theorem struck_iff {r : DrawRequest} (standing : cpu.i = r.index) (column : Fin 64) (row : Fin 32) :
    cpu.Struck memory r.op.x r.op.y r.op.n column row ↔
      r.Covers cpu memory (Display.cell column.val row.val) := by
  have index : cpu.i.toNat = r.index := by omega
  apply exists_congr
  intro j
  apply exists_congr
  intro k
  rw [Display.cell_eq_iff]
  constructor
  · rintro ⟨tall, wide, set, columns, rows⟩
    rw [index] at set
    exact ⟨tall, wide, set, by omega, by omega⟩
  · rintro ⟨tall, wide, set, columns, rows⟩
    rw [← index] at set
    exact ⟨tall, wide, set, by omega, by omega⟩

theorem registers_drawSprite (cpu : Cpu) (x y : Register) (sprite : List UInt8) {z : Register}
    (other : z ≠ Register.flag) : (cpu.drawSprite x y sprite).v.get z = cpu.v.get z := by
  simp only [drawSprite]
  rw [v_setV, if_neg other, v_setV, if_neg other]

theorem drawnByPixel_drawSprite (memory : Memory) (r : DrawRequest) (standing : cpu.i = r.index) :
    cpu.DrawnByPixel memory r.op.x r.op.y r.op.n
      (cpu.drawSprite r.op.x r.op.y (memory.slice r.index r.op.n.val)) := by
  let after := cpu.drawSprite r.op.x r.op.y (memory.slice r.index r.op.n.val)
  have drawn : cpu.Drawn r memory after := by
    have made := cpu.drawn_drawSprite r memory
    rw [← standing] at made
    exact made
  have spared := cpu.spares_drawSprite r.op.x r.op.y (memory.slice r.index r.op.n.val)
  refine { flipped := ?_, kept := ?_, flags := ?_, redraw := rfl, registers := ?_, i := rfl,
           pc := rfl, sp := spared.sp nofun nofun, stack := spared.stack nofun,
           dt := spared.dt nofun, st := spared.st nofun, keys := spared.keys,
           random := spared.random nofun }
  · intro column row struck
    exact drawn.lit ((struck_iff standing column row).mp struck)
  · intro column row missed
    exact drawn.lit_of_missed fun covered => missed ((struck_iff standing column row).mpr covered)
  · have met : (∃ p, r.Covers cpu memory p ∧ cpu.display.lit p = true) ↔
        ∃ column row, cpu.Struck memory r.op.x r.op.y r.op.n column row ∧
          cpu.display.on column row = true := by
      constructor
      · rintro ⟨p, covered, lit⟩
        obtain ⟨column, row, rfl⟩ := Display.exists_cell p
        exact ⟨column, row, (struck_iff standing column row).mpr covered, lit⟩
      · rintro ⟨column, row, struck, lit⟩
        exact ⟨_, (struck_iff standing column row).mp struck, lit⟩
    have flags := drawn.flags
    rw [met] at flags
    exact flags
  · intro z other
    exact registers_drawSprite cpu _ _ _ other

end Cpu

namespace Core

/-- DXYN flips exactly the pixels that a set bit of the sprite strikes, and one bit strikes each of
them. VF is one if a struck pixel was lit, and else zero; the picture is marked as changed, and of the
rest nothing is. The sprite has to lie in memory, unless it has no rows. -/
theorem execute_drawing (cpu : Cpu) (memory : Memory) (log : Array Access) (x y : Register)
    (n : Fin 16) (natural : 0 ≤ cpu.i) (inRange : n.val = 0 ∨ cpu.i + n.val ≤ 0x1000) :
    (∃ after log', (Opcode.drawing x y n).decode.execute (holding cpu memory log) =
        .done () (holding after memory log') ∧ cpu.DrawnByPixel memory x y n after) ∧
    ∀ column row j k j' k', cpu.Strikes memory x y n column row j k →
      cpu.Strikes memory x y n column row j' k' → j = j' ∧ k = k' := by
  refine ⟨?_, fun _ _ _ _ _ _ => Cpu.Strikes.unique⟩
  obtain ⟨index, standing⟩ : ∃ index : Nat, cpu.i = index := ⟨cpu.i.toNat, by omega⟩
  have height := Opcode.n_drawing x y n
  let r : DrawRequest :=
    ⟨.drawing x y n, index, Opcode.form_drawing x y n, by rw [height]; omega⟩
  have drawn := Cpu.drawnByPixel_drawSprite memory r standing
  have executed := execute_draw cpu memory log standing r.op.x r.op.y r.inRange
  rw [← Opcode.decode_of_draws r.draws] at executed
  simp only [r, Opcode.x_drawing, Opcode.y_drawing, Opcode.n_drawing] at drawn executed
  exact ⟨_, _, executed, drawn⟩

/-- The digit 0 of the font at the lower edge, two rows of it: the sprite comes in again at the top.
Its column is the one that VF gives, which is zero whatever VF holds. -/
theorem execute_drawing_wrapped :
    ∃ (cpu after : Cpu) (memory : Memory) (log log' : Array Access) (y : Register) (n : Fin 16),
      cpu.v.get Register.flag = 62 ∧ cpu.v.get y = 31 ∧ n.val = 2 ∧
      (Opcode.drawing Register.flag y n).decode.execute (holding cpu memory log) =
        .done () (holding after memory log') ∧
      after.display.on ⟨3, by decide⟩ ⟨31, by decide⟩ = true ∧
      after.display.on ⟨3, by decide⟩ ⟨0, by decide⟩ = true ∧
      after.display.on ⟨1, by decide⟩ ⟨0, by decide⟩ = false ∧
      after.v.get Register.flag = 0 := by
  let y : Register := ⟨0, by decide⟩
  let n : Fin 16 := ⟨2, by decide⟩
  let memory := Memory.zero.putAll fontStart font
  let cpu := ((Cpu.initial (.ofSeed 0)).setV Register.flag 62).setV y 31
  have dark (column row) : cpu.display.on column row = false := by
    simp [cpu, Cpu.setV, Cpu.initial, Display.blank, Display.on, Display.lit]
  have left : cpu.coordinate Register.flag = 0 := if_pos rfl
  have top : cpu.v.get y = 31 := by rw [Cpu.v_setV, if_pos rfl]
  have low : cpu.coordinate y = 31 := (if_neg (by decide)).trans top
  have first : memory.byte (cpu.i.toNat + 0) = 0xF0 := by
    rw [Memory.byte_putAll _ _ _ (by decide)]
    decide
  have second : memory.byte (cpu.i.toNat + 1) = 0x90 := by
    rw [Memory.byte_putAll _ _ _ (by decide)]
    decide
  have above : cpu.Struck memory Register.flag y n ⟨3, by decide⟩ ⟨31, by decide⟩ :=
    ⟨0, 3, by decide, by decide, by rw [first]; decide, by simp [left], by simp [low]⟩
  have below : cpu.Struck memory Register.flag y n ⟨3, by decide⟩ ⟨0, by decide⟩ :=
    ⟨1, 3, by decide, by decide, by rw [second]; decide, by simp [left], by simp [low]⟩
  have between : ¬ cpu.Struck memory Register.flag y n ⟨1, by decide⟩ ⟨0, by decide⟩ := by
    rintro ⟨j, k, tall, wide, set, column, row⟩
    have columns : (1 : Int) = (0 + k) % 64 := left ▸ column
    have rows : (0 : Int) = (31 + j) % 32 := low ▸ row
    have tall : j < 2 := tall
    obtain rfl : j = 1 := by omega
    obtain rfl : k = 1 := by omega
    rw [second] at set
    exact absurd set (by decide)
  obtain ⟨⟨after, log', executed, drawn⟩, _⟩ :=
    execute_drawing cpu memory #[] Register.flag y n (by decide) (.inr (by decide))
  refine ⟨cpu, after, memory, #[], log', y, n, ?_, top, rfl, executed, ?_, ?_, ?_, ?_⟩
  · rw [Cpu.v_setV, if_neg (by decide), Cpu.v_setV, if_pos rfl]
  · rw [drawn.flipped _ _ above, dark]
    rfl
  · rw [drawn.flipped _ _ below, dark]
    rfl
  · rw [drawn.kept _ _ between, dark]
  · apply drawn.flags.2
    rintro ⟨column, row, _, lit⟩
    rw [dark] at lit
    cases lit

end Core

end Chip8
