import Mathlib.Data.List.Nodup
import Chip8.Display
import Chip8.Proofs.Memory

/-! Sprites as sets of pixels. Flipping pixels in a row leaves each pixel lit or not as the number
of its flips is even or odd, so neither their order nor a pair of equal flips matters. The set bits
of a sprite cover the pixels of a window that wraps round both edges, and none of them twice. -/

namespace Chip8

namespace Display

variable {d : Display} {i j : Fin 2048}

@[ext] theorem ext_lit {d e : Display} (same : ∀ i, d.lit i = e.lit i) : d = e := by
  cases d
  cases e
  congr
  ext i inside
  exact same ⟨i, inside⟩

theorem lit_flip (d : Display) (i j : Fin 2048) :
    (d.flip i).lit j = (d.lit j ^^ decide (i = j)) := by
  by_cases same : i = j
  · subst same
    simp [lit, flip]
  · have apart : i.val ≠ j.val := fun e => same (Fin.ext e)
    simp [lit, flip, same, apart]

/-- Flips pixels one after another. -/
def flipEach (d : Display) (cells : List (Fin 2048)) : Display :=
  cells.foldl flip d

theorem flipEach_append (d : Display) (cells more : List (Fin 2048)) :
    d.flipEach (cells ++ more) = (d.flipEach cells).flipEach more :=
  List.foldl_append

/-- A pixel that is flipped an odd number of times changes, and any other stays. -/
theorem lit_flipEach (d : Display) (cells : List (Fin 2048)) (j : Fin 2048) :
    (d.flipEach cells).lit j = (d.lit j ^^ decide (cells.count j % 2 = 1)) := by
  induction cells generalizing d with
  | nil => simp [flipEach]
  | cons i rest ih =>
    have step : d.flipEach (i :: rest) = (d.flip i).flipEach rest := rfl
    rw [step, ih, lit_flip, List.count_cons, Bool.xor_assoc]
    congr 1
    by_cases same : i = j
    · have parity : (rest.count j + 1) % 2 = 1 ↔ ¬ rest.count j % 2 = 1 := by omega
      simp only [same, beq_self_eq_true, if_true, parity, decide_true, decide_not, Bool.true_xor]
    · simp [same]

theorem fst_flipAll (d : Display) (hit : Bool) (cells : List (Fin 2048)) :
    (flipAll (d, hit) cells).1 = d.flipEach cells := by
  induction cells generalizing d hit with
  | nil => rfl
  | cons i rest ih => exact ih (d.flip i) (hit || d.lit i)

/-- A lit pixel is met exactly if one was lit before, as long as no pixel is flipped twice. -/
theorem snd_flipAll {cells : List (Fin 2048)} (apart : cells.Nodup) (d : Display) (hit : Bool) :
    (flipAll (d, hit) cells).2 = true ↔ hit = true ∨ ∃ p ∈ cells, d.lit p = true := by
  induction cells generalizing d hit with
  | nil => simp [flipAll]
  | cons i rest ih =>
    obtain ⟨fresh, apart⟩ := List.nodup_cons.mp apart
    have step : flipAll (d, hit) (i :: rest) = flipAll (d.flip i, hit || d.lit i) rest := rfl
    have others : (∃ p ∈ rest, (d.flip i).lit p = true) ↔ ∃ p ∈ rest, d.lit p = true := by
      apply exists_congr
      intro p
      apply and_congr_right
      intro member
      have other : i ≠ p := by
        rintro rfl
        exact fresh member
      simp [lit_flip, other]
    rw [step, ih apart, others]
    simp [or_assoc]

/-- Two places give one pixel exactly if they agree round the edges. -/
theorem cell_eq_iff (column row column' row' : Int) :
    cell column row = cell column' row' ↔ column % 64 = column' % 64 ∧ row % 32 = row' % 32 := by
  rw [Fin.ext_iff]
  simp only [cell]
  omega

theorem mem_columns {bits : UInt8} {k : Nat} :
    k ∈ columns bits ↔ k < 8 ∧ bits.toNat.testBit (7 - k) = true := by
  simp [columns]

theorem nodup_columns (bits : UInt8) : (columns bits).Nodup :=
  List.nodup_range.filter _

/-- The pixels that the set bits of a sprite cover. -/
theorem mem_spriteCells {column row : Int} {sprite : List UInt8} {p : Fin 2048} :
    p ∈ spriteCells column row sprite ↔ ∃ j k : Nat, k < 8 ∧
      (∃ bits, sprite[j]? = some bits ∧ bits.toNat.testBit (7 - k) = true) ∧
      p = cell (column + k) (row + j) := by
  induction sprite generalizing row with
  | nil => simp [spriteCells]
  | cons bits rest ih =>
    simp only [spriteCells, List.mem_append, List.mem_map, mem_columns, ih]
    constructor
    · rintro (⟨k, ⟨small, set⟩, rfl⟩ | ⟨j, k, small, set, rfl⟩)
      · exact ⟨0, k, small, ⟨bits, rfl, set⟩, by simp⟩
      · refine ⟨j + 1, k, small, set, ?_⟩
        congr 1
        omega
    · rintro ⟨j, k, small, ⟨found, at_j, set⟩, rfl⟩
      cases j with
      | zero =>
        cases at_j
        exact .inl ⟨k, ⟨small, set⟩, by simp⟩
      | succ j =>
        refine .inr ⟨j, k, small, ⟨found, at_j, set⟩, ?_⟩
        congr 1
        omega

/-- No pixel is covered twice by a sprite that is not higher than the display. -/
theorem nodup_spriteCells (column row : Int) (sprite : List UInt8) (fits : sprite.length ≤ 32) :
    (spriteCells column row sprite).Nodup := by
  induction sprite generalizing row with
  | nil => exact List.nodup_nil
  | cons bits rest ih =>
    rw [List.length_cons] at fits
    rw [spriteCells, List.nodup_append]
    refine ⟨?_, ih (row + 1) (by omega), ?_⟩
    · refine List.Nodup.map_on ?_ (nodup_columns bits)
      intro k first k' second same
      have small := (mem_columns.mp first).1
      have small' := (mem_columns.mp second).1
      have columns := ((cell_eq_iff _ _ _ _).mp same).1
      omega
    · intro p here q below same
      obtain ⟨k, _, rfl⟩ := List.mem_map.mp here
      obtain ⟨j, k', _, ⟨found, inside, _⟩, rfl⟩ := mem_spriteCells.mp below
      have within := (List.getElem?_eq_some_iff.mp inside).1
      have rows := ((cell_eq_iff _ _ _ _).mp same).2
      omega

end Display

end Chip8
