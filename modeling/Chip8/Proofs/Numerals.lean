import Mathlib.Data.List.Basic
import Chip8.Document.Text
import Chip8.Text.Hex

/-! Plain numerals. A plain numeral is written in ASCII digits, in decimal ones with or without a sign
or in hexadecimal ones behind the mark; a zero before its digits adds nothing. The decimal texts that
are written for integers are plain numerals of them. -/

namespace Chip8.Text.Numeral

/-- The character is a digit of the base, a small or a capital one. -/
def IsDigit (base : Nat) (c : Char) (d : Nat) : Prop :=
  d < base ∧ (c = Hex.lowerDigit d ∨ c = Hex.upperDigit d)

/-- The characters are the digits of a number, most significant first. -/
inductive Spells (base : Nat) : List Char → Nat → Prop
  | digit {c : Char} {d : Nat} (shown : IsDigit base c d) : Spells base [c] d
  | append {cs : List Char} {n : Nat} {c : Char} {d : Nat} (before : Spells base cs n)
      (shown : IsDigit base c d) : Spells base (cs ++ [c]) (n * base + d)

/-- The characters are a plain numeral of the integer. -/
inductive Plain : List Char → Int → Prop
  | unsigned {cs : List Char} {n : Nat} (spells : Spells 10 cs n)
      (short : cs.length ≤ maxDecimalDigits) : Plain cs n
  | positive {cs : List Char} {n : Nat} (spells : Spells 10 cs n)
      (short : cs.length ≤ maxDecimalDigits) : Plain ('+' :: cs) n
  | negative {cs : List Char} {n : Nat} (spells : Spells 10 cs n)
      (short : cs.length ≤ maxDecimalDigits) : Plain ('-' :: cs) (-n)
  | hexadecimal {cs : List Char} {n : Nat} {mark : Char} (marked : mark = 'x' ∨ mark = 'X')
      (spells : Spells 16 cs n) : Plain ('0' :: mark :: cs) n

variable {base n : Nat} {cs : List Char}

theorem isDigit_zero (positive : 0 < base) : IsDigit base '0' 0 :=
  ⟨positive, .inl rfl⟩

theorem Spells.zero_cons (spells : Spells base cs n) (positive : 0 < base) :
    Spells base ('0' :: cs) n := by
  have zero : Spells base ['0'] 0 := .digit (isDigit_zero positive)
  induction spells with
  | digit shown =>
    have spelled := zero.append shown
    rwa [Nat.zero_mul, Nat.zero_add] at spelled
  | append before shown ih => exact ih.append shown

theorem Spells.append_zeros (spells : Spells base cs n) (positive : 0 < base) (zeros : Nat) :
    Spells base (cs ++ List.replicate zeros '0') (n * Nat.pow base zeros) := by
  induction zeros with
  | zero => simpa using spells
  | succ zeros ih =>
    have spelled := ih.append (isDigit_zero positive)
    rw [List.append_assoc, ← List.replicate_succ', Nat.add_zero, Nat.mul_assoc] at spelled
    exact spelled

theorem spells_toDigits (n : Nat) : Spells 10 (Nat.toDigits 10 n) n := by
  have digitChar : ∀ d < 10, Nat.digitChar d = Hex.lowerDigit d := by decide
  induction n using Nat.strongRecOn with
  | _ n ih =>
    rw [Nat.toDigits_eq_if (by decide)]
    split
    · rename_i small
      exact .digit ⟨small, .inl (digitChar n small)⟩
    · have last : n % 10 < 10 := Nat.mod_lt n (by decide)
      have spelled := (ih (n / 10) (by omega)).append ⟨last, .inl (digitChar _ last)⟩
      rwa [Nat.div_add_mod'] at spelled

/-- The decimal text of an integer is a plain numeral of it. -/
theorem plain_of_intText? {n : Int} {s : String} (written : intText? n = some s) :
    Plain s.toList n := by
  unfold intText? at written
  split at written
  · rename_i short
    rw [Nat.pow_eq, ← Nat.length_toDigits_le_iff (by decide) (by decide)] at short
    cases written
    cases n with
    | ofNat n =>
      rw [Int.toString_eq_repr, Int.repr, Nat.toList_repr]
      exact .unsigned (spells_toDigits n) short
    | negSucc n =>
      rw [Int.toString_eq_repr, Int.repr, String.toList_append, Nat.toList_repr]
      exact .negative (spells_toDigits (n + 1)) short
  · cases written

end Chip8.Text.Numeral
