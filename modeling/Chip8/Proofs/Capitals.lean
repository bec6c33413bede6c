import Chip8.Text.Upper

/-! Upper case, applied twice. No capital has a capital of its own: the code points of the capitals
lie apart from the ranges of small letters and from the characters that become several. So a text in
upper case stays as it is. -/

namespace Chip8.Text

namespace CaseRange

variable {r s : CaseRange} {code : Nat}

/-- The capitals of a range. -/
def capitals (r : CaseRange) : CaseRange :=
  ⟨(r.first + r.delta).toNat, (r.last + r.delta).toNat, r.step, 0⟩

def single (code : Nat) : CaseRange :=
  ⟨code, code, 1, 0⟩

/-- All of its code points are even, or all are odd. -/
def alternates (r : CaseRange) : Bool :=
  Nat.beq r.first r.last || Nat.beq r.step 2

/-- No code point is in both: one ends before the other starts, or one is even and the other odd. -/
def isApart (r s : CaseRange) : Bool :=
  Nat.blt r.last s.first || Nat.blt s.last r.first ||
    r.alternates && s.alternates && Nat.beq ((r.first + s.first) % 2) 1

theorem contains_iff :
    r.contains code = true ↔
      r.first ≤ code ∧ code ≤ r.last ∧ (code - r.first) % r.step = 0 := by
  simp [contains, and_assoc]

theorem contains_single {other : Nat} : (single code).contains other = true ↔ other = code := by
  simp only [contains_iff, single]
  omega

theorem contains_capitals (positive : 0 ≤ r.first + r.delta) (inside : r.contains code = true) :
    r.capitals.contains (code + r.delta).toNat = true := by
  rw [contains_iff] at inside ⊢
  obtain ⟨above, below, step⟩ := inside
  have same : (code + r.delta).toNat - (r.first + r.delta).toNat = code - r.first := by omega
  refine ⟨?_, ?_, ?_⟩
  · show (r.first + r.delta).toNat ≤ _
    omega
  · show _ ≤ (r.last + r.delta).toNat
    omega
  · show (_ - (r.first + r.delta).toNat) % r.step = 0
    rw [same, step]

theorem even_of_alternates (alternates : r.alternates = true) (inside : r.contains code = true) :
    (code + r.first) % 2 = 0 := by
  obtain ⟨above, below, step⟩ := contains_iff.mp inside
  simp only [CaseRange.alternates, Bool.or_eq_true, Nat.beq_eq] at alternates
  obtain single | two := alternates
  · omega
  · rw [two] at step
    omega

theorem not_contains_of_isApart (apart : r.isApart s = true) (inside : r.contains code = true) :
    s.contains code = false := by
  rw [Bool.eq_false_iff]
  intro other
  obtain ⟨above, below, _⟩ := contains_iff.mp inside
  obtain ⟨otherAbove, otherBelow, _⟩ := contains_iff.mp other
  simp only [isApart, Bool.or_eq_true, Bool.and_eq_true, Nat.blt_eq, Nat.beq_eq] at apart
  obtain (before | behind) | ⟨⟨first, second⟩, odd⟩ := apart
  · omega
  · omega
  · have parity := even_of_alternates first inside
    have otherParity := even_of_alternates second other
    omega

/-- The capitals of the ranges, and each character of those that are several. -/
def upperCase : List CaseRange :=
  all.map capitals ++ capitalSequences.flatMap fun entry => entry.2.map single

/-- The ranges of small letters, and each character that becomes several. -/
def changing : List CaseRange :=
  all ++ capitalSequences.map fun entry => single entry.1

theorem isApart_of_mem (upper : r ∈ upperCase) (lower : s ∈ changing) : r.isApart s = true := by
  have apart : upperCase.all (fun r => changing.all r.isApart) = true := by decide +kernel
  exact List.all_eq_true.mp (List.all_eq_true.mp apart r upper) s lower

theorem capitals_positive : ∀ r ∈ all, 0 ≤ r.first + r.delta := by
  decide +kernel

/-- A range without surrogates, within the code points. -/
def isScalar (r : CaseRange) : Bool :=
  Nat.blt r.last 0xD800 || Nat.blt 0xDFFF r.first && Nat.blt r.last 0x110000

theorem isScalar_of_mem (upper : r ∈ upperCase) : r.isScalar = true := by
  have scalar : upperCase.all isScalar = true := by decide +kernel
  exact List.all_eq_true.mp scalar r upper

theorem toNat_ofNat (scalar : r.isScalar = true) (inside : r.contains code = true) :
    (Char.ofNat code).toNat = code := by
  obtain ⟨above, below, _⟩ := contains_iff.mp inside
  simp only [isScalar, Bool.or_eq_true, Bool.and_eq_true, Nat.blt_eq] at scalar
  have valid : code.isValidChar := by
    unfold Nat.isValidChar
    omega
  rw [Char.ofNat, dif_pos valid]
  rfl

end CaseRange

open CaseRange

/-- A character that is in none of the changing ranges is its own capital. -/
theorem upperChar_of_not_changing {c : Char}
    (other : ∀ r ∈ changing, r.contains c.toNat = false) : upperChar c = [c] := by
  have unlisted : capitalSequences.lookup c.toNat = none := by
    rw [List.lookup_eq_none_iff]
    intro entry member
    have lone := other (single entry.1) (List.mem_append_right _ (List.mem_map_of_mem member))
    rw [Bool.eq_false_iff, ne_eq, contains_single] at lone
    simpa using lone
  have outside : CaseRange.all.find? (fun r => r.contains c.toNat) = none := by
    rw [List.find?_eq_none]
    intro r member
    simp [other r (List.mem_append_left _ member)]
  rw [upperChar, unlisted, outside]

theorem upperChar_ofNat {r : CaseRange} {code : Nat} (upper : r ∈ upperCase)
    (inside : r.contains code = true) : upperChar (Char.ofNat code) = [Char.ofNat code] := by
  apply upperChar_of_not_changing
  intro s lower
  rw [toNat_ofNat (isScalar_of_mem upper) inside]
  exact not_contains_of_isApart (isApart_of_mem upper lower) inside

/-- A capital is its own capital. -/
theorem upperChar_of_mem {c d : Char} (member : d ∈ upperChar c) : upperChar d = [d] := by
  unfold upperChar at member
  split at member
  · rename_i codes listed
    obtain ⟨code, inside, rfl⟩ := List.mem_map.mp member
    obtain ⟨before, behind, split, _⟩ := List.lookup_eq_some_iff.mp listed
    have entry : (c.toNat, codes) ∈ capitalSequences := by simp [split]
    exact upperChar_ofNat (List.mem_append_right _
      (List.mem_flatMap.mpr ⟨_, entry, List.mem_map_of_mem inside⟩)) (contains_single.mpr rfl)
  · rename_i unlisted
    split at member
    · rename_i r found
      obtain rfl := List.mem_singleton.mp member
      have listed := List.mem_of_find?_eq_some found
      have inside : r.contains c.toNat = true := by simpa using List.find?_some found
      exact upperChar_ofNat (List.mem_append_left _ (List.mem_map_of_mem listed))
        (contains_capitals (capitals_positive r listed) inside)
    · rename_i outside
      obtain rfl := List.mem_singleton.mp member
      rw [upperChar, unlisted, outside]

theorem upperChar_ne_nil (c : Char) : upperChar c ≠ [] := by
  have several : capitalSequences.all (fun entry => !entry.2.isEmpty) = true := by decide
  unfold upperChar
  split
  · rename_i codes listed
    obtain ⟨before, behind, split, _⟩ := List.lookup_eq_some_iff.mp listed
    have entry : (c.toNat, codes) ∈ capitalSequences := by simp [split]
    have nonempty := List.all_eq_true.mp several _ entry
    simpa using nonempty
  · split <;> simp

theorem upperPoint_of_mem {p q : CodePoint} (member : q ∈ upperPoint p) : upperPoint q = [q] := by
  cases p with
  | char c =>
    obtain ⟨d, inside, rfl⟩ := List.mem_map.mp member
    simp [upperPoint, upperChar_of_mem inside, ofChars]
  | surrogate n =>
    obtain rfl := List.mem_singleton.mp member
    rfl

theorem upper_eq_self {t : Text} (capitals : ∀ p ∈ t, upperPoint p = [p]) : upper t = t := by
  induction t with
  | nil => rfl
  | cons p rest ih =>
    obtain ⟨here, later⟩ := List.forall_mem_cons.mp capitals
    have tail : rest.flatMap upperPoint = rest := ih later
    rw [upper, List.flatMap_cons, here, tail, List.singleton_append]

/-- A text in upper case stays as it is. -/
theorem upper_upper (t : Text) : upper (upper t) = upper t := by
  apply upper_eq_self
  intro q member
  obtain ⟨p, _, inside⟩ := List.mem_flatMap.mp member
  exact upperPoint_of_mem inside

theorem upper_eq_nil {t : Text} : upper t = [] ↔ t = [] := by
  have nonempty (p : CodePoint) : upperPoint p ≠ [] := by
    cases p with
    | char c => simpa [upperPoint, ofChars] using upperChar_ne_nil c
    | surrogate n => simp [upperPoint]
  cases t <;> simp [upper, nonempty]

end Chip8.Text
