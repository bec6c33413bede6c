import Chip8.Text.Hex

/-! Hexadecimal texts, read back. The digits give the number, zeros before them add nothing, and a
minus sign turns it round; so a text belongs to one number, whatever width it was written with. -/

namespace Chip8.Text.Hex

/-- The value of a digit. The minus sign counts as zero. -/
def digitValue (c : Char) : Nat :=
  if c.toNat < 58 then c.toNat - 48 else c.toNat - 55

def natural (cs : List Char) : Nat :=
  cs.foldl (fun n c => n * 16 + digitValue c) 0

/-- The number that `upper` wrote. -/
def read (cs : List Char) : Int :=
  if '-' ∈ cs then -(natural cs : Int) else natural cs

theorem digitValue_upperDigit : ∀ d < 16, digitValue (upperDigit d) = d := by
  decide

theorem natural_append (cs : List Char) (c : Char) :
    natural (cs ++ [c]) = natural cs * 16 + digitValue c := by
  simp [natural]

theorem natural_digits (n : Nat) : natural ((digits n).map upperDigit) = n := by
  induction n using digits.induct with
  | case1 n small =>
    rw [digits, if_pos small]
    simp [natural, digitValue_upperDigit n small]
  | case2 n large ih =>
    have last : n % 16 < 16 := Nat.mod_lt n (by decide)
    rw [digits, if_neg large, List.map_append, List.map_singleton, natural_append, ih,
      digitValue_upperDigit _ last]
    omega

theorem digits_lt {n d : Nat} (member : d ∈ digits n) : d < 16 := by
  induction n using digits.induct with
  | case1 n small =>
    rw [digits, if_pos small, List.mem_singleton] at member
    omega
  | case2 n large ih =>
    rw [digits, if_neg large, List.mem_append, List.mem_singleton] at member
    obtain before | rfl := member
    · exact ih before
    · exact Nat.mod_lt n (by decide)

/-- The digits of a number behind zeros. -/
def filled (zeros n : Nat) : List Char :=
  List.replicate zeros '0' ++ (digits n).map upperDigit

theorem natural_filled (zeros n : Nat) : natural (filled zeros n) = n := by
  induction zeros with
  | zero => exact natural_digits n
  | succ zeros ih => exact ih

theorem digit_of_mem_filled {zeros n : Nat} {c : Char} (member : c ∈ filled zeros n) :
    ∃ d < 16, upperDigit d = c := by
  obtain zero | digit := List.mem_append.mp member
  · exact ⟨0, by decide, (List.eq_of_mem_replicate zero).symm⟩
  · obtain ⟨d, listed, written⟩ := List.mem_map.mp digit
    exact ⟨d, digits_lt listed, written⟩

theorem exists_filled (width : Nat) (n : Int) :
    ∃ zeros, (upper width n).toList = sign n ++ filled zeros n.natAbs := by
  simp only [upper, padded, List.append_nil, String.toList_ofList, List.append_assoc]
  exact ⟨_, rfl⟩

/-- A character that is neither a digit nor the minus sign does not occur. -/
theorem not_mem_upper {c : Char} (other : c ≠ '-' ∧ ∀ d < 16, upperDigit d ≠ c) (width : Nat)
    (n : Int) : c ∉ (upper width n).toList := by
  obtain ⟨zeros, written⟩ := exists_filled width n
  rw [written, List.mem_append]
  rintro (signed | digit)
  · unfold sign at signed
    split at signed
    · exact other.1 (List.mem_singleton.mp signed)
    · cases signed
  · obtain ⟨d, small, same⟩ := digit_of_mem_filled digit
    exact other.2 d small same

theorem read_upper (width : Nat) (n : Int) : read (upper width n).toList = n := by
  obtain ⟨zeros, written⟩ := exists_filled width n
  have value := natural_filled zeros n.natAbs
  rw [written]
  by_cases negative : n < 0
  · have signed : sign n = ['-'] := if_pos negative
    have skipped : natural ('-' :: filled zeros n.natAbs) = natural (filled zeros n.natAbs) := rfl
    rw [signed, List.singleton_append, read, if_pos List.mem_cons_self, skipped, value]
    omega
  · have unsigned : sign n = [] := if_neg negative
    have positive : '-' ∉ filled zeros n.natAbs := by
      intro member
      obtain ⟨d, small, same⟩ := digit_of_mem_filled member
      have other : ∀ d < 16, upperDigit d ≠ '-' := by decide
      exact other d small same
    rw [unsigned, List.nil_append, read, if_neg positive, value]
    omega

end Chip8.Text.Hex
