import Chip8.Instruction.Decode

/-! Decoding, seen from the four hexadecimal digits of a word. The form of a word is that of a row
whose pattern covers its digits, and an unknown word is covered by no row. -/

namespace Chip8

namespace Pattern

theorem accepts_machineCall (op : Int) :
    machineCall.accepts op = true ↔ op < 0x1000 ∧ (Opcode.y op).val ≠ 0xE := by
  simp [accepts]

theorem accepts_whole (op : Int) (word : Nat) :
    (whole word).accepts op = true ↔ op % 0x10000 = word := by
  simp [accepts]

theorem accepts_group (op : Int) (digit : Nat) :
    (group digit).accepts op = true ↔ op / 0x1000 % 16 = digit := by
  simp [accepts]

theorem accepts_groupLast (op : Int) (digit last : Nat) :
    (groupLast digit last).accepts op = true ↔ op / 0x1000 % 16 = digit ∧ op % 16 = last := by
  simp [accepts]

theorem accepts_groupByte (op : Int) (digit byte : Nat) :
    (groupByte digit byte).accepts op = true ↔ op / 0x1000 % 16 = digit ∧ op % 256 = byte := by
  simp [accepts]

end Pattern

/-- The patterns as conditions on the digits of a word of 16 bits. -/
def Pattern.Covers (a x y n : Fin 16) : Pattern → Prop
  | machineCall => a.val = 0 ∧ y.val ≠ 0xE
  | whole word => 0x1000 * a.val + 0x100 * x.val + 0x10 * y.val + n.val = word
  | group digit => a.val = digit
  | groupLast digit last => a.val = digit ∧ n.val = last
  | groupByte digit byte => a.val = digit ∧ 0x10 * y.val + n.val = byte

namespace Opcode

def ofDigits (a x y n : Fin 16) : Opcode :=
  ((0x1000 * a.val + 0x100 * x.val + 0x10 * y.val + n.val : Nat) : Int)

variable (a x y n : Fin 16)

theorem x_ofDigits : (ofDigits a x y n).x = x := by
  rw [Fin.ext_iff]
  simp only [Opcode.x, ofDigits]
  omega

theorem y_ofDigits : (ofDigits a x y n).y = y := by
  rw [Fin.ext_iff]
  simp only [Opcode.y, ofDigits]
  omega

theorem n_ofDigits : (ofDigits a x y n).n = n := by
  rw [Fin.ext_iff]
  simp only [Opcode.n, ofDigits]
  omega

theorem kk_ofDigits : (ofDigits a x y n).kk.val = 0x10 * y.val + n.val := by
  simp only [kk, ofDigits]
  omega

theorem nnn_ofDigits : (ofDigits a x y n).nnn.val = 0x100 * x.val + 0x10 * y.val + n.val := by
  simp only [nnn, ofDigits]
  omega

theorem accepts_ofDigits (p : Pattern) :
    p.accepts (ofDigits a x y n) = true ↔ p.Covers a x y n := by
  cases p with
  | machineCall =>
    rw [Pattern.accepts_machineCall, y_ofDigits]
    simp only [Pattern.Covers, ofDigits]
    omega
  | whole word =>
    rw [Pattern.accepts_whole]
    simp only [Pattern.Covers, ofDigits]
    omega
  | group digit =>
    rw [Pattern.accepts_group]
    simp only [Pattern.Covers, ofDigits]
    omega
  | groupLast digit last =>
    rw [Pattern.accepts_groupLast]
    simp only [Pattern.Covers, ofDigits]
    omega
  | groupByte digit byte =>
    rw [Pattern.accepts_groupByte]
    simp only [Pattern.Covers, ofDigits]
    omega

end Opcode

namespace Form

theorem accepts_of_lookup {rows : List (Pattern × Form)} {op : Opcode}
    (known : lookup rows op ≠ unknown) :
    ∃ row ∈ rows, row.2 = lookup rows op ∧ row.1.accepts op = true := by
  unfold lookup at known ⊢
  cases found : rows.find? fun row => row.1.accepts op with
  | none => simp [found] at known
  | some row =>
    have accepted := List.find?_some found
    exact ⟨row, List.mem_of_find?_eq_some found, rfl, accepted⟩

theorem rejects_of_lookup {rows : List (Pattern × Form)} {op : Opcode}
    (named : ∀ row ∈ rows, row.2 ≠ unknown) (nothing : lookup rows op = unknown) :
    ∀ row ∈ rows, ¬ row.1.accepts op = true := by
  unfold lookup at nothing
  cases found : rows.find? fun row => row.1.accepts op with
  | none => simpa using found
  | some row =>
    rw [found] at nothing
    exact absurd nothing (named row (List.mem_of_find?_eq_some found))

end Form

namespace Opcode

variable {a x y n : Fin 16}

theorem covers_of_form {form : Form} (p : Pattern)
    (only : ∀ row ∈ Form.table, row.2 = form → row.1 = p) (known : form ≠ .unknown)
    (named : (ofDigits a x y n).form = form) : p.Covers a x y n := by
  have found : Form.lookup Form.table (ofDigits a x y n) = form := named
  obtain ⟨row, member, same, accepted⟩ :=
    Form.accepts_of_lookup (fun e => known (found.symm.trans e))
  rw [only row member (same.trans found)] at accepted
  exact (accepts_ofDigits a x y n p).mp accepted

theorem not_covers_of_unknown (named : (ofDigits a x y n).form = .unknown) :
    ∀ row ∈ Form.table, ¬ row.1.Covers a x y n := by
  intro row member covers
  have nothing : Form.lookup Form.table (ofDigits a x y n) = .unknown := named
  have known : ∀ row ∈ Form.table, row.2 ≠ .unknown := by decide
  have rejected := Form.rejects_of_lookup known nothing
  exact rejected row member ((accepts_ofDigits a x y n row.1).mpr covers)

theorem draw_of_covers (first : a.val = 0xD) :
    ∀ row ∈ Form.table, row.1.Covers a x y n → row.2 = .draw := by
  simp only [Form.table, Pattern.Covers, List.forall_mem_cons, List.not_mem_nil]
  simp [first]
  omega

theorem draw_of_first (first : a.val = 0xD) : (ofDigits a x y n).form = .draw := by
  by_cases unknown : (ofDigits a x y n).form = .unknown
  · have listed : (Pattern.group 0xD, Form.draw) ∈ Form.table := by decide
    exact absurd first (not_covers_of_unknown unknown _ listed)
  · obtain ⟨row, member, same, accepted⟩ := Form.accepts_of_lookup unknown
    rw [← draw_of_covers first row member ((accepts_ofDigits a x y n row.1).mp accepted)]
    exact same.symm

end Opcode

end Chip8
