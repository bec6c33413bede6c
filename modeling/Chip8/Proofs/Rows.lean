import Chip8.Machine.Basic
import Chip8.Proofs.Layout

/-! The rows of the instruction table. Two rows ask for different digits in some place, so no natural
number fits both, and the table may be searched in any order. Every row but the first looks at the
low 16 bits alone. The first takes no number above them; but the machine code that it stands for is
passed over, as is a number that fits no row. So the low 16 bits of a number decide what it does. -/

namespace Chip8

namespace Pattern

/-- The first of the four digits that a pattern asks for. -/
def leading : Pattern → Nat
  | machineCall => 0
  | whole word => word / 0x1000 % 16
  | group digit | groupLast digit _ | groupByte digit _ => digit

/-- The patterns ask for different digits in some place. -/
def apart (p q : Pattern) : Bool :=
  p.leading ≠ q.leading ||
    match p, q with
    | machineCall, whole word | whole word, machineCall => word / 16 % 16 = 0xE
    | whole one, whole two => one ≠ two
    | groupLast _ one, groupLast _ two => one ≠ two
    | groupByte _ one, groupByte _ two => one ≠ two
    | _, _ => false

variable {p q : Pattern} {op : Nat}

theorem leading_of_accepts (accepted : p.accepts (op : Int) = true) :
    op / 0x1000 % 16 = p.leading := by
  cases p
  all_goals
    simp only [accepts_machineCall, accepts_whole, accepts_group, accepts_groupLast,
      accepts_groupByte] at accepted
    simp only [leading]
    omega

/-- Natural numbers alone: a negative number may fit the first row and another one. -/
theorem not_both_of_apart (apart : p.apart q = true) :
    ¬ (p.accepts (op : Int) = true ∧ q.accepts (op : Int) = true) := by
  rintro ⟨one, two⟩
  have leading : p.leading = q.leading := (leading_of_accepts one).symm.trans (leading_of_accepts two)
  simp only [Pattern.apart, leading, ne_eq, not_true_eq_false, decide_false, Bool.false_or] at apart
  -- With one leading digit, the patterns are of one kind, or one of them is the machine call.
  cases p <;> cases q <;> simp only [decide_eq_true_eq, Bool.false_eq_true] at apart
  all_goals
    simp only [accepts_machineCall, accepts_whole, accepts_groupLast, accepts_groupByte,
      Opcode.val_y] at one two
    omega

end Pattern

namespace Form

theorem apart_rows : table.Pairwise fun one two => one.1.apart two.1 = true := by
  decide

def accepting (rows : List (Pattern × Form)) (op : Opcode) : List (Pattern × Form) :=
  rows.filter fun row => row.1.accepts op

theorem lookup_eq (rows : List (Pattern × Form)) (op : Opcode) :
    lookup rows op = ((accepting rows op).head?.map Prod.snd).getD unknown := by
  rw [lookup, accepting, List.head?_filter]
  cases rows.find? fun row => row.1.accepts op <;> rfl

theorem length_accepting_le_one {rows : List (Pattern × Form)}
    (apart : rows.Pairwise fun one two => one.1.apart two.1 = true) (op : Nat) :
    (accepting rows op).length ≤ 1 := by
  induction rows with
  | nil => simp [accepting]
  | cons row rest ih =>
    obtain ⟨others, apart⟩ := List.pairwise_cons.mp apart
    by_cases accepted : row.1.accepts op = true
    · have none : (rest.filter fun row => row.1.accepts (op : Int)) = [] := by
        apply List.filter_eq_nil_iff.mpr
        intro other member both
        exact Pattern.not_both_of_apart (others other member) ⟨accepted, both⟩
      simp [accepting, accepted, none]
    · simpa [accepting, accepted] using ih apart

variable {rows : List (Pattern × Form)}

theorem accepting_of_perm (permuted : rows.Perm table) (op : Nat) :
    accepting rows op = accepting table op := by
  have same : (accepting rows op).Perm (accepting table op) := permuted.filter _
  have once := length_accepting_le_one apart_rows op
  generalize accepting table op = found at same once
  obtain _ | ⟨row, _ | ⟨other, rest⟩⟩ := found
  · exact same.eq_nil
  · exact List.perm_singleton.mp same
  · simp at once

end Form

namespace Opcode

/-- The instruction of the first row that accepts a number. -/
def decodeBy (rows : List (Pattern × Form)) (op : Opcode) : Instruction :=
  (Form.lookup rows op).instruction op

theorem form_eq_unknown_iff (op : Opcode) :
    op.form = .unknown ↔ ∀ row ∈ Form.table, ¬ row.1.accepts op = true := by
  have named : ∀ row ∈ Form.table, row.2 ≠ .unknown := by decide
  constructor
  · exact Form.rejects_of_lookup named
  · intro rejected
    apply Classical.byContradiction
    intro known
    obtain ⟨row, member, _, accepted⟩ := Form.accepts_of_lookup known
    exact rejected row member accepted

/-- At most one row accepts a natural number, of 16 bits or more. So the table may be searched in
any order, and a number is unknown exactly if no row accepts it. -/
theorem decode_in_any_order (op : Nat) :
    (Form.accepting Form.table op).length ≤ 1 ∧
      (∀ rows : List (Pattern × Form), rows.Perm Form.table → decodeBy rows op = decode op) ∧
      ((decode op).form = .unknown ↔ ∀ row ∈ Form.table, ¬ row.1.accepts op = true) := by
  refine ⟨Form.length_accepting_le_one Form.apart_rows op, ?_, ?_⟩
  · intro rows permuted
    rw [decodeBy, Form.lookup_eq, Form.accepting_of_perm permuted, ← Form.lookup_eq]
    rfl
  · rw [form_decode]
    exact form_eq_unknown_iff op

/-- A number of 21 bits, whose low 16 bits clear the display, in the table from its end. -/
theorem decode_in_any_order_reversed :
    Form.table.reverse.Perm Form.table ∧
      (Form.accepting Form.table (0x1200E0 : Nat)).length ≤ 1 ∧
      decodeBy Form.table.reverse (0x1200E0 : Nat) = .cls ∧
      ¬ ∀ row ∈ Form.table, ¬ row.1.accepts (0x1200E0 : Nat) = true := by
  have clears : decode (0x1200E0 : Nat) = .cls := by decide
  have reversed := List.reverse_perm Form.table
  obtain ⟨once, orders, unknown⟩ := decode_in_any_order 0x1200E0
  refine ⟨reversed, once, (orders _ reversed).trans clears, ?_⟩
  rw [← unknown, clears]
  decide

-- A negative number lies below 0x1000, and its digits may be those of another row.
example : Form.lookup Form.table (-0xF9) = .sys ∧
    Form.lookup Form.table.reverse (-0xF9) = .readDelay := by decide

/-- The low 16 bits of a number. -/
def low (op : Nat) : Opcode :=
  ((op % 0x10000 : Nat) : Int)

theorem fields_low (op : Nat) :
    (low op).x = x op ∧ (low op).y = y op ∧ (low op).n = n op ∧ (low op).kk = kk op ∧
      (low op).nnn = nnn op := by
  simp only [Fin.ext_iff, low, val_x, val_y, val_n, val_kk, val_nnn]
  omega

theorem accepts_low (op : Nat) {p : Pattern} (other : p ≠ .machineCall) :
    p.accepts (low op) = p.accepts op := by
  apply Bool.eq_iff_iff.mpr
  cases p with
  | machineCall => contradiction
  | whole | group | groupLast | groupByte =>
    simp only [low, Pattern.accepts_whole, Pattern.accepts_group, Pattern.accepts_groupLast,
      Pattern.accepts_groupByte]
    omega

theorem instruction_low (op : Nat) {form : Form} (known : form ≠ .unknown) :
    form.instruction (low op) = form.instruction op := by
  obtain ⟨x, y, n, kk, nnn⟩ := fields_low op
  cases form <;> simp only [Form.instruction, x, y, n, kk, nnn]
  contradiction

theorem accepting_of_wide {op : Nat} (wide : 0x10000 ≤ op) :
    Form.accepting Form.table op =
      (Form.accepting Form.table (low op)).filter fun row => row.1 ≠ .machineCall := by
  rw [Form.accepting, Form.accepting, List.filter_filter]
  apply List.filter_congr
  intro row _
  by_cases call : row.1 = .machineCall
  · have beyond : ¬ (op : Int) < 0x1000 := by omega
    simp [call, Pattern.accepts, beyond]
  · simp [call, accepts_low op call]

/-- The form is that of the low 16 bits, unless they are a call of machine code and a higher bit is
set. -/
theorem form_eq_low (op : Nat) :
    form op = if 0x10000 ≤ op ∧ (low op).form = .sys then .unknown else (low op).form := by
  by_cases wide : 0x10000 ≤ op
  · have calls : ∀ row ∈ Form.table, row.1 = .machineCall ↔ row.2 = .sys := by decide
    have once : (Form.accepting Form.table (low op)).length ≤ 1 :=
      Form.length_accepting_le_one Form.apart_rows (op % 0x10000)
    have listed : ∀ row ∈ Form.accepting Form.table (low op), row ∈ Form.table := by
      intro row member
      exact List.mem_of_mem_filter member
    rw [form, form, Form.lookup_eq, Form.lookup_eq, accepting_of_wide wide]
    generalize Form.accepting Form.table (low op) = found at once listed
    obtain _ | ⟨row, _ | ⟨other, rest⟩⟩ := found
    · simp
    · have call := calls row (listed row List.mem_cons_self)
      by_cases named : row.2 = .sys <;> simp [wide, call, named]
    · simp at once
  · have same : low op = op := congrArg Nat.cast (Nat.mod_eq_of_lt (by omega))
    simp [wide, same]

end Opcode

/-- The low 16 bits of a number decide what it does to a machine: the same comes of it with the same
fault, if there is one, although a call of machine code is unknown when a higher bit is set. -/
theorem Machine.low_word_decides (op : Nat) :
    (∀ m : Machine, m.perform op = m.perform (Opcode.low op)) ∧
      Opcode.form op =
        if 0x10000 ≤ op ∧ (Opcode.low op).form = .sys then .unknown else (Opcode.low op).form := by
  refine ⟨?_, Opcode.form_eq_low op⟩
  intro m
  rw [perform, perform, Opcode.decode, Opcode.decode, Opcode.form_eq_low]
  split
  next call =>
    rw [call.2]
    rfl
  · by_cases unknown : (Opcode.low op).form = .unknown
    · rw [unknown]
      rfl
    · rw [Opcode.instruction_low op unknown]

example : Opcode.form (0x10123 : Nat) = .unknown ∧ Opcode.form (0x0123 : Nat) = .sys := by decide

end Chip8
