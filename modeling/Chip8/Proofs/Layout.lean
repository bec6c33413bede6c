import Mathlib.Data.List.Nodup
import Chip8.Proofs.Decoding

/-! Which bits of a word an instruction stands for. The pattern of a row and the fields that its
instruction reads make up the whole word, except in a shift, which leaves its third digit open. -/

namespace Chip8

/-- The fields that instructions read of a word. -/
inductive Layout where
  | bare
  | register
  | registers
  | registerByte
  | sprite
  | target
  | whole
deriving DecidableEq

namespace Layout

def SameFields (a b : Opcode) : Layout → Prop
  | bare => True
  | register => a.x = b.x
  | registers => a.x = b.x ∧ a.y = b.y
  | registerByte => a.x = b.x ∧ a.kk = b.kk
  | sprite => a.x = b.x ∧ a.y = b.y ∧ a.n = b.n
  | target => a.nnn = b.nnn
  | whole => a = b

end Layout

namespace Opcode

variable (a : Nat)

theorem val_x : (x (a : Int)).val = a / 256 % 16 := by
  simp only [x]
  omega

theorem val_y : (y (a : Int)).val = a / 16 % 16 := by
  simp only [y]
  omega

theorem val_n : (n (a : Int)).val = a % 16 := by
  simp only [n]
  omega

theorem val_kk : (kk (a : Int)).val = a % 256 := by
  simp only [kk]
  omega

theorem val_nnn : (nnn (a : Int)).val = a % 4096 := by
  simp only [nnn]
  omega

end Opcode

namespace Form

def layout : Form → Layout
  | cls | ret => .bare
  | sys | jump | call | setIndex | jumpOffset => .target
  | skipEqualByte | skipUnequalByte | setByte | addByte | random => .registerByte
  | skipEqual | copy | or | and | xor | add | sub | subReverse | skipUnequal => .registers
  | shiftRight | shiftLeft | skipPressed | skipReleased | readDelay | waitKey | setDelay | setSound
  | addIndex | glyph | decimal | store | load => .register
  | draw => .sprite
  | unknown => .whole

theorem sameFields_of_instruction {form : Form} {a b : Opcode}
    (same : form.instruction a = form.instruction b) : form.layout.SameFields a b := by
  cases form with
  | cls | ret => trivial
  | sys | jump | call | setIndex | jumpOffset =>
    injection same with target
  | skipEqualByte | skipUnequalByte | setByte | addByte | random =>
    injection same with x byte
    exact ⟨x, byte⟩
  | skipEqual | copy | or | and | xor | add | sub | subReverse | skipUnequal =>
    injection same with x y
    exact ⟨x, y⟩
  | shiftRight | shiftLeft | skipPressed | skipReleased | readDelay | waitKey | setDelay | setSound
  | addIndex | glyph | decimal | store | load =>
    injection same with x
  | draw =>
    injection same with x y height
    exact ⟨x, y, height⟩
  | unknown =>
    injection same with opcode

end Form

namespace Pattern

/-- The pattern and the fields make up the whole word. -/
def completes : Pattern → Layout → Bool
  | machineCall, .target | whole _, .bare | group _, .target | group _, .registerByte
  | group _, .sprite | groupLast _ _, .registers | groupByte _ _, .register => true
  | _, _ => false

variable {p : Pattern} {layout : Layout} {a b : Nat}

theorem mod_eq_of_completes (complete : p.completes layout = true)
    (one : p.accepts (a : Int) = true) (two : p.accepts (b : Int) = true)
    (same : layout.SameFields (a : Int) (b : Int)) : a % 0x10000 = b % 0x10000 := by
  -- Seven pairs are left, one for each way of writing a row.
  cases p <;> cases layout <;> simp only [completes, Bool.false_eq_true] at complete
  all_goals
    simp only [Layout.SameFields, Fin.ext_iff, Opcode.val_x, Opcode.val_y, Opcode.val_n,
      Opcode.val_kk, Opcode.val_nnn] at same
    simp only [accepts_machineCall, accepts_whole, accepts_group, accepts_groupLast,
      accepts_groupByte] at one two
    omega

theorem agree_of_groupLast {digit last : Nat}
    (one : (groupLast digit last).accepts (a : Int) = true)
    (two : (groupLast digit last).accepts (b : Int) = true)
    (same : Layout.register.SameFields (a : Int) (b : Int)) :
    a % 16 = b % 16 ∧ a / 256 % 256 = b / 256 % 256 := by
  simp only [Layout.SameFields, Fin.ext_iff, Opcode.val_x] at same
  rw [accepts_groupLast] at one two
  have high (word : Nat) : word / 256 % 256 = word / 0x1000 % 16 * 16 + word / 256 % 16 := by omega
  rw [high, high]
  omega

end Pattern

namespace Form

/-- The rows whose pattern and fields leave the third digit open. -/
def shifts : List (Pattern × Form) :=
  [(.groupLast 0x8 0x6, shiftRight), (.groupLast 0x8 0xE, shiftLeft)]

theorem completes_of_row :
    ∀ row ∈ table, row.1.completes row.2.layout = true ∨ row ∈ shifts := by
  decide

theorem nodup_forms : (table.map Prod.snd).Nodup := by
  decide

end Form

namespace Opcode

/-- The low 16 bits of two words agree, or the words are shifts, and they agree but for the third
digit. -/
def Agree (a b : Nat) : Prop :=
  a % 0x10000 = b % 0x10000 ∨
    (form a = .shiftRight ∨ form a = .shiftLeft) ∧ a % 16 = b % 16 ∧ a / 256 % 256 = b / 256 % 256

theorem agree_of_decode {a b : Nat} (same : decode (a : Int) = decode (b : Int)) :
    form (a : Int) = form (b : Int) ∧ Agree a b := by
  have forms : form (a : Int) = form (b : Int) := by
    rw [← form_decode, same, form_decode]
  refine ⟨forms, ?_⟩
  have instructions : (form (a : Int)).instruction a = (form (a : Int)).instruction b := by
    rw [decode, decode, ← forms] at same
    exact same
  by_cases unknown : form (a : Int) = .unknown
  · rw [unknown] at instructions
    injection instructions with equal
    have equal : (a : Int) = b := equal
    left
    omega
  · obtain ⟨row, member, named, one⟩ := Form.accepts_of_lookup unknown
    obtain ⟨row', member', named', two⟩ := Form.accepts_of_lookup (forms ▸ unknown)
    obtain rfl : row = row' := List.inj_on_of_nodup_map Form.nodup_forms member member'
      (named.trans (forms.trans named'.symm))
    have shape : form (a : Int) = row.2 := named.symm
    rw [shape] at instructions
    have fields := Form.sameFields_of_instruction instructions
    obtain complete | shifts := Form.completes_of_row row member
    · exact .inl (Pattern.mod_eq_of_completes complete one two fields)
    · right
      rw [shape]
      simp only [Form.shifts, List.mem_cons, List.not_mem_nil, or_false] at shifts
      obtain rfl | rfl := shifts
      · exact ⟨.inl rfl, Pattern.agree_of_groupLast one two fields⟩
      · exact ⟨.inr rfl, Pattern.agree_of_groupLast one two fields⟩

end Opcode

end Chip8
