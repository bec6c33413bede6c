import Chip8.Instruction.Basic

/-!
Decoding. The instruction table lists patterns with their forms; the first pattern that accepts a
word gives its form, and a word that none accepts is unknown. Every pattern but the first looks at
the low 16 bits only.
-/

namespace Chip8

inductive Pattern where
  /-- The words below 0x1000 whose third digit is not E. Negative words lie below too. -/
  | machineCall
  | whole (word : Nat)
  | group (digit : Nat)
  | groupLast (digit last : Nat)
  | groupByte (digit byte : Nat)
deriving DecidableEq, Repr

namespace Pattern

def accepts (op : Opcode) : Pattern → Bool
  | machineCall => op < 0x1000 && op.y.val ≠ 0xE
  | whole word => op % 0x10000 = word
  | group digit => op / 0x1000 % 16 = digit
  | groupLast digit last => op / 0x1000 % 16 = digit && op % 16 = last
  | groupByte digit byte => op / 0x1000 % 16 = digit && op % 256 = byte

end Pattern

namespace Form

/-- The instruction table, in the order in which it is searched. -/
def table : List (Pattern × Form) :=
  [(.machineCall, sys),
   (.whole 0x00E0, cls),
   (.whole 0x00EE, ret),
   (.group 0x1, jump),
   (.group 0x2, call),
   (.group 0x3, skipEqualByte),
   (.group 0x4, skipUnequalByte),
   (.groupLast 0x5 0x0, skipEqual),
   (.group 0x6, setByte),
   (.group 0x7, addByte),
   (.groupLast 0x8 0x0, copy),
   (.groupLast 0x8 0x1, or),
   (.groupLast 0x8 0x2, and),
   (.groupLast 0x8 0x3, xor),
   (.groupLast 0x8 0x4, add),
   (.groupLast 0x8 0x5, sub),
   (.groupLast 0x8 0x6, shiftRight),
   (.groupLast 0x8 0x7, subReverse),
   (.groupLast 0x8 0xE, shiftLeft),
   (.groupLast 0x9 0x0, skipUnequal),
   (.group 0xA, setIndex),
   (.group 0xB, jumpOffset),
   (.group 0xC, random),
   (.group 0xD, draw),
   (.groupByte 0xE 0x9E, skipPressed),
   (.groupByte 0xE 0xA1, skipReleased),
   (.groupByte 0xF 0x07, readDelay),
   (.groupByte 0xF 0x0A, waitKey),
   (.groupByte 0xF 0x15, setDelay),
   (.groupByte 0xF 0x18, setSound),
   (.groupByte 0xF 0x1E, addIndex),
   (.groupByte 0xF 0x29, glyph),
   (.groupByte 0xF 0x33, decimal),
   (.groupByte 0xF 0x55, store),
   (.groupByte 0xF 0x65, load)]

def lookup (rows : List (Pattern × Form)) (op : Opcode) : Form :=
  match rows.find? (fun row => row.1.accepts op) with
  | some row => row.2
  | none => unknown

def instruction (op : Opcode) : Form → Instruction
  | sys => .sys op.nnn
  | cls => .cls
  | ret => .ret
  | jump => .jump op.nnn
  | call => .call op.nnn
  | skipEqualByte => .skipEqualByte op.x op.kk
  | skipUnequalByte => .skipUnequalByte op.x op.kk
  | skipEqual => .skipEqual op.x op.y
  | setByte => .setByte op.x op.kk
  | addByte => .addByte op.x op.kk
  | copy => .copy op.x op.y
  | or => .or op.x op.y
  | and => .and op.x op.y
  | xor => .xor op.x op.y
  | add => .add op.x op.y
  | sub => .sub op.x op.y
  | shiftRight => .shiftRight op.x
  | subReverse => .subReverse op.x op.y
  | shiftLeft => .shiftLeft op.x
  | skipUnequal => .skipUnequal op.x op.y
  | setIndex => .setIndex op.nnn
  | jumpOffset => .jumpOffset op.nnn
  | random => .random op.x op.kk
  | draw => .draw op.x op.y op.n
  | skipPressed => .skipPressed op.x
  | skipReleased => .skipReleased op.x
  | readDelay => .readDelay op.x
  | waitKey => .waitKey op.x
  | setDelay => .setDelay op.x
  | setSound => .setSound op.x
  | addIndex => .addIndex op.x
  | glyph => .glyph op.x
  | decimal => .decimal op.x
  | store => .store op.x
  | load => .load op.x
  | unknown => .unknown op

@[simp] theorem form_instruction (op : Opcode) (form : Form) : (form.instruction op).form = form := by
  cases form <;> rfl

end Form

namespace Opcode

def form (op : Opcode) : Form :=
  Form.lookup Form.table op

def decode (op : Opcode) : Instruction :=
  op.form.instruction op

theorem form_decode (op : Opcode) : op.decode.form = op.form :=
  Form.form_instruction op op.form

example : Opcode.decode 0x8124 = .add 1 2 := by decide

example : Opcode.decode 0x100E0 = .cls := by decide

example : Opcode.decode (-1) = .sys 0xFFF := by decide

end Opcode

end Chip8
