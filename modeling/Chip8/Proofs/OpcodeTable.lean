import Chip8.Random

/-! The opcode table. Registers and cells are bytes and the index register is a word of 16 bits, so
that their arithmetic is that of their widths. Addresses are plain numbers: nothing in the table
brings the program counter round. The four hexadecimal digits of a word select its row; the table
leaves drawing to a description of its own. -/

namespace Chip8.OpcodeTable

/-- What the rows read and change. Registers, stack entries, keys, pixels and cells are found by
their numbers. -/
structure State where
  v : Nat → UInt8
  i : UInt16
  pc : Nat
  sp : Nat
  stack : Nat → Nat
  dt : UInt8
  st : UInt8
  keys : Nat → Bool
  pixels : Nat → Bool
  redraw : Bool
  random : Generator
  memory : Nat → UInt8

namespace State

def advance (s : State) : State :=
  { s with pc := s.pc + 2 }

def skipIf (s : State) (condition : Bool) : State :=
  { s with pc := if condition then s.pc + 4 else s.pc + 2 }

def setV (s : State) (x : Nat) (b : UInt8) : State :=
  { s.advance with v := fun k => if k = x then b else s.v k }

def setFlagged (s : State) (x : Nat) (result : UInt8) (flag : Bool) : State :=
  { s.advance with
    v := fun k => if k = 0xF then (if flag then 1 else 0) else if k = x then result else s.v k }

/-- Bytes in the `count` cells from I on. -/
def store (s : State) (count : Nat) (bytes : Nat → UInt8) : State :=
  { s.advance with
    memory := fun a =>
      if s.i.toNat ≤ a ∧ a < s.i.toNat + count then bytes (a - s.i.toNat) else s.memory a }

def leastHeldKey? (s : State) : Option Nat :=
  (List.range 16).find? s.keys

/-- The row of the digits `a`, `x`, `y` and `n`. A word that fits no other row, such as a call of
machine code, is passed over. -/
def row (s : State) (a x y n : Nat) : State :=
  let kk := UInt8.ofNat (16 * y + n)
  let nnn := 256 * x + 16 * y + n
  match a, x, y, n with
  | 0x0, 0x0, 0xE, 0x0 => { s.advance with pixels := fun _ => false, redraw := true }
  | 0x0, 0x0, 0xE, 0xE => { s with sp := s.sp - 1, pc := s.stack (s.sp - 1) + 2 }
  | 0x1, _, _, _ => { s with pc := nnn }
  | 0x2, _, _, _ =>
    { s with stack := fun k => if k = s.sp then s.pc else s.stack k, sp := s.sp + 1, pc := nnn }
  | 0x3, x, _, _ => s.skipIf (s.v x = kk)
  | 0x4, x, _, _ => s.skipIf (s.v x ≠ kk)
  | 0x5, x, y, 0x0 => s.skipIf (s.v x = s.v y)
  | 0x6, x, _, _ => s.setV x kk
  | 0x7, x, _, _ => s.setV x (s.v x + kk)
  | 0x8, x, y, 0x0 => s.setV x (s.v y)
  | 0x8, x, y, 0x1 => s.setV x (s.v x ||| s.v y)
  | 0x8, x, y, 0x2 => s.setV x (s.v x &&& s.v y)
  | 0x8, x, y, 0x3 => s.setV x (s.v x ^^^ s.v y)
  | 0x8, x, y, 0x4 => s.setFlagged x (s.v x + s.v y) (256 ≤ (s.v x).toNat + (s.v y).toNat)
  | 0x8, x, y, 0x5 => s.setFlagged x (s.v x - s.v y) (¬ s.v x < s.v y)
  | 0x8, x, _, 0x6 => s.setFlagged x (s.v x >>> 1) (s.v x &&& 1 ≠ 0)
  | 0x8, x, y, 0x7 => s.setFlagged x (s.v y - s.v x) (¬ s.v y < s.v x)
  | 0x8, x, _, 0xE => s.setFlagged x (s.v x <<< 1) (s.v x &&& 0x80 ≠ 0)
  | 0x9, x, y, 0x0 => s.skipIf (s.v x ≠ s.v y)
  | 0xA, _, _, _ => { s.advance with i := UInt16.ofNat nnn }
  | 0xB, _, _, _ => { s with pc := (s.v 0).toNat + nnn }
  | 0xC, x, _, _ => { s.setV x (s.random.byte.1 &&& kk) with random := s.random.byte.2 }
  | 0xE, x, 0x9, 0xE => s.skipIf (s.keys (s.v x).toNat)
  | 0xE, x, 0xA, 0x1 => s.skipIf (!s.keys (s.v x).toNat)
  | 0xF, x, 0x0, 0x7 => s.setV x s.dt
  | 0xF, x, 0x0, 0xA =>
    match s.leastHeldKey? with
    | some key => s.setV x (UInt8.ofNat key)
    | none => s
  | 0xF, x, 0x1, 0x5 => { s.advance with dt := s.v x }
  | 0xF, x, 0x1, 0x8 => { s.advance with st := s.v x }
  | 0xF, x, 0x1, 0xE => { s.advance with i := s.i + (s.v x).toUInt16 }
  | 0xF, x, 0x2, 0x9 => { s.advance with i := (s.v x).toUInt16 * 5 }
  | 0xF, x, 0x3, 0x3 =>
    s.store 3 fun k => if k = 0 then s.v x / 100 else if k = 1 then s.v x / 10 % 10 else s.v x % 10
  | 0xF, x, 0x5, 0x5 => s.store (x + 1) s.v
  | 0xF, x, 0x6, 0x5 =>
    { s.advance with v := fun k => if k ≤ x then s.memory (s.i.toNat + k) else s.v k }
  | _, _, _, _ => s.advance

def word (s : State) : Nat :=
  256 * (s.memory s.pc).toNat + (s.memory (s.pc + 1)).toNat

/-- The state that follows, unless the word at the program counter draws. -/
def next? (s : State) : Option State :=
  let a := s.word / 0x1000
  if a = 0xD then none
  else some (s.row a (s.word / 0x100 % 16) (s.word / 0x10 % 16) (s.word % 16))

end State

end Chip8.OpcodeTable
