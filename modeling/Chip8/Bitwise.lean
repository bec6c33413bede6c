/-!
Bitwise operations on integers of any size. A negative number is read as a two's complement number
without end: `-1` has every bit set, and `-(n + 1)` is the complement of `n`.
-/

namespace Chip8.Bitwise

def without (m n : Nat) : Nat :=
  m ^^^ (m &&& n)

def both : Int → Int → Int
  | .ofNat m, .ofNat n => .ofNat (m &&& n)
  | .ofNat m, .negSucc n => .ofNat (without m n)
  | .negSucc m, .ofNat n => .ofNat (without n m)
  | .negSucc m, .negSucc n => .negSucc (m ||| n)

def either : Int → Int → Int
  | .ofNat m, .ofNat n => .ofNat (m ||| n)
  | .ofNat m, .negSucc n => .negSucc (without n m)
  | .negSucc m, .ofNat n => .negSucc (without m n)
  | .negSucc m, .negSucc n => .negSucc (m &&& n)

def differ : Int → Int → Int
  | .ofNat m, .ofNat n => .ofNat (m ^^^ n)
  | .ofNat m, .negSucc n => .negSucc (m ^^^ n)
  | .negSucc m, .ofNat n => .negSucc (m ^^^ n)
  | .negSucc m, .negSucc n => .ofNat (m ^^^ n)

@[simp] theorem both_natCast (m n : Nat) : both m n = (m &&& n : Nat) := rfl

@[simp] theorem either_natCast (m n : Nat) : either m n = (m ||| n : Nat) := rfl

@[simp] theorem differ_natCast (m n : Nat) : differ m n = (m ^^^ n : Nat) := rfl

example : both (-1) 0x5A = 0x5A ∧ either (-256) 0x5A = -166 ∧ differ (-1) 0x0F = -16 := by decide

end Chip8.Bitwise
