/-!
Hexadecimal text of integers, without a bound on their size. A minus sign and the `0x` mark count
inside the stated width, and zeros fill what is left between them and the digits.
-/

namespace Chip8.Text.Hex

/-- The hexadecimal digits of a natural number, most significant first; zero has one digit. -/
def digits (n : Nat) : List Nat :=
  if n < 16 then [n] else digits (n / 16) ++ [n % 16]

def upperDigit (d : Nat) : Char :=
  if d < 10 then Char.ofNat (48 + d) else Char.ofNat (55 + d)

def lowerDigit (d : Nat) : Char :=
  if d < 10 then Char.ofNat (48 + d) else Char.ofNat (87 + d)

def sign (n : Int) : List Char :=
  if n < 0 then ['-'] else []

/-- The text of `n` between its sign and `mark`, filled with zeros up to `width` characters. -/
def padded (mark : List Char) (digit : Nat → Char) (width : Nat) (n : Int) : String :=
  let head := sign n ++ mark
  let body := (digits n.natAbs).map digit
  String.ofList (head ++ List.replicate (width - head.length - body.length) '0' ++ body)

def upper (width : Nat) (n : Int) : String :=
  padded [] upperDigit width n

/-- Small digits after `0x`, at least `width` characters with the mark. -/
def marked (width : Nat) (n : Int) : String :=
  padded ['0', 'x'] lowerDigit width n

example : upper 4 0x8124 = "8124" := by cbv

example : upper 4 (-1) = "-001" := by cbv

example : marked 6 0x200 = "0x0200" := by cbv

example : marked 6 (-1) = "-0x001" := by cbv

end Chip8.Text.Hex
