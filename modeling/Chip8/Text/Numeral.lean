import Chip8.Text.Basic
import Chip8.Text.Blank
import Chip8.Text.DecimalDigit

/-!
Numerals: integers written by people. A decimal numeral may have a sign, white space around it and
digits of any script; a hexadecimal one starts with `0x` and has no sign. Single underscores may
stand between digits. A decimal numeral has at most 4300 digits, leading zeros included.
-/

namespace Chip8.Text.Numeral

def maxDecimalDigits : Nat := 4300

/-- The value of a hexadecimal digit; digits of other scripts count as decimal ones. -/
def hexDigit? (c : Char) : Option Nat :=
  match decimalDigit? c with
  | some d => some d
  | none =>
    if 'a' ≤ c ∧ c ≤ 'f' then some (c.toNat - 'a'.toNat + 10)
    else if 'A' ≤ c ∧ c ≤ 'F' then some (c.toNat - 'A'.toNat + 10)
    else none

/-- The digits of a run that has at least one, with single underscores between them. -/
def digits? (digit? : Char → Option Nat) : List Char → Option (List Nat)
  | [] => none
  | [c] => (digit? c).map ([·])
  | c :: '_' :: rest => do
    let d ← digit? c
    let ds ← digits? digit? rest
    some (d :: ds)
  | c :: rest => do
    let d ← digit? c
    let ds ← digits? digit? rest
    some (d :: ds)

def value (base : Nat) (digits : List Nat) : Nat :=
  digits.foldl (fun n d => n * base + d) 0

def natural? (cs : List Char) : Option Nat := do
  let ds ← digits? decimalDigit? cs
  if ds.length ≤ maxDecimalDigits then some (value 10 ds) else none

def decimal? (cs : List Char) : Option Int :=
  match trim cs with
  | '+' :: rest => (natural? rest).map (Int.ofNat ·)
  | '-' :: rest => (natural? rest).map (-Int.ofNat ·)
  | rest => (natural? rest).map (Int.ofNat ·)

/-- The number that the text behind `0x` writes; one underscore may stand before the digits. -/
def hexadecimal? (cs : List Char) : Option Nat :=
  let run := match trimEnd cs with
    | '_' :: rest => rest
    | rest => rest
  (digits? hexDigit? run).map (value 16)

/-- The number that a numeral of either kind writes. The mark of a hexadecimal numeral has to come
first, before white space and signs. -/
def numeral? : List Char → Option Int
  | '0' :: 'x' :: rest | '0' :: 'X' :: rest => (hexadecimal? rest).map (Int.ofNat ·)
  | cs => decimal? cs

def integer? (t : Text) : Option Int :=
  t.chars?.bind numeral?

example : integer? " -1_000 " = some (-1000) := by decide

example : integer? "0X_1f " = some 31 := by decide

example : integer? "+0x5" = none ∧ integer? "1__0" = none ∧ integer? "0x" = none := by decide

end Chip8.Text.Numeral
