/-!
The shortest decimal of a binary fraction. Among the decimals that round to the given number, one
with the fewest digits is taken, and of several the nearest; a tie goes to the even digit. All
comparisons are exact, on natural numbers.
-/

namespace Chip8.Decimal

/-- A positive number `mantissa * 2 ^ exponent`, the unit in its last place being `2 ^ exponent`.
At a power of two the gap to the number below is half as wide. -/
structure Binary where
  mantissa : Nat
  exponent : Int
  narrowBelow : Bool
deriving DecidableEq, Repr

/-- The decimal digits of a number, most significant first, and the place of the point: the number
is `0.d₁d₂… * 10 ^ point`. -/
structure Digits where
  digits : List Nat
  point : Int
deriving DecidableEq, Repr

def length (n : Nat) : Nat :=
  if n < 10 then 1 else length (n / 10) + 1

def digitsOf (n : Nat) : List Nat :=
  if n < 10 then [n] else digitsOf (n / 10) ++ [n % 10]

namespace Binary

/-- The number as a fraction of natural numbers, in quarters of its last place: numerator,
denominator, and the numerator of a quarter. -/
def fraction (b : Binary) : Nat × Nat × Nat :=
  if 2 ≤ b.exponent then
    let unit := Nat.pow 2 (b.exponent - 2).toNat
    (4 * b.mantissa * unit, 1, unit)
  else (4 * b.mantissa, Nat.pow 2 (2 - b.exponent).toNat, 1)

/-- The place of the decimal point: the number lies between `10 ^ (point - 1)`, included, and
`10 ^ point`. -/
def point (num den : Nat) : Int :=
  if den ≤ num then length (num / den) else -((length ((den - 1) / num) : Int) - 1)

/-- Whether the decimal `c * 10 ^ place` lies among the numbers that round to `b`. The ends belong
to them when the mantissa is even. -/
def admits (b : Binary) (c : Nat) (place : Int) : Bool :=
  let (num, den, quarter) := b.fraction
  let scaled := if 0 ≤ place then c * Nat.pow 10 place.toNat * den else c * den
  let factor := if 0 ≤ place then 1 else Nat.pow 10 (-place).toNat
  let low := (num - (if b.narrowBelow then quarter else 2 * quarter)) * factor
  let high := (num + 2 * quarter) * factor
  if b.mantissa % 2 = 0 then low ≤ scaled && scaled ≤ high else low < scaled && scaled < high

def withDigits? (b : Binary) (k : Nat) : Option (Nat × Int) :=
  let (num, den, _) := b.fraction
  let place := point num den - k
  let top := if 0 ≤ place then num else num * Nat.pow 10 (-place).toNat
  let unit := if 0 ≤ place then den * Nat.pow 10 place.toNat else den
  let c := top / unit
  let below := b.admits c place && 0 < c
  let above := b.admits (c + 1) place
  if below && above then
    let rest := 2 * (top % unit)
    if rest < unit || (rest = unit && c % 2 = 0) then some (c, place) else some (c + 1, place)
  else if below then some (c, place)
  else if above then some (c + 1, place)
  else none

def search (b : Binary) (k : Nat) : Nat → Nat × Int
  | 0 => (0, 0)
  | tries + 1 =>
    match b.withDigits? k with
    | some found => found
    | none => b.search (k + 1) tries

/-- The shortest decimal of a number. Seventeen digits are always enough for 53 bits. -/
def shortest (b : Binary) : Digits :=
  let (c, place) := b.search 1 17
  let digits := digitsOf c
  { digits := (digits.reverse.dropWhile (· = 0)).reverse, point := place + digits.length }

end Binary

end Chip8.Decimal
