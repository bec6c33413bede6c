import Chip8.Decimal.Shortest

/-!
Floating-point numbers as text and as exact integers. A number is written with its shortest digits:
positionally from 0.0001 up to 16 places before the point, with a point and a digit behind it, and
otherwise with an exponent of at least two digits.
-/

namespace Chip8.Decimal

inductive Parts where
  | nan
  | infinite (negative : Bool)
  | zero (negative : Bool)
  | finite (negative : Bool) (size : Binary)
deriving DecidableEq, Repr

def Parts.ofFloat (x : Float) : Parts :=
  let bits := x.toBits.toNat
  let negative := bits / Nat.pow 2 63 = 1
  let exponent : Nat := bits / Nat.pow 2 52 % 2048
  let low := bits % Nat.pow 2 52
  if exponent = 2047 then (if low = 0 then .infinite negative else .nan)
  else if exponent = 0 then
    if low = 0 then .zero negative else .finite negative ⟨low, -1074, false⟩
  else .finite negative ⟨low + Nat.pow 2 52, (exponent : Int) - 1075, low = 0 && exponent ≠ 1⟩

def digitText (digits : List Nat) : String :=
  String.ofList (digits.map fun d => Char.ofNat (48 + d))

def zeros (n : Nat) : String :=
  String.ofList (List.replicate n '0')

def Digits.positional (d : Digits) : String :=
  if d.point ≤ 0 then "0." ++ zeros (-d.point).toNat ++ digitText d.digits
  else
    let point := d.point.toNat
    if d.digits.length ≤ point then digitText d.digits ++ zeros (point - d.digits.length) ++ ".0"
    else digitText (d.digits.take point) ++ "." ++ digitText (d.digits.drop point)

def Digits.scientific (d : Digits) : String :=
  let e := d.point - 1
  let size := toString e.natAbs
  let rest := d.digits.drop 1
  digitText (d.digits.take 1) ++ (if rest.isEmpty then "" else "." ++ digitText rest) ++ "e"
    ++ (if e < 0 then "-" else "+") ++ (if size.length < 2 then "0" ++ size else size)

/-- The text of digits: positional while the exponent is from -4 to 15. -/
def Digits.text (d : Digits) : String :=
  if -3 ≤ d.point ∧ d.point ≤ 16 then d.positional else d.scientific

def floatText (x : Float) : String :=
  let sign (negative : Bool) := if negative then "-" else ""
  match Parts.ofFloat x with
  | .nan => "nan"
  | .infinite negative => sign negative ++ "inf"
  | .zero negative => sign negative ++ "0.0"
  | .finite negative size => sign negative ++ size.shortest.text

def dyadic? (x : Float) : Option (Int × Int) :=
  let signed (negative : Bool) (m : Nat) : Int := if negative then -m else m
  match Parts.ofFloat x with
  | .nan | .infinite _ => none
  | .zero _ => some (0, 0)
  | .finite negative size => some (signed negative size.mantissa, size.exponent)

end Chip8.Decimal
