import Chip8.Document.Basic
import Chip8.Yaml.Error

/-!
What plain scalars stand for, by the rules of YAML 1.1: no value, truth values, integers in four
bases and in base sixty, floating-point numbers, and otherwise their text. Only ASCII digits count.
-/

namespace Chip8.Yaml

namespace Scalar

def nullWords : List String := ["", "~", "null", "Null", "NULL"]

def trueWords : List String := ["yes", "Yes", "YES", "true", "True", "TRUE", "on", "On", "ON"]

def falseWords : List String := ["no", "No", "NO", "false", "False", "FALSE", "off", "Off", "OFF"]

def splitSign : List Char → Bool × List Char
  | '-' :: rest => (true, rest)
  | '+' :: rest => (false, rest)
  | rest => (false, rest)

def splitAt (sep : Char) : List Char → List (List Char)
  | [] => [[]]
  | c :: rest =>
    match splitAt sep rest with
    | [] => [[c]]
    | first :: more => if c = sep then [] :: first :: more else (c :: first) :: more

def digitValue (c : Char) : Nat :=
  if c.isDigit then c.toNat - '0'.toNat
  else if 'a' ≤ c ∧ c ≤ 'f' then c.toNat - 'a'.toNat + 10
  else c.toNat - 'A'.toNat + 10

def digits (cs : List Char) : List Nat :=
  (cs.filter (· ≠ '_')).map digitValue

def isRun (isDigit : Char → Bool) (cs : List Char) : Bool :=
  !cs.isEmpty && cs.all fun c => isDigit c || c = '_'

def isNumber (cs : List Char) : Bool :=
  isRun Char.isDigit cs && cs.head?.any Char.isDigit

/-- Whether a part of a number in base sixty is below sixty: a digit, or two of which the first is
below six. -/
def isSixtieth : List Char → Bool
  | [c] => c.isDigit
  | [c, d] => '0' ≤ c && c ≤ '5' && d.isDigit
  | _ => false

def powerBase (base : Nat) (cs : List Char) : Except LoadError Nat :=
  let ds := digits cs
  if ds.isEmpty then .error (.noDigits base) else .ok (Text.Numeral.value base ds)

def decimalBase (cs : List Char) : Except LoadError Nat :=
  let ds := digits cs
  if ds.length ≤ Text.Numeral.maxDecimalDigits then .ok (Text.Numeral.value 10 ds)
  else .error (.tooManyDigits ds.length)

def sixtyBase (parts : List (List Char)) : Except LoadError Nat :=
  parts.foldlM (fun n part => (decimalBase part).map (n * 60 + ·)) 0

def integer? (cs : List Char) : Option (Except LoadError Nat) :=
  match cs with
  | '0' :: 'b' :: rest =>
    if isRun (fun c => c = '0' || c = '1') rest then some (powerBase 2 rest) else none
  | '0' :: 'x' :: rest =>
    if isRun (fun c => c.isDigit || ('a' ≤ c && c ≤ 'f') || ('A' ≤ c && c ≤ 'F')) rest then
      some (powerBase 16 rest)
    else none
  | ['0'] => some (.ok 0)
  | '0' :: rest =>
    if isRun (fun c => '0' ≤ c && c ≤ '7') rest then some (powerBase 8 cs) else none
  | cs =>
    match splitAt ':' cs with
    | [whole] => if isNumber whole then some (decimalBase whole) else none
    | first :: parts =>
      if isNumber first && parts.all isSixtieth then some (sixtyBase (first :: parts)) else none
    | [] => none

/-- The number with decimal digits and a power of ten. Powers far out of range are cut short. -/
def scientific (digits : List Nat) (exponent : Int) : Float :=
  let significant := digits.dropWhile (· = 0)
  let place := (significant.length : Int) + exponent
  if significant.isEmpty || place < -400 then 0.0
  else if 400 < place then 1.0 / 0.0
  else
    let mantissa := Text.Numeral.value 10 significant
    if 0 ≤ exponent then Float.ofScientific mantissa false exponent.toNat
    else Float.ofScientific mantissa true (-exponent).toNat

def exponent? : List Char → Option Int
  | [] => some 0
  | e :: sign :: rest =>
    if (e = 'e' || e = 'E') && (sign = '+' || sign = '-') && !rest.isEmpty
        && rest.all Char.isDigit then
      let size : Int := Text.Numeral.value 10 (digits rest)
      some (if sign = '-' then -size else size)
    else none
  | _ => none

def pointed (whole part : List Char) (exponent : Int) : Float :=
  scientific (digits whole ++ digits part) (exponent - (digits part).length)

/-- The number of places in base sixty whose values floating-point numbers reach. -/
def maxSixtyPlaces : Nat := 174

/-- The number that parts in base sixty write, the last of them with digits behind a point. They are
added up from the last one on, each rounded and multiplied by the rounded value of its place. -/
def sixtyFloat (before : List (List Char)) (last part : List Char) : Except LoadError Float :=
  if maxSixtyPlaces ≤ before.length then .error .placeTooHigh
  else
    let digits := pointed last part 0 :: before.reverse.map fun p => pointed p [] 0
    .ok (digits.zipIdx.foldl (fun sum (digit, place) => sum + digit * Float.ofNat (Nat.pow 60 place)) 0.0)

def float? (signed : Bool) (cs : List Char) : Option (Except LoadError Float) :=
  let (whole, rest) := cs.span (· ≠ '.')
  match rest with
  | [] => none
  | _ :: rest =>
    let (part, tail) := rest.span (fun c => c.isDigit || c = '_')
    if whole.isEmpty then
      if ["inf", "Inf", "INF"].contains (String.ofList rest) then some (.ok (1.0 / 0.0))
      else if !signed && ["nan", "NaN", "NAN"].contains (String.ofList rest) then
        some (.ok (0.0 / 0.0))
      else if !signed && isNumber part then (exponent? tail).map fun e => .ok (pointed [] part e)
      else none
    else
      match splitAt ':' whole with
      | [_] =>
        if isNumber whole then (exponent? tail).map fun e => .ok (pointed whole part e) else none
      | first :: parts =>
        if isNumber first && parts.all isSixtieth && tail.isEmpty then
          some (sixtyFloat (first :: parts.dropLast) (parts.getLastD []) part)
        else none
      | [] => none

def resolve (s : String) : Except LoadError Document :=
  if nullWords.contains s then .ok .null
  else if trueWords.contains s then .ok (.bool true)
  else if falseWords.contains s then .ok (.bool false)
  else
    let (negative, size) := splitSign s.toList
    match float? (s.toList.length ≠ size.length) size with
    | some (.ok x) => .ok (.float (if negative then -x else x))
    | some (.error e) => .error e
    | none =>
      match integer? size with
      | some (.ok n) => .ok (.int (if negative then -n else n))
      | some (.error e) => .error e
      | none => .ok (.text s)

end Scalar

end Chip8.Yaml
