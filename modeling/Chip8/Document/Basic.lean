import Chip8.Decimal.Text
import Chip8.Text.Basic

/-!
Documents: the values that a configuration file holds. A mapping keeps its entries in the order in
which their keys first occurred.
-/

namespace Chip8

inductive Document where
  | null
  | bool (b : Bool)
  | int (n : Int)
  | float (x : Float)
  | text (t : Text)
  | list (items : List Document)
  | mapping (entries : List (Document × Document))

instance : Inhabited Document := ⟨.null⟩

/-- A value as a number, where truth values count as zero and one. -/
inductive Document.Number where
  | exact (mantissa exponent : Int)
  | infinite (negative : Bool)
  | nan
deriving DecidableEq, Repr

namespace Document.Number

def ofInt (n : Int) : Number :=
  .exact n 0

def ofFloat (x : Float) : Number :=
  match Decimal.dyadic? x, Decimal.Parts.ofFloat x with
  | some (m, e), _ => .exact m e
  | none, .infinite negative => .infinite negative
  | none, _ => .nan

/-- The order of two numbers. A number that is not a number is placed below all others. -/
def order : Number → Number → Ordering
  | nan, nan => .eq
  | nan, _ => .lt
  | _, nan => .gt
  | infinite a, infinite b => compare b a
  | infinite a, exact _ _ => if a then .lt else .gt
  | exact _ _, infinite b => if b then .gt else .lt
  | exact m e, exact m' e' =>
    let low := min e e'
    compare (m * Int.pow 2 (e - low).toNat) (m' * Int.pow 2 (e' - low).toNat)

end Document.Number

namespace Document

def number? : Document → Option Number
  | bool b => some (.ofInt (if b then 1 else 0))
  | int n => some (.ofInt n)
  | float x => some (.ofFloat x)
  | _ => none

/-- Whether two values are the same key of a mapping: numbers of one size are. Lists and mappings
are no keys. -/
def sameKey : Document → Document → Bool
  | null, null => true
  | text s, text t => s = t
  | a, b =>
    match a.number?, b.number? with
    | some x, some y => x.order y = .eq
    | _, _ => false

def find? (entries : List (Document × Document)) (key : Document) : Option Document :=
  (entries.find? fun entry => entry.1.sameKey key).map (·.2)

/-- The entries with one more. An earlier entry of the same key keeps its place and its key and
takes the new value. -/
def insert (entries : List (Document × Document)) (key value : Document) :
    List (Document × Document) :=
  match entries with
  | [] => [(key, value)]
  | entry :: rest =>
    if entry.1.sameKey key then (entry.1, value) :: rest
    else entry :: insert rest key value

/-- Whether a value counts as nothing: no value, false, zero, and what is empty. -/
def isEmpty : Document → Bool
  | null => true
  | bool b => !b
  | int n => n = 0
  | float x => ((Decimal.Parts.ofFloat x) matches .zero _)
  | text t => t.isEmpty
  | list items => items.isEmpty
  | mapping entries => entries.isEmpty

def kindName : Document → String
  | null => "NoneType"
  | bool _ => "bool"
  | int _ => "int"
  | float _ => "float"
  | text _ => "str"
  | list _ => "list"
  | mapping _ => "dict"

end Document

end Chip8
