import Chip8.Document.Basic
import Chip8.Text.Numeral
import Chip8.Text.Quoted

/-!
Documents as text on one line. A text stands for itself; inside a list or a mapping it is quoted.
An integer of more than 4300 digits has no text, nor has a value that contains one.
-/

namespace Chip8

/-- The decimal text of an integer, unless it is too long. -/
def intText? (n : Int) : Option String :=
  if n.natAbs < Nat.pow 10 Text.Numeral.maxDecimalDigits then some (toString n) else none

namespace Document

mutual

def nested? : Document → Option String
  | null => some "None"
  | bool b => some (if b then "True" else "False")
  | int n => intText? n
  | float x => some (Decimal.floatText x)
  | text t => some (Text.Quoted.quoted t)
  | list items => (nestedItems? items).map fun texts => "[" ++ ", ".intercalate texts ++ "]"
  | mapping entries =>
    (nestedEntries? entries).map fun texts => "\x7b" ++ ", ".intercalate texts ++ "\x7d"

def nestedItems? : List Document → Option (List String)
  | [] => some []
  | item :: rest =>
    match nested? item, nestedItems? rest with
    | some s, some ss => some (s :: ss)
    | _, _ => none

def nestedEntries? : List (Document × Document) → Option (List String)
  | [] => some []
  | (key, value) :: rest =>
    match nested? key, nested? value, nestedEntries? rest with
    | some k, some v, some ss => some ((k ++ ": " ++ v) :: ss)
    | _, _, _ => none

end

def text? : Document → Option Text
  | text t => some t
  | value => (nested? value).map Text.ofString

end Document

end Chip8
