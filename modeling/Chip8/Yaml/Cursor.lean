import Chip8.Yaml.Error

/-!
A place in a YAML text: the characters that are left, and how many lines, columns and characters
lie before it. Line breaks are line feeds, or the two separators of Unicode, which keep their
identity inside scalars; `normalize` turns the other spellings of a break into line feeds.

Of a file only a part may be readable. Every look at characters and every move therefore says how
many of them it needs, and fails where the readable part has fewer.
-/

namespace Chip8.Yaml

def isAllowed (c : Char) : Bool :=
  let n := c.toNat
  n = 0x09 || n = 0x0A || n = 0x0D || (0x20 ≤ n && n ≤ 0x7E) || n = 0x85
    || (0xA0 ≤ n && n ≤ 0xD7FF) || (0xE000 ≤ n && n ≤ 0xFFFD) || 0x10000 ≤ n

def byteOrderMark : Char := Char.ofNat 0xFEFF

/-- The text with every carriage return, with or without a line feed, and every next-line control
turned into a line feed. -/
def normalize : List Char → List Char
  | [] => []
  | '\r' :: '\n' :: rest => '\n' :: normalize rest
  | c :: rest => (if c = '\r' ∨ c.toNat = 0x85 then '\n' else c) :: normalize rest

def isBreak (c : Char) : Bool :=
  c = '\n' || c.toNat = 0x2028 || c.toNat = 0x2029

def isSpace (c : Char) : Bool :=
  c = ' ' || c = '\t' || isBreak c

def endsWord : List Char → Bool
  | [] => true
  | c :: _ => isSpace c

structure Cursor where
  rest : List Char
  /-- What reading on behind these characters meets; nothing where the text ends with them. -/
  beyond : Option LoadError := none
  line : Nat := 0
  column : Nat := 0
  index : Nat := 0
deriving Repr

namespace Cursor

def next (c : Cursor) : Cursor :=
  match c.rest with
  | [] => c
  | ch :: rest =>
    if isBreak ch then { c with rest, line := c.line + 1, column := 0, index := c.index + 1 }
    else
      { c with
        rest
        column := if ch = byteOrderMark then c.column else c.column + 1
        index := c.index + 1 }

def skip (c : Cursor) : Nat → Cursor
  | 0 => c
  | n + 1 => c.next.skip n

def need (c : Cursor) (n : Nat) : Except LoadError Unit :=
  match c.beyond with
  | none => .ok ()
  | some e => if (c.rest.take n).length = n then .ok () else .error e

def peek (c : Cursor) : Except LoadError (Option Char) := do
  c.need 1
  return c.rest.head?

/-- Moves behind the next `n` characters, which needs a look at the one behind them. -/
def advance (c : Cursor) (n : Nat) : Except LoadError Cursor := do
  c.need (n + 1)
  return c.skip n

def takeWhile (c : Cursor) (p : Char → Bool) : Except LoadError (List Char × Cursor) := do
  let run := c.rest.takeWhile p
  return (run, ← c.advance run.length)

def skipWhile (c : Cursor) (p : Char → Bool) : Except LoadError Cursor := do
  return (← c.takeWhile p).2

def endsBehind (c : Cursor) : Except LoadError Bool := do
  c.need 2
  return endsWord (c.rest.drop 1)

/-- Whether a document marker stands here, at the start of a line: three dashes or three points
before the end of a word. -/
def atMarker (c : Cursor) : Except LoadError Bool := do
  c.need 3
  match c.rest with
  | '-' :: '-' :: '-' :: rest | '.' :: '.' :: '.' :: rest =>
    c.need 4
    return endsWord rest
  | _ => return false

end Cursor

end Chip8.Yaml
