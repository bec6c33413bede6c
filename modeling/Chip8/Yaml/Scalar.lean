import Chip8.Yaml.Cursor

/-!
Scalars in a YAML text: plain words, and texts between quotes. White space inside a scalar that
holds line breaks is folded: one break becomes a space, and of several all but the first are kept.
-/

namespace Chip8.Yaml

structure Piece where
  text : List Char
  cursor : Cursor
  broke : Bool := false

def foldBreaks (first : Char) (more : List Char) : List Char :=
  if first ≠ '\n' then first :: more
  else if more.isEmpty then [' ']
  else more

namespace Plain

/-- Whether a plain word ends before a character and those behind it. Inside brackets it also ends
before a comma, a question mark or a bracket. -/
def endsBefore (inFlow : Bool) (c : Char) (rest : List Char) : Bool :=
  isSpace c
    || (c = ':' && (endsWord rest
      || (inFlow && match rest with
        | d :: _ => [',', '[', ']', '\x7b', '\x7d'].contains d
        | [] => false)))
    || (inFlow && [',', '?', '[', ']', '\x7b', '\x7d'].contains c)

def wordLength (inFlow : Bool) : List Char → Nat
  | [] => 0
  | c :: rest => if endsBefore inFlow c rest then 0 else wordLength inFlow rest + 1

/-- The word that comes next, and the place behind it. Whether a colon ends it shows only in the
character behind the colon. -/
def word (inFlow : Bool) (c : Cursor) : Except LoadError (List Char × Cursor) := do
  let n := wordLength inFlow c.rest
  c.need (n + 1)
  if (c.rest.drop n).head? = some ':' then c.need (n + 2)
  return (c.rest.take n, ← c.advance n)

/-- The line breaks in the white space that comes next, from the start of a line on, and the place
behind it; no breaks if a document marker stands there. -/
def breaks : (fuel : Nat) → Cursor → Except LoadError (Option (List Char) × Cursor)
  | 0, c => .ok (none, c)
  | fuel + 1, c => do
    if ← c.atMarker then return (none, c)
    let c ← c.skipWhile (· = ' ')
    match ← c.peek with
    | some ch =>
      if isBreak ch then
        let (more?, last) ← breaks fuel (← c.advance 1)
        return (more?.map (ch :: ·), last)
      else return (some [], c)
    | none => return (some [], c)

def spaces (c : Cursor) : Except LoadError Piece := do
  let (run, c) ← c.takeWhile (· = ' ')
  match ← c.peek with
  | some ch =>
    if isBreak ch then
      let (more?, last) ← breaks (c.rest.length + 1) (← c.advance 1)
      return { text := (more?.map (foldBreaks ch)).getD [], cursor := last, broke := true }
    else return { text := run, cursor := c }
  | none => return { text := run, cursor := c }

/-- Reads words and the white space between them. Outside brackets a scalar ends at a line that is
indented less than `indent`. -/
def words (inFlow : Bool) (indent : Int) :
    (fuel : Nat) → (gap : List Char) → Cursor → Except LoadError Piece
  | 0, _, c => .ok { text := [], cursor := c }
  | fuel + 1, gap, c => do
    if (← c.peek) = some '#' then return { text := [], cursor := c }
    let (found, behind) ← word inFlow c
    if found.isEmpty then return { text := [], cursor := c }
    let read := gap ++ found
    let after ← spaces behind
    let following ← after.cursor.peek
    if after.text.isEmpty || following = some '#'
        || (!inFlow && (after.cursor.column : Int) < indent) then
      return { after with text := read }
    let more ← words inFlow indent fuel after.text after.cursor
    return {
      text := read ++ more.text
      cursor := more.cursor
      broke := more.broke || (after.broke && more.text.isEmpty) }

def read (inFlow : Bool) (indent : Int) (c : Cursor) : Except LoadError Piece :=
  words inFlow indent (c.rest.length + 1) [] c

end Plain

namespace Quoted

def letterEscapes : List (Char × Nat) :=
  [('0', 0x00), ('a', 0x07), ('b', 0x08), ('t', 0x09), ('\t', 0x09), ('n', 0x0A), ('v', 0x0B),
   ('f', 0x0C), ('r', 0x0D), ('e', 0x1B), (' ', 0x20), ('"', 0x22), ('\\', 0x5C), ('/', 0x2F),
   ('N', 0x85), ('_', 0xA0), ('L', 0x2028), ('P', 0x2029)]

def codeEscapes : List (Char × Nat) :=
  [('x', 2), ('u', 4), ('U', 8)]

def hexValue? (c : Char) : Option Nat :=
  if c.isDigit then some (c.toNat - '0'.toNat)
  else if 'a' ≤ c ∧ c ≤ 'f' then some (c.toNat - 'a'.toNat + 10)
  else if 'A' ≤ c ∧ c ≤ 'F' then some (c.toNat - 'A'.toNat + 10)
  else none

/-- The number that the next `n` characters write in hexadecimal digits. They are looked at one by
one, up to the first that is no digit. -/
def hexCode (n : Nat) (c : Cursor) : Except LoadError Nat := do
  let digits := ((c.rest.take n).takeWhile fun ch => (hexValue? ch).isSome).filterMap hexValue?
  if digits.length = n then return Text.Numeral.value 16 digits
  c.need (digits.length + 1)
  .error .malformed

def codePoint (code : Nat) : Except LoadError CodePoint :=
  match CodePoint.ofNat? code with
  | some p => .ok p
  | none => .error (if code < 0x80000000 then .noCodePoint else .codeTooLarge)

def isGap (c : Char) : Bool :=
  c = ' ' || c = '\t'

def breaks : (fuel : Nat) → Cursor → Except LoadError (List Char × Cursor)
  | 0, _ => .error .malformed
  | fuel + 1, c => do
    if ← c.atMarker then .error .malformed
    let c ← c.skipWhile isGap
    match ← c.peek with
    | some ch =>
      if isBreak ch then
        let (more, last) ← breaks fuel (← c.advance 1)
        return (ch :: more, last)
      else return ([], c)
    | none => return ([], c)

def escape (c : Cursor) : Except LoadError (Text × Cursor) := do
  match ← c.peek with
  | none => .error .malformed
  | some ch =>
    match letterEscapes.lookup ch, codeEscapes.lookup ch with
    | some code, _ => return ([.char (Char.ofNat code)], ← c.advance 1)
    | none, some n =>
      let c ← c.advance 1
      let point ← codePoint (← hexCode n c)
      return ([point], ← c.advance n)
    | none, none =>
      if isBreak ch then
        let (more, c) ← breaks (c.rest.length + 1) (← c.advance 1)
        return (Text.ofChars more, c)
      else .error .malformed

def inside (double : Bool) : (fuel : Nat) → Cursor → Except LoadError (Text × Cursor)
  | 0, _ => .error .malformed
  | fuel + 1, c => do
    let goOn (text : Text) (c : Cursor) : Except LoadError (Text × Cursor) := do
      let (more, last) ← inside double fuel c
      return (text ++ more, last)
    match ← c.peek with
    | none => .error .malformed
    | some ch =>
      if isGap ch then
        let (run, c) ← c.takeWhile isGap
        match ← c.peek with
        | none => .error .malformed
        | some d => if isBreak d then inside double fuel c else goOn (Text.ofChars run) c
      else if isBreak ch then
        let (more, c) ← breaks (c.rest.length + 1) (← c.advance 1)
        goOn (Text.ofChars (foldBreaks ch more)) c
      else if double then
        if ch = '"' then return ([], ← c.advance 1)
        else if ch = '\\' then
          let (text, c) ← escape (← c.advance 1)
          goOn text c
        else goOn [.char ch] (← c.advance 1)
      else if ch = '\'' then
        c.need 2
        if (c.rest.drop 1).head? = some '\'' then goOn [.char ch] (← c.advance 2)
        else return ([], ← c.advance 1)
      else goOn [.char ch] (← c.advance 1)

def read (double : Bool) (c : Cursor) : Except LoadError (Text × Cursor) := do
  inside double (c.rest.length + 1) (← c.advance 1)

end Quoted

end Chip8.Yaml
