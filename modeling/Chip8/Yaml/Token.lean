import Chip8.Yaml.Scalar

/-!
The tokens of a YAML text. Indentation becomes tokens that open and close blocks. A scalar or a
bracket may turn out to be a key when a colon follows on its line; its key token, and the start of a
mapping if it opens one, then go in front of it.

Anchors, aliases, tags, directives and block scalars are not part of the language that is read.
-/

namespace Chip8.Yaml

inductive Token where
  | documentStart
  | documentEnd
  | blockSequenceStart
  | blockMappingStart
  | blockEnd
  | flowSequenceStart
  | flowSequenceEnd
  | flowMappingStart
  | flowMappingEnd
  | blockEntry
  | flowEntry
  | key
  | value
  | plain (word : String)
  | quoted (text : Text)
deriving DecidableEq, Repr

/-- A place that may turn out to be a key: the number of tokens before it, and whether it has to be
one because a line of a block starts with it. -/
structure Candidate where
  tokensBefore : Nat
  required : Bool
  cursor : Cursor

structure Layout where
  cursor : Cursor
  tokens : List Token := []
  indent : Int := -1
  outer : List Int := []
  /-- The candidates for keys, one place for each open bracket and one for the text outside. -/
  candidates : List (Option Candidate) := [none]
  keyAllowed : Bool := true
  ended : Bool := false

namespace Layout

def inFlow (l : Layout) : Bool :=
  1 < l.candidates.length

def emit (l : Layout) (t : Token) : Layout :=
  { l with tokens := l.tokens ++ [t] }

/-- The state behind blanks, comments and empty lines. After a line break a key may start, unless
inside brackets. -/
def skipSpace : (fuel : Nat) → Layout → Except LoadError Layout
  | 0, l => .ok l
  | fuel + 1, l => do
    let c ← l.cursor.skipWhile (· = ' ')
    let c ← if (← c.peek) = some '#' then c.skipWhile (fun ch => !isBreak ch) else pure c
    match ← c.peek with
    | some ch =>
      if isBreak ch then
        skipSpace fuel { l with cursor := ← c.advance 1, keyAllowed := l.keyAllowed || !l.inFlow }
      else return { l with cursor := c }
    | none => return { l with cursor := c }

/-- Whether a candidate can no longer become a key: its line has ended, or it is too far back. -/
def isStale (here : Cursor) (k : Candidate) : Bool :=
  k.cursor.line ≠ here.line || k.cursor.index + 1024 < here.index

/-- Drops the candidates that can no longer become keys. One that has to become a key must not be
among them. -/
def dropStale (l : Layout) : Except LoadError Layout :=
  let stale (k? : Option Candidate) := k?.any (isStale l.cursor)
  if l.candidates.any fun k? => stale k? && k?.any (·.required) then .error .malformed
  else .ok { l with candidates := l.candidates.map fun k? => if stale k? then none else k? }

def unwindTo (l : Layout) (column : Int) : List Int → Layout
  | [] => l
  | o :: rest =>
    if column < l.indent then { l.emit .blockEnd with indent := o, outer := rest }.unwindTo column rest
    else l

def unwind (l : Layout) (column : Int) : Layout :=
  if l.inFlow then l else l.unwindTo column l.outer

def opens (l : Layout) (column : Int) : Bool :=
  !l.inFlow && l.indent < column

def openAt (l : Layout) (column : Int) : Layout :=
  { l with indent := column, outer := l.indent :: l.outer }

def openBlock (l : Layout) (column : Int) (start : Token) : Layout :=
  if l.opens column then (l.openAt column).emit start else l

/-- Drops the candidate of the innermost bracket, which must not be one that has to become a key. -/
def dropCandidate (l : Layout) : Except LoadError Layout :=
  match l.candidates with
  | some k :: rest =>
    if k.required then .error .malformed else .ok { l with candidates := none :: rest }
  | _ => .ok l

def propose (l : Layout) : Except LoadError Layout := do
  if l.keyAllowed then
    let required := !l.inFlow && l.indent = l.cursor.column
    let l ← l.dropCandidate
    let k : Candidate := { tokensBefore := l.tokens.length, required, cursor := l.cursor }
    return { l with candidates := some k :: l.candidates.drop 1 }
  else return l

def take (l : Layout) (n : Nat) (t : Token) : Except LoadError Layout := do
  return { l.emit t with cursor := ← l.cursor.advance n }

def marker (l : Layout) (t : Token) : Except LoadError Layout := do
  let l ← (l.unwind (-1)).dropCandidate
  return { ← l.take 3 t with keyAllowed := false }

def openBracket (l : Layout) (t : Token) : Except LoadError Layout := do
  let l ← (← l.propose).take 1 t
  return { l with candidates := none :: l.candidates, keyAllowed := true }

def closeBracket (l : Layout) (t : Token) : Except LoadError Layout := do
  let closed ← (← l.dropCandidate).take 1 t
  if l.inFlow then return { closed with candidates := l.candidates.drop 1, keyAllowed := false }
  else .error .malformed

def comma (l : Layout) : Except LoadError Layout := do
  return { ← (← l.dropCandidate).take 1 .flowEntry with keyAllowed := true }

def dash (l : Layout) : Except LoadError Layout := do
  if !l.inFlow && !l.keyAllowed then .error .malformed
  else
    let l ← (l.openBlock l.cursor.column .blockSequenceStart).dropCandidate
    return { ← l.take 1 .blockEntry with keyAllowed := true }

def questionMark (l : Layout) : Except LoadError Layout := do
  if !l.inFlow && !l.keyAllowed then .error .malformed
  else
    let l ← (l.openBlock l.cursor.column .blockMappingStart).dropCandidate
    return { ← l.take 1 .key with keyAllowed := !l.inFlow }

/-- Reads a colon. The candidate becomes a key, and the first key of a block opens the block. -/
def colon (l : Layout) : Except LoadError Layout := do
  match l.candidates with
  | some k :: rest =>
    let opening := if l.opens k.cursor.column then [.blockMappingStart, .key] else [.key]
    let opened := if l.opens k.cursor.column then l.openAt k.cursor.column else l
    let tokens := l.tokens.take k.tokensBefore ++ opening ++ l.tokens.drop k.tokensBefore
    let opened := { opened with tokens, candidates := none :: rest }
    return { ← opened.take 1 .value with keyAllowed := false }
  | _ =>
    if !l.inFlow && !l.keyAllowed then .error .malformed
    else
      let opened := l.openBlock l.cursor.column .blockMappingStart
      return { ← opened.take 1 .value with keyAllowed := !l.inFlow }

def quoted (l : Layout) (double : Bool) : Except LoadError Layout := do
  let l ← l.propose
  let (text, cursor) ← Quoted.read double l.cursor
  return { l.emit (.quoted text) with cursor, keyAllowed := false }

def plain (l : Layout) : Except LoadError Layout := do
  let l ← l.propose
  let piece ← Plain.read l.inFlow (l.indent + 1) l.cursor
  return { l.emit (.plain (String.ofList piece.text)) with
    cursor := piece.cursor, keyAllowed := piece.broke }

def indicators : List Char :=
  ['-', '?', ':', ',', '[', ']', '\x7b', '\x7d', '#', '&', '*', '!', '|', '>', '\'', '"', '%', '@',
   Char.ofNat 0x60]

/-- Whether a plain scalar starts with a character that comes next. The character behind it is looked
at even where it does not matter. -/
def startsPlain (l : Layout) (ch : Char) : Except LoadError Bool := do
  if isSpace ch || indicators.contains ch then
    return !(← l.cursor.endsBehind) && (ch = '-' || (!l.inFlow && (ch = '?' || ch = ':')))
  else return true

def finish (l : Layout) : Except LoadError Layout := do
  return { ← (l.unwind (-1)).dropCandidate with ended := true }

def isMarker (l : Layout) (ch : Char) : Except LoadError Bool :=
  if l.cursor.column = 0 ∧ (ch = '-' ∨ ch = '.') then l.cursor.atMarker else .ok false

/-- Whether one of the marks of a block entry, a key and a value comes next. Inside brackets the marks
of keys and values need no blank behind them. -/
def isMark (l : Layout) (ch : Char) : Except LoadError Bool := do
  if ch = '-' then l.cursor.endsBehind
  else if ch = '?' || ch = ':' then if l.inFlow then return true else l.cursor.endsBehind
  else return false

def token (l : Layout) (ch : Char) : Except LoadError Layout := do
  if l.cursor.column = 0 && ch = '%' then .error .malformed
  else if ← l.isMarker ch then
    l.marker (if ch = '-' then .documentStart else .documentEnd)
  else if ch = '[' then l.openBracket .flowSequenceStart
  else if ch = '\x7b' then l.openBracket .flowMappingStart
  else if ch = ']' then l.closeBracket .flowSequenceEnd
  else if ch = '\x7d' then l.closeBracket .flowMappingEnd
  else if ch = ',' then l.comma
  else if ← l.isMark ch then
    if ch = '-' then l.dash else if ch = '?' then l.questionMark else l.colon
  else if ch = '\'' then l.quoted false
  else if ch = '"' then l.quoted true
  else if ← l.startsPlain ch then l.plain
  else .error .malformed

def fetch (l : Layout) : Except LoadError Layout := do
  let l ← (← l.skipSpace (l.cursor.rest.length + 1)).dropStale
  let l := l.unwind l.cursor.column
  match ← l.cursor.peek with
  | some ch => l.token ch
  | none => l.finish

/-- The tokens before the first candidate for a key, in front of which no token will go any more. -/
def settled (l : Layout) : List Token :=
  l.tokens.take ((l.candidates.filterMap fun k? => k?.map (·.tokensBefore)).foldl min l.tokens.length)

end Layout

inductive Scan where
  | whole (tokens : List Token)
  /-- No further token could be read. The tokens before it are settled, and the grammar may refuse
  them before the error counts. -/
  | stopped (error : LoadError) (settled : List Token)

namespace Layout

/-- What there is when no further token can be read: a candidate that had to become a key and no
longer can is the error that counts. -/
def stopped (l : Layout) (e : LoadError) : Scan :=
  match l.dropStale with
  | .error missed => .stopped missed []
  | .ok l => .stopped e l.settled

/-- Reads tokens up to the end. Every token but the last takes up a character at least. -/
def run : (fuel : Nat) → Layout → Scan
  | 0, l => .stopped .malformed l.tokens
  | fuel + 1, l =>
    match l.fetch with
    | .error e => l.stopped e
    | .ok after => if after.ended then .whole after.tokens else run fuel after

end Layout

namespace Scan

def ofChars (cs : List Char) (beyond : Option LoadError) : Scan :=
  let start : Cursor := { rest := normalize cs, beyond }
  let start := if cs.head? = some byteOrderMark then start.next else start
  Layout.run (cs.length + 2) { cursor := start }

end Scan

end Chip8.Yaml
