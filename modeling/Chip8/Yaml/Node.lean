import Chip8.Yaml.Token

/-!
The tree of a YAML text. The grammar is read by recursive descent over the tokens; a missing node
stands for an empty plain scalar.
-/

namespace Chip8.Yaml

inductive Node where
  | plain (word : String)
  | quoted (text : Text)
  | sequence (items : List Node)
  | mapping (entries : List (Node × Node))

instance : Inhabited Node := ⟨.plain ""⟩

inductive Misfit where
  | unexpected
  | exhausted
deriving DecidableEq, Repr

namespace Misfit

def ofNext (ts : List Token) : Misfit :=
  if ts.isEmpty then exhausted else unexpected

end Misfit

namespace Node

def missing : Node := .plain ""

def nextIn (stops : List Token) (ts : List Token) : Bool :=
  match ts with
  | t :: _ => stops.contains t
  | [] => false

/-- The tokens of the next entry in brackets, which a comma sets apart from the one before. -/
def afterComma (first : Bool) (ts : List Token) : Except Misfit (List Token) :=
  if first then .ok ts
  else
    match ts with
    | .flowEntry :: ts => .ok ts
    | ts => .error (.ofNext ts)

mutual

/-- Reads a node. In a block, `inBlock` allows the starts of blocks, and `indentless` a list whose
dashes stand in the column of the key above. -/
def node : (fuel : Nat) → (inBlock indentless : Bool) → List Token →
    Except Misfit (Node × List Token)
  | 0, _, _, _ => .error .exhausted
  | fuel + 1, inBlock, indentless, ts =>
    match ts with
    | .plain word :: ts => .ok (.plain word, ts)
    | .quoted text :: ts => .ok (.quoted text, ts)
    | .flowSequenceStart :: ts => (flowItems fuel true ts).map fun (items, ts) => (.sequence items, ts)
    | .flowMappingStart :: ts =>
      (flowEntries fuel true ts).map fun (entries, ts) => (.mapping entries, ts)
    | .blockEntry :: _ =>
      if indentless then (indentlessItems fuel ts).map fun (items, ts) => (.sequence items, ts)
      else .error .unexpected
    | .blockSequenceStart :: ts =>
      if inBlock then (blockItems fuel ts).map fun (items, ts) => (.sequence items, ts)
      else .error .unexpected
    | .blockMappingStart :: ts =>
      if inBlock then (blockEntries fuel ts).map fun (entries, ts) => (.mapping entries, ts)
      else .error .unexpected
    | ts => .error (.ofNext ts)

def nodeUnless : (fuel : Nat) → (inBlock indentless : Bool) → (stops : List Token) →
    List Token → Except Misfit (Node × List Token)
  | 0, _, _, _, _ => .error .exhausted
  | fuel + 1, inBlock, indentless, stops, ts =>
    if nextIn stops ts then .ok (missing, ts) else node fuel inBlock indentless ts

def blockItems : (fuel : Nat) → List Token → Except Misfit (List Node × List Token)
  | 0, _ => .error .exhausted
  | fuel + 1, ts =>
    match ts with
    | .blockEntry :: ts => do
      let (item, ts) ← nodeUnless fuel true false [.blockEntry, .blockEnd] ts
      let (rest, ts) ← blockItems fuel ts
      return (item :: rest, ts)
    | .blockEnd :: ts => .ok ([], ts)
    | ts => .error (.ofNext ts)

/-- Reads the entries of a list without an indentation of its own; it ends where no dash follows. -/
def indentlessItems : (fuel : Nat) → List Token → Except Misfit (List Node × List Token)
  | 0, _ => .error .exhausted
  | fuel + 1, ts =>
    match ts with
    | .blockEntry :: ts => do
      let (item, ts) ← nodeUnless fuel true false [.blockEntry, .key, .value, .blockEnd] ts
      let (rest, ts) ← indentlessItems fuel ts
      return (item :: rest, ts)
    | ts => .ok ([], ts)

def blockEntries : (fuel : Nat) → List Token → Except Misfit (List (Node × Node) × List Token)
  | 0, _ => .error .exhausted
  | fuel + 1, ts =>
    match ts with
    | .key :: ts => do
      let stops := [.key, .value, .blockEnd]
      let (key, ts) ← nodeUnless fuel true true stops ts
      let (value, ts) ← match ts with
        | .value :: ts => nodeUnless fuel true true stops ts
        | ts => .ok (missing, ts)
      let (rest, ts) ← blockEntries fuel ts
      return ((key, value) :: rest, ts)
    | .blockEnd :: ts => .ok ([], ts)
    | ts => .error (.ofNext ts)

/-- Reads the items of a list in brackets up to the closing one. An item with a key is a mapping of
one entry. A comma may stand before the bracket. -/
def flowItems : (fuel : Nat) → (first : Bool) → List Token →
    Except Misfit (List Node × List Token)
  | 0, _, _ => .error .exhausted
  | fuel + 1, first, ts =>
    match ts with
    | .flowSequenceEnd :: ts => .ok ([], ts)
    | ts => do
      let ts ← afterComma first ts
      match ts with
      | .flowSequenceEnd :: ts => return ([], ts)
      | .key :: ts =>
        let (key, ts) ← nodeUnless fuel false false [.value, .flowEntry, .flowSequenceEnd] ts
        let (value, ts) ← match ts with
          | .value :: ts => nodeUnless fuel false false [.flowEntry, .flowSequenceEnd] ts
          | ts => .ok (missing, ts)
        let (rest, ts) ← flowItems fuel false ts
        return (.mapping [(key, value)] :: rest, ts)
      | ts =>
        let (item, ts) ← node fuel false false ts
        let (rest, ts) ← flowItems fuel false ts
        return (item :: rest, ts)

/-- Reads the entries of a mapping in braces up to the closing one. A node without a key token is a
key without a value. -/
def flowEntries : (fuel : Nat) → (first : Bool) → List Token →
    Except Misfit (List (Node × Node) × List Token)
  | 0, _, _ => .error .exhausted
  | fuel + 1, first, ts =>
    match ts with
    | .flowMappingEnd :: ts => .ok ([], ts)
    | ts => do
      let ts ← afterComma first ts
      match ts with
      | .flowMappingEnd :: ts => return ([], ts)
      | .key :: ts =>
        let (key, ts) ← nodeUnless fuel false false [.value, .flowEntry, .flowMappingEnd] ts
        let (value, ts) ← match ts with
          | .value :: ts => nodeUnless fuel false false [.flowEntry, .flowMappingEnd] ts
          | ts => .ok (missing, ts)
        let (rest, ts) ← flowEntries fuel false ts
        return ((key, value) :: rest, ts)
      | ts =>
        let (key, ts) ← node fuel false false ts
        let (rest, ts) ← flowEntries fuel false ts
        return ((key, missing) :: rest, ts)

end

/-- The tree of a text with one document at most; a text without one has none. -/
def ofTokens (ts : List Token) : Except Misfit (Option Node) :=
  match ts with
  | [] => .ok none
  | .documentStart :: ts =>
    if ts.isEmpty || nextIn [.documentStart, .documentEnd] ts then ended missing ts
    else do
      let (tree, ts) ← node (4 * ts.length + 4) true false ts
      ended tree ts
  | ts => do
    let (tree, ts) ← node (4 * ts.length + 4) true false ts
    ended tree ts
where
  ended (tree : Node) (ts : List Token) : Except Misfit (Option Node) :=
    if ts.all (· = .documentEnd) then .ok (some tree) else .error .unexpected

end Node

end Chip8.Yaml
