import Chip8.Text.Utf8
import Chip8.Yaml.Node
import Chip8.Yaml.Resolve

/-!
Loading a YAML text: its tree becomes a document. Keys have to be scalars; of equal keys the last
value counts. The plain word for merging mappings is refused, and so is the one for default values,
except as a key.
-/

namespace Chip8.Yaml

/-- An error in a tree, and how deep it lies. -/
structure Flaw where
  depth : Nat
  error : LoadError

namespace Flaw

/-- Both values. A tree is looked through level by level, so of two flaws the one that lies less deep
counts, and the first one if they lie equally deep. -/
def both {α β : Type} : Except Flaw α → Except Flaw β → Except Flaw (α × β)
  | .ok a, .ok b => .ok (a, b)
  | .error f, .ok _ => .error f
  | .ok _, .error g => .error g
  | .error f, .error g => .error (if g.depth < f.depth then g else f)

end Flaw

namespace Node

def mergeWord : String := "<<"

def defaultWord : String := "="

def wordValue (word : String) : Except LoadError Document :=
  if word = mergeWord ∨ word = defaultWord then .error .malformed else Scalar.resolve word

/-- The value of a key, which has to be a scalar. The word for default values stands for its text
there. -/
def keyValue : Node → Except LoadError Document
  | .plain word => if word = defaultWord then .ok (.text word) else wordValue word
  | .quoted text => .ok (.text text)
  | _ => .error .malformed

def isMergeKey : Node → Bool
  | .plain word => word = mergeWord
  | _ => false

mutual

def value (depth : Nat) : Node → Except Flaw Document
  | .plain word => (wordValue word).mapError (⟨depth, ·⟩)
  | .quoted text => .ok (.text text)
  | .sequence items => (values (depth + 1) items).map .list
  | .mapping entries =>
    if entries.any fun entry => isMergeKey entry.1 then .error ⟨depth + 1, .malformed⟩
    else
      (entryValues (depth + 1) entries).map fun found =>
        .mapping (found.foldl (fun m (key, entry) => Document.insert m key entry) [])

def values (depth : Nat) : List Node → Except Flaw (List Document)
  | [] => .ok []
  | item :: rest =>
    (Flaw.both (item.value depth) (values depth rest)).map fun (first, more) => first :: more

def entryValues (depth : Nat) : List (Node × Node) → Except Flaw (List (Document × Document))
  | [] => .ok []
  | (key, entry) :: rest =>
    (Flaw.both (Flaw.both (key.keyValue.mapError (⟨depth, ·⟩)) (entry.value depth))
      (entryValues depth rest)).map fun (first, more) => first :: more

end

end Node

/-- The document in characters, behind which reading on meets an error or the end of the text. A text
without a document holds no value. -/
def loadChars (cs : List Char) (beyond : Option LoadError) : Except LoadError Document :=
  match Scan.ofChars cs beyond with
  | .whole tokens =>
    match Node.ofTokens tokens with
    | .error _ => .error .malformed
    | .ok none => .ok .null
    | .ok (some tree) => (tree.value 0).mapError (·.error)
  | .stopped e settled =>
    match Node.ofTokens settled with
    | .error .unexpected => .error .malformed
    | _ => .error e

def load (t : Text) : Except LoadError Document :=
  match t.chars? with
  | some cs => if cs.all isAllowed then loadChars cs none else .error .malformed
  | none => .error .malformed

def blocksAhead : Nat := 2

/-- The document in the text of a file, of which a block is checked when it is read. -/
def loadBlocks (cs : List Char) (beyond : Option LoadError) : Except LoadError Document :=
  match cs.findIdx? fun c => !isAllowed c with
  | none => loadChars cs beyond
  | some place =>
    let blocks := place / Text.Utf8.blockSize
    if blocks < blocksAhead then .error .malformed
    else loadChars (cs.take (blocks * Text.Utf8.blockSize)) (some .malformed)

/-- The document that a file holds. Of a file that is not UTF-8 throughout, the readable blocks are
looked at before reading on fails. -/
def loadFile (bytes : List UInt8) : Except LoadError Document :=
  match String.fromUTF8? ⟨bytes.toArray⟩ with
  | some text => loadBlocks (Text.Utf8.lineFeeds text.toList) none
  | none =>
    let blocks := Text.Utf8.readable bytes
    if blocks.length < blocksAhead * Text.Utf8.blockSize then .error .notText
    else loadBlocks blocks (some .notText)

end Chip8.Yaml
