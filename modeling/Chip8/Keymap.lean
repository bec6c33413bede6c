import Chip8.Text.Upper

/-!
Key names: which key of the keypad a key of the keyboard stands for, and where each key lies on the
4x4 keypad. Names are compared in upper case.
-/

namespace Chip8

def IsKey (key : Int) : Prop :=
  0 ≤ key ∧ key ≤ 0xF

instance (key : Int) : Decidable (IsKey key) :=
  inferInstanceAs (Decidable (_ ∧ _))

structure NoSuchKey where
  key : Int
deriving DecidableEq, Repr

def NoSuchKey.message (e : NoSuchKey) : String :=
  "Key " ++ toString e.key ++ " out of range (0x0-0xF)."

structure Keymap where
  entries : List (Text × Int) := []
deriving DecidableEq, Repr

namespace Keymap

/-- The keyboard's left block of four rows, laid over the keypad. -/
def standard : Keymap where
  entries :=
    [("1", 0x1), ("2", 0x2), ("3", 0x3), ("4", 0xC),
     ("Q", 0x4), ("W", 0x5), ("E", 0x6), ("R", 0xD),
     ("A", 0x7), ("S", 0x8), ("D", 0x9), ("F", 0xE),
     ("Z", 0xA), ("X", 0x0), ("C", 0xB), ("V", 0xF)]

/-- Puts a value under a name; a name that is there already keeps its place. -/
def insertEntry (name : Text) (key : Int) : List (Text × Int) → List (Text × Int)
  | [] => [(name, key)]
  | entry :: rest =>
    if entry.1 = name then (name, key) :: rest else entry :: insertEntry name key rest

def insert (m : Keymap) (name : Text) (key : Int) : Keymap :=
  ⟨insertEntry name key m.entries⟩

def get? (m : Keymap) (name : Text) : Option Int :=
  m.entries.lookup name

/-- The keymap after overrides, the first of them that is no key being refused. -/
def override (m : Keymap) : List (Text × Int) → Except NoSuchKey Keymap
  | [] => .ok m
  | (name, key) :: rest =>
    if IsKey key then (m.insert (Text.upper name) key).override rest else .error ⟨key⟩

def build (overrides : List (Text × Int)) : Except NoSuchKey Keymap :=
  standard.override overrides

/-- The key that a name of the keyboard stands for; the empty name stands for none. -/
def find? (m : Keymap) (name : Text) : Option Int :=
  if name.isEmpty then none else m.get? (Text.upper name)

end Keymap

def keypadRows : List (List Int) :=
  [[0x1, 0x2, 0x3, 0xC],
   [0x4, 0x5, 0x6, 0xD],
   [0x7, 0x8, 0x9, 0xE],
   [0xA, 0x0, 0xB, 0xF]]

def keypadPosition (key : Int) : Except NoSuchKey (Nat × Nat) :=
  match keypadRows.findIdx? (fun row => row.contains key) with
  | none => .error ⟨key⟩
  | some row => .ok (row, (keypadRows.getD row []).idxOf key)

end Chip8
