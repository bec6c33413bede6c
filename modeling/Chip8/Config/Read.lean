import Chip8.Config.Basic
import Chip8.Document.Text

/-!
Reading a configuration from a document. Missing entries have their defaults; entries with unknown
names are reported and left out.
-/

namespace Chip8

inductive ReadError where
  | invalid (error : ConfigError)
  | notSection (name : String)
  | unorderedNames
  | tooLong
deriving DecidableEq, Repr

/-- What reading a configuration gave: its notices, and the configuration or why there is none. -/
structure Reading where
  notices : List Notice
  result : Except ReadError Config

namespace Config

def textOf (value : Document) : Except ReadError Text :=
  match value.text? with
  | some s => .ok s
  | none => .error .tooLong

def notInteger (value : Document) : Except ReadError Int :=
  match value.text? with
  | some s => .error (.invalid (.notInteger s))
  | none => .error .tooLong

/-- The integer that a value stands for: an integer or the text of one. Truth values are none. -/
def readInt : Document → Except ReadError Int
  | .int n => .ok n
  | .text s =>
    match Text.Numeral.integer? s with
    | some n => .ok n
    | none => notInteger (.text s)
  | value => notInteger value

def readIntAt (entries : List (Document × Document)) (name : String) (default : Int) :
    Except ReadError Int :=
  match Document.find? entries (.text name) with
  | some value => readInt value
  | none => .ok default

/-- The entries of a section; a missing section and one that counts as nothing have none. -/
def readSection (entries : List (Document × Document)) (name : String) :
    Except ReadError (List (Document × Document)) :=
  match Document.find? entries (.text name) with
  | none => .ok []
  | some (.mapping found) => .ok found
  | some value => if value.isEmpty then .ok [] else .error (.notSection name)

def readDisplay (entries : List (Document × Document)) : Except ReadError DisplaySettings := do
  let defaults : DisplaySettings := {}
  let scale ← readIntAt entries "scale" defaults.scale
  return {
    scale
    foreground := (Document.find? entries (.text "foreground")).getD defaults.foreground
    background := (Document.find? entries (.text "background")).getD defaults.background }

/-- Puts the entries of a section into a keymap, in upper case; of equal names the last counts. -/
def readKeymap (m : Keymap) : List (Document × Document) → Except ReadError Keymap
  | [] => .ok m
  | (name, value) :: rest => do
    let key ← readInt value
    let text ← textOf name
    if IsKey key then readKeymap (m.insert (Text.upper text) key) rest
    else .error (.invalid (.badKey text key))

def settingNames : List String :=
  ["architecture", "rom", "cpu_hz", "timer_hz", "seed", "display", "keymap"]

def unknownKeys (entries : List (Document × Document)) : List Document :=
  (entries.map (·.1)).filter fun key => !settingNames.any fun name => key.sameKey (.text name)

def comparable : Document → Document → Bool
  | .text _, .text _ => true
  | a, b => a.number?.isSome && b.number?.isSome

def keyLE : Document → Document → Bool
  | .text s, .text t => s.isBefore t
  | a, b =>
    match a.number?, b.number? with
    | some x, some y => x.order y ≠ .gt
    | _, _ => true

/-- The notices on unknown keys, in ascending order of the keys. -/
def unknownNotices (entries : List (Document × Document)) : Except ReadError (List Notice) :=
  match unknownKeys entries with
  | [] => .ok []
  | key :: rest =>
    if rest.all (comparable key) then
      .ok (((key :: rest).mergeSort keyLE).map fun key => .settingIgnored (key.text?.getD []))
    else .error .unorderedNames

def readSeed (entries : List (Document × Document)) : Except ReadError (Option Int) :=
  match Document.find? entries (.text "seed") with
  | none | some .null => .ok none
  | some value => (readInt value).map some

def readHead (entries : List (Document × Document)) : Except ReadError Config := do
  let defaults : Config := {}
  let architecture ←
    textOf ((Document.find? entries (.text "architecture")).getD (.text defaults.architecture))
  let display ← readDisplay (← readSection entries "display")
  let keymap ← readKeymap {} (← readSection entries "keymap")
  return { architecture := Text.upper architecture, display, keymap }

def readTail (entries : List (Document × Document)) (c : Config) : Except ReadError Config := do
  let defaults : Config := {}
  let cpuHz ← readIntAt entries "cpu_hz" defaults.cpuHz
  let timerHz ← readIntAt entries "timer_hz" defaults.timerHz
  let seed ← readSeed entries
  return { c with
    rom := (Document.find? entries (.text "rom")).getD .null
    cpuHz, timerHz, seed }

def readEntries (entries : List (Document × Document)) : Reading :=
  match readHead entries with
  | .error e => ⟨[], .error e⟩
  | .ok head =>
    match unknownNotices entries with
    | .error e => ⟨[], .error e⟩
    | .ok notices => ⟨notices, readTail entries head⟩

def ofDocument : Document → Reading
  | .mapping entries => readEntries entries
  | value => ⟨[], .error (.invalid (.notMapping value.kindName))⟩

end Config

end Chip8
