import Chip8.Notice
import Chip8.Text.Numeral
import Chip8.Text.Quoted

/-!
The arguments of the command line. First every word is classified by itself, which may find an
ambiguous option; then the words are taken in order. Long options may be shortened and may carry
their value behind an equals sign; behind two dashes every word is an operand. The first operand
names the program. Two dashes as the value behind an equals sign leave an option without a value.
-/

namespace Chip8.CommandLine

inductive Setting where
  | config
  | cpuHz
  | seed
  | headless
  | logLevel
deriving DecidableEq, Repr

def Setting.name : Setting → String
  | config => "--config"
  | cpuHz => "--cpu-hz"
  | seed => "--seed"
  | headless => "--headless"
  | logLevel => "--log-level"

def longOptions : List (String × Option Setting) :=
  ("--help", none) ::
    [Setting.config, .cpuHz, .seed, .headless, .logLevel].map fun s => (s.name, some s)

inductive UsageError where
  | ambiguous (word : Text) (names : List String)
  | missingValue (setting : Setting)
  | notInteger (setting : Setting) (text : Text)
  | noLevel (text : Text)
  | ignoredValue (text : Text)
  | unrecognized (words : List Text)
deriving DecidableEq, Repr

def UsageError.message (e : UsageError) : String :=
  "chip8-tracer: error: " ++ match e with
  | ambiguous word names =>
    "ambiguous option: " ++ word.written ++ " could match " ++ ", ".intercalate names
  | missingValue setting => "argument " ++ setting.name ++ ": expected one argument"
  | notInteger setting text =>
    "argument " ++ setting.name ++ ": invalid int value: " ++ Text.Quoted.quoted text
  | noLevel text =>
    "argument --log-level: invalid choice: " ++ Text.Quoted.quoted text
      ++ " (choose from 'DEBUG', 'INFO', 'WARNING', 'ERROR')"
  | ignoredValue text => "argument -h/--help: ignored explicit argument " ++ Text.Quoted.quoted text
  | unrecognized words => "unrecognized arguments: " ++ " ".intercalate (words.map Text.written)

inductive Word where
  | operand (text : Text)
  | setting (s : Setting) (value? : Option Text)
  | help
  | helpWith (value : Text)
  | stray (text : Text)
  | separator
deriving DecidableEq, Repr

namespace Word

def ofOption : Option Setting → Option Text → Word
  | some s, value? => setting s value?
  | none, none => help
  | none, some value => helpWith value

/-- The letters behind `-h` in one word: each further `h` asks for help again, and what follows the
last of them would be a value. -/
def helpCluster : Text → Word
  | [.char 'h'] => help
  | .char 'h' :: rest => helpCluster rest
  | value => helpWith value

def isDigits (cs : List Char) : Bool :=
  !cs.isEmpty && cs.all fun c => (Text.decimalDigit? c).isSome

/-- Whether a word is a negative number without an exponent. A line feed may end it. -/
def isNegativeNumber (cs : List Char) : Bool :=
  let cs := if cs.getLast? = some '\n' then cs.dropLast else cs
  match cs with
  | '-' :: rest =>
    let (whole, part) := rest.span (· ≠ '.')
    match part with
    | [] => isDigits whole
    | _ :: part => (whole.isEmpty || isDigits whole) && isDigits part
  | _ => false

def splitValue (word : Text) : Text × Option Text :=
  let (name, rest) := word.span (· ≠ .char '=')
  (name,
    match rest with
    | [] => none
    | _ :: value => some value)

def ofUnknown (word : Text) : Word :=
  if word.chars?.any isNegativeNumber || word.contains (.char ' ') then operand word
  else stray word

def ofLong (word : Text) : Except UsageError Word :=
  let (name, value?) := splitValue word
  match longOptions.find? (fun o => name = Text.ofString o.1) with
  | some (_, found) => .ok (ofOption found value?)
  | none =>
    match longOptions.filter (fun o => name.isPrefixOf (Text.ofString o.1)) with
    | [] => .ok (ofUnknown word)
    | [(_, found)] => .ok (ofOption found value?)
    | several => .error (.ambiguous word (several.map (·.1)))

def classify (word : Text) : Except UsageError Word :=
  match word with
  | [.char '-'] => .ok (operand word)
  | [.char '-', .char 'h'] => .ok help
  | .char '-' :: .char 'h' :: .char '=' :: rest => .ok (helpCluster rest)
  | .char '-' :: .char 'h' :: rest => .ok (helpCluster rest)
  | .char '-' :: .char '-' :: _ => ofLong word
  | .char '-' :: _ => .ok (ofUnknown word)
  | _ => .ok (operand word)

def twoDashes : Text := "--"

def classifyAll : List Text → Except UsageError (List Word)
  | [] => .ok []
  | word :: rest =>
    if word = twoDashes then .ok (separator :: rest.map operand)
    else do
      let first ← classify word
      let more ← classifyAll rest
      return first :: more

end Word

inductive Given (α : Type) where
  | absent
  | blank
  | value (a : α)
deriving DecidableEq, Repr

structure Arguments where
  rom : Option Text := none
  config : Option Text := none
  cpuHz : Given Int := .absent
  seed : Given Int := .absent
  headless : Given Int := .absent
  logLevel : Given Level := .value .info
deriving DecidableEq, Repr

inductive Request where
  | help
  | start (arguments : Arguments)
deriving DecidableEq, Repr

namespace Arguments

def integer (s : Setting) (text : Text) : Except UsageError Int :=
  match text.chars?.bind Text.Numeral.decimal? with
  | some n => .ok n
  | none => .error (.notInteger s text)

/-- The arguments with an option that has no value. A configuration file without a name is none. -/
def setBlank (a : Arguments) : Setting → Arguments
  | .config => { a with config := none }
  | .cpuHz => { a with cpuHz := .blank }
  | .seed => { a with seed := .blank }
  | .headless => { a with headless := .blank }
  | .logLevel => { a with logLevel := .blank }

def set (a : Arguments) (s : Setting) (text : Text) : Except UsageError Arguments :=
  match s with
  | .config => .ok { a with config := some text }
  | .cpuHz => (integer s text).map fun n => { a with cpuHz := .value n }
  | .seed => (integer s text).map fun n => { a with seed := .value n }
  | .headless => (integer s text).map fun n => { a with headless := .value n }
  | .logLevel =>
    match Level.ofName? text.written with
    | some l => .ok { a with logLevel := .value l }
    | none => .error (.noLevel text)

def setInWord (a : Arguments) (s : Setting) (text : Text) : Except UsageError Arguments :=
  if text = Word.twoDashes then .ok (a.setBlank s) else a.set s text

/-- The place for the operand: free, taken by the word just before, or taken earlier. -/
inductive Slot where
  | free
  | fresh
  | closed
deriving DecidableEq, Repr

def Slot.settled : Slot → Slot
  | free => free
  | _ => closed

/-- Takes the words in order. What no place is left for is reported at the end. The separator
belongs to the operand before or behind it. -/
def collect (a : Arguments) (slot : Slot) (extras : List Text) :
    List Word → Except UsageError Request
  | [] => if extras.isEmpty then .ok (.start a) else .error (.unrecognized extras)
  | .help :: _ => .ok .help
  | .helpWith value :: _ => .error (.ignoredValue value)
  | .stray text :: rest => collect a slot.settled (extras ++ [text]) rest
  | .setting s (some value) :: rest => do
    collect (← a.setInWord s value) slot.settled extras rest
  | .setting s none :: .operand value :: rest => do
    collect (← a.set s value) slot.settled extras rest
  | .setting s none :: _ => .error (.missingValue s)
  | .separator :: rest =>
    match slot with
    | .free => collect a .free extras rest
    | .fresh => collect a .closed extras rest
    | .closed => collect a .closed (extras ++ [Word.twoDashes]) rest
  | .operand text :: rest =>
    match slot with
    | .free => collect { a with rom := some text } .fresh extras rest
    | _ => collect a .closed (extras ++ [text]) rest

end Arguments

def Request.ofWords (words : List Text) : Except UsageError Request := do
  Arguments.collect {} .free [] (← Word.classifyAll words)

end Chip8.CommandLine
