import Chip8.Document.Text
import Chip8.Keymap
import Chip8.Notice

/-!
The configuration of a system, and the check that it can be built.
-/

namespace Chip8

/-- How the display is shown. The colours are passed on as they were written. -/
structure DisplaySettings where
  scale : Int := 8
  foreground : Document := .text "#FFFFFF"
  background : Document := .text "#000000"

structure Config where
  architecture : Text := "CHIP8"
  /-- The name of the program file, if one is named; not checked before it is opened. -/
  rom : Document := .null
  cpuHz : Int := 500
  timerHz : Int := 60
  seed : Option Int := none
  display : DisplaySettings := {}
  keymap : Keymap := {}

inductive ConfigError where
  | notMapping (kind : String)
  | notInteger (text : Text)
  | badKey (name : Text) (key : Int)
  | unsupported (architecture : Text)
  | notPositive (setting : String) (value : Int)
deriving DecidableEq, Repr

/-- The sentence that reports the error. An error over an integer that is too long for a text has
none. -/
def ConfigError.message? : ConfigError → Option String
  | notMapping kind => some ("Configuration root must be a mapping, got " ++ kind)
  | notInteger text => some ("Invalid integer format: " ++ text.written)
  | badKey name key =>
    (intText? key).map fun digits =>
      "Keymap entry '" ++ name.written ++ "' maps to invalid key " ++ digits
  | unsupported architecture => some ("Unsupported architecture: " ++ architecture.written)
  | notPositive setting value =>
    (intText? value).map fun digits => setting ++ " must be positive, got " ++ digits

namespace Config

def isSupported (c : Config) : Bool :=
  c.architecture = "CHIP8"

/-- Checks that a system can be built; answers the notices that the check gives. -/
def validate (c : Config) : Except ConfigError (List Notice) :=
  if !c.isSupported then .error (.unsupported c.architecture)
  else if c.cpuHz ≤ 0 then .error (.notPositive "cpu_hz" c.cpuHz)
  else if c.timerHz ≤ 0 then .error (.notPositive "timer_hz" c.timerHz)
  else if c.display.scale ≤ 0 then .error (.notPositive "display.scale" c.display.scale)
  else if c.cpuHz < c.timerHz then .ok [.timersOutpace c.timerHz c.cpuHz]
  else .ok []

end Config

end Chip8
