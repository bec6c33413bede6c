import Chip8.Text.Numeral

/-!
Why a YAML text holds no document.
-/

namespace Chip8.Yaml

inductive LoadError where
  | malformed
  | noCodePoint
  | codeTooLarge
  | noDigits (base : Nat)
  | tooManyDigits (count : Nat)
  /-- A part of a number in base sixty stands at a place that no floating-point number reaches. -/
  | placeTooHigh
  | notText
deriving DecidableEq, Repr

def LoadError.message : LoadError → String
  | malformed | codeTooLarge | placeTooHigh | notText => ""
  | noCodePoint => "chr() arg not in range(0x110000)"
  | noDigits base => "invalid literal for int() with base " ++ toString base ++ ": ''"
  | tooManyDigits count =>
    "Exceeds the limit (" ++ toString Text.Numeral.maxDecimalDigits
      ++ " digits) for integer string conversion: value has " ++ toString count
      ++ " digits; use sys.set_int_max_str_digits() to increase the limit"

end Chip8.Yaml
