import Chip8.Text.Basic
import Chip8.Text.Hex
import Chip8.Text.Printable

/-!
Quoted text: the code points between quotes, with escapes for those that are not printable. Single
quotes are used unless the text has one and no double quote.
-/

namespace Chip8.Text.Quoted

def codeEscape (letter : Char) (width code : Nat) : List Char :=
  '\\' :: letter :: (Hex.padded [] Hex.lowerDigit width code).toList

/-- A character between quotes: backslash, quote and the usual blanks behind a backslash, and the
code point of every other character that is not printable. -/
def escape (quote c : Char) : List Char :=
  if c = quote ∨ c = '\\' then ['\\', c]
  else if c = '\n' then ['\\', 'n']
  else if c = '\r' then ['\\', 'r']
  else if c = '\t' then ['\\', 't']
  else if isPrintable c then [c]
  else if c.toNat < 0x100 then codeEscape 'x' 2 c.toNat
  else if c.toNat < 0x10000 then codeEscape 'u' 4 c.toNat
  else codeEscape 'U' 8 c.toNat

def escapePoint (quote : Char) : CodePoint → List Char
  | .char c => escape quote c
  | .surrogate n => codeEscape 'u' 4 (CodePoint.surrogate n).toNat

def quoteOf (t : Text) : Char :=
  if t.contains (.char '\'') && !t.contains (.char '"') then '"' else '\''

def quoted (t : Text) : String :=
  let quote := quoteOf t
  String.ofList (quote :: t.flatMap (escapePoint quote) ++ [quote])

end Chip8.Text.Quoted
