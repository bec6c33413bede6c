import Chip8.Text.Quoted

/-!
Files as the rest of the library sees them: a name leads to bytes or to the reason why there are
none.
-/

namespace Chip8

inductive FileError where
  | notFound (name : Text)
  | isDirectory (name : Text)
  | notDirectory (name : Text)
  | nameTooLong (name : Text)
  | badDescriptor
  | negativeDescriptor
  | nullCharacter
  | notEncodable
  | notName
deriving DecidableEq, Repr

namespace FileError

/-- Whether the operating system refused the file. The other errors are found before it is asked. -/
def isRefusal : FileError → Bool
  | notFound _ | isDirectory _ | notDirectory _ | nameTooLong _ | badDescriptor => true
  | negativeDescriptor | nullCharacter | notEncodable | notName => false

def message : FileError → String
  | notFound name => "[Errno 2] No such file or directory: " ++ Text.Quoted.quoted name
  | isDirectory name => "[Errno 21] Is a directory: " ++ Text.Quoted.quoted name
  | notDirectory name => "[Errno 20] Not a directory: " ++ Text.Quoted.quoted name
  | nameTooLong name => "[Errno 36] File name too long: " ++ Text.Quoted.quoted name
  | badDescriptor => "[Errno 9] Bad file descriptor"
  | negativeDescriptor => "negative file descriptor"
  | nullCharacter => "embedded null byte"
  | notEncodable | notName => ""

/-- The error for a number in place of a name. Only numbers of 32 bits can stand for open files. -/
def ofDescriptor (n : Int) : FileError :=
  if n < -0x80000000 ∨ 0x80000000 ≤ n then notName
  else if n < 0 then negativeDescriptor
  else badDescriptor

end FileError

/-- The byte that a surrogate stands for in the name of a file, if it stands for one: the second
halves from 0xDC80 on stand for the bytes from 0x80 on that belong to no character. -/
def surrogateByte? (n : Fin 0x800) : Option UInt8 :=
  if 0x480 ≤ n.val ∧ n.val < 0x500 then some (UInt8.ofNat (n.val - 0x400)) else none

def nameBytes? : Text → Option (List UInt8)
  | [] => some []
  | .char c :: rest => (nameBytes? rest).map (String.utf8EncodeChar c ++ ·)
  | .surrogate n :: rest => do
    let byte ← surrogateByte? n
    let bytes ← nameBytes? rest
    return byte :: bytes

abbrev FileReader (m : Type → Type) := Text → m (Except FileError (List UInt8))

end Chip8
