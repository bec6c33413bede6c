import Chip8.Bus.Block
import Chip8.Cpu
import Chip8.Font

/-!
Program images. The font goes to the bottom of the memory and the bytes of the program to 0x200; an
image that does not fit is refused before anything is written.
-/

namespace Chip8

abbrev Program := List UInt8

def maxProgramSize : Nat := memorySize - programStart

structure ProgramTooLarge where
  size : Int
  capacity : Int := maxProgramSize
deriving DecidableEq, Repr

def ProgramTooLarge.message (e : ProgramTooLarge) : String :=
  "Program image of " ++ toString e.size ++ " bytes exceeds the " ++ toString e.capacity
    ++ " bytes available above 0x200."

inductive InstallError where
  | tooLarge (error : ProgramTooLarge)
  | fault (f : Fault)
deriving DecidableEq, Repr

/-- What came of loading a program, and the bus that it left. -/
structure Installation where
  result : Except InstallError Unit
  bus : Bus

def byteValues (bytes : List UInt8) : List Int :=
  bytes.map fun b => b.toNat

namespace Bus

/-- Loads the font and then the bytes of a program, whatever its size. -/
def loadImage (bus : Bus) (program : Program) : Outcome Bus Unit :=
  (bus.loadBytes fontStart (byteValues font)).andThen fun _ bus =>
    bus.loadBytes programStart (byteValues program)

def loadProgram (bus : Bus) (program : Program) : Except ProgramTooLarge (Outcome Bus Unit) :=
  if program.length ≤ maxProgramSize then .ok (bus.loadImage program)
  else .error { size := program.length }

/-- Loads a program as an action on the bus. A program that is too large leaves the bus as it was,
and a hole in the map stops the image midway. -/
def install (bus : Bus) (program : Program) : Installation :=
  match bus.loadProgram program with
  | .error e => ⟨.error (.tooLarge e), bus⟩
  | .ok ⟨.error f, left⟩ => ⟨.error (.fault f), left⟩
  | .ok ⟨.ok (), loaded⟩ => ⟨.ok (), loaded⟩

/-- The standard map: 4096 cells of memory at the addresses 0x000 to 0xFFF. -/
def standard : Bus where
  devices := #[.ram (Array.replicate memorySize 0)]
  windows := #[⟨0, 0xFFF, 0⟩]

end Bus

end Chip8
