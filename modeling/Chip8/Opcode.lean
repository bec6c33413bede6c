/-!
Instruction words and their fields. A word is an integer of any size: a number above 16 bits keeps
its high part, and a negative one is read as a two's complement number without end, so every field
is a remainder and always in range.
-/

namespace Chip8

/-- An instruction word. Words in memory have 16 bits; the decoder takes any integer. -/
abbrev Opcode := Int

def instructionLength : Nat := 2

namespace Opcode

def x (op : Opcode) : Fin 16 :=
  ⟨(op / 256 % 16).toNat, by omega⟩

def y (op : Opcode) : Fin 16 :=
  ⟨(op / 16 % 16).toNat, by omega⟩

def n (op : Opcode) : Fin 16 :=
  ⟨(op % 16).toNat, by omega⟩

def kk (op : Opcode) : Fin 256 :=
  ⟨(op % 256).toNat, by omega⟩

def nnn (op : Opcode) : Fin 4096 :=
  ⟨(op % 4096).toNat, by omega⟩

def high (op : Opcode) : Fin 256 :=
  ⟨(op / 256 % 256).toNat, by omega⟩

def ofBytes (hi lo : UInt8) : Opcode :=
  hi.toNat * 256 + lo.toNat

end Opcode

end Chip8
