import Chip8.Opcode

/-!
The instruction set. An instruction holds exactly the operands that its execution reads, and its
form is the row of the instruction table to which it belongs.
-/

namespace Chip8

abbrev Register := Fin 16

def Register.flag : Register := 15

/-- The rows of the instruction table, and one more form for the words that fit no row. -/
inductive Form where
  | sys | cls | ret | jump | call
  | skipEqualByte | skipUnequalByte | skipEqual
  | setByte | addByte
  | copy | or | and | xor | add | sub | shiftRight | subReverse | shiftLeft
  | skipUnequal | setIndex | jumpOffset | random | draw
  | skipPressed | skipReleased
  | readDelay | waitKey | setDelay | setSound | addIndex | glyph | decimal | store | load
  | unknown
deriving DecidableEq, Repr

inductive Instruction where
  /-- A call of machine code, which this machine ignores. -/
  | sys (target : Fin 4096)
  | cls
  | ret
  | jump (target : Fin 4096)
  | call (target : Fin 4096)
  | skipEqualByte (x : Register) (byte : Fin 256)
  | skipUnequalByte (x : Register) (byte : Fin 256)
  | skipEqual (x y : Register)
  | setByte (x : Register) (byte : Fin 256)
  | addByte (x : Register) (byte : Fin 256)
  | copy (x y : Register)
  | or (x y : Register)
  | and (x y : Register)
  | xor (x y : Register)
  | add (x y : Register)
  /-- Vx becomes Vx less Vy. -/
  | sub (x y : Register)
  | shiftRight (x : Register)
  /-- Vx becomes Vy less Vx. -/
  | subReverse (x y : Register)
  | shiftLeft (x : Register)
  | skipUnequal (x y : Register)
  | setIndex (target : Fin 4096)
  /-- Jumps to the target plus V0. -/
  | jumpOffset (target : Fin 4096)
  | random (x : Register) (mask : Fin 256)
  | draw (x y : Register) (height : Fin 16)
  | skipPressed (x : Register)
  | skipReleased (x : Register)
  | readDelay (x : Register)
  | waitKey (x : Register)
  | setDelay (x : Register)
  | setSound (x : Register)
  | addIndex (x : Register)
  | glyph (x : Register)
  | decimal (x : Register)
  | store (x : Register)
  | load (x : Register)
  | unknown (opcode : Opcode)
deriving DecidableEq, Repr

namespace Instruction

def form : Instruction → Form
  | sys _ => .sys
  | cls => .cls
  | ret => .ret
  | jump _ => .jump
  | call _ => .call
  | skipEqualByte _ _ => .skipEqualByte
  | skipUnequalByte _ _ => .skipUnequalByte
  | skipEqual _ _ => .skipEqual
  | setByte _ _ => .setByte
  | addByte _ _ => .addByte
  | copy _ _ => .copy
  | or _ _ => .or
  | and _ _ => .and
  | xor _ _ => .xor
  | add _ _ => .add
  | sub _ _ => .sub
  | shiftRight _ => .shiftRight
  | subReverse _ _ => .subReverse
  | shiftLeft _ => .shiftLeft
  | skipUnequal _ _ => .skipUnequal
  | setIndex _ => .setIndex
  | jumpOffset _ => .jumpOffset
  | random _ _ => .random
  | draw _ _ _ => .draw
  | skipPressed _ => .skipPressed
  | skipReleased _ => .skipReleased
  | readDelay _ => .readDelay
  | waitKey _ => .waitKey
  | setDelay _ => .setDelay
  | setSound _ => .setSound
  | addIndex _ => .addIndex
  | glyph _ => .glyph
  | decimal _ => .decimal
  | store _ => .store
  | load _ => .load
  | unknown _ => .unknown

end Instruction

end Chip8
