import Chip8.Notice
import Chip8.Program

/-!
Error reports and the families they belong to. A bounds fault counts also as a failed index, and a
configuration error also as a bad value.
-/

namespace Chip8

inductive ErrorFamily where
  | chip8
  | bounds
  | configuration
  | index
  | value
deriving DecidableEq, Repr

inductive Report where
  | unknownOpcode (opcode pc : Int)
  | memory (address size : Int)
  | keypad (key : Int)
  | programTooLarge (error : ProgramTooLarge)
  | stack (text : String)
  | bounds (text : String)
  | configuration (text : String)
  | other (text : String)
deriving DecidableEq, Repr

namespace Report

def message : Report → String
  | unknownOpcode opcode pc => unknownOpcodeText opcode pc
  | memory address size => (Fault.memory address size).message
  | keypad key => (Fault.keypad key).message
  | programTooLarge e => e.message
  | stack text | bounds text | configuration text | other text => text

def families : Report → List ErrorFamily
  | unknownOpcode _ _ | other _ => [.chip8]
  | memory _ _ | keypad _ | stack _ | bounds _ => [.chip8, .bounds, .index]
  | programTooLarge _ | configuration _ => [.chip8, .configuration, .value]

end Report

end Chip8
