import Chip8.Display
import Chip8.Fault
import Chip8.Instruction.Basic
import Chip8.Random

/-!
The state of the processor apart from its memory: registers, timers, stack, keys, display and
random generator. Numbers are integers without a width; the instructions keep them in range, and a
debugger may write any value.
-/

namespace Chip8

def programStart : Nat := 0x200

structure Cpu where
  v : Vector Int 16 := Vector.replicate 16 0
  i : Int := 0
  pc : Int := programStart
  sp : Int := 0
  dt : Int := 0
  st : Int := 0
  /-- Return addresses; those at and above the stack pointer are stale. -/
  stack : Vector Int 16 := Vector.replicate 16 0
  keys : Vector Bool 16 := Vector.replicate 16 false
  display : Display := .blank
  redraw : Bool := false
  random : Generator

namespace Cpu

def initial (random : Generator) : Cpu :=
  { random }

def setV (cpu : Cpu) (x : Fin 16) (value : Int) : Cpu :=
  { cpu with v := cpu.v.set x value }

def setWithFlag (cpu : Cpu) (x : Fin 16) (result : Int) (flag : Bool) : Cpu :=
  -- The flag goes last, so that it wins when the register is VF itself.
  (cpu.setV x (result % 256)).setV Register.flag (if flag then 1 else 0)

def jump (cpu : Cpu) (target : Int) : Cpu :=
  { cpu with pc := target % 0x10000 }

/-- The index of a stack entry; a negative number counts from the end. -/
def stackSlot? (slot : Int) : Option (Fin 16) :=
  if h : 0 ≤ slot ∧ slot < 16 then some ⟨slot.toNat, by omega⟩
  else if h : -16 ≤ slot ∧ slot < 0 then some ⟨(slot + 16).toNat, by omega⟩
  else none

def push (cpu : Cpu) (value : Int) : Except Fault Cpu :=
  if (stackDepth : Int) ≤ cpu.sp then .error (.stackOverflow cpu.sp)
  else
    match stackSlot? cpu.sp with
    | none => .error .noSlot
    | some slot => .ok { cpu with stack := cpu.stack.set slot (value % 0x10000), sp := cpu.sp + 1 }

/-- Pops a return address. A stack pointer beyond the stack has moved down when the entry turns out
to be missing. -/
def pop (cpu : Cpu) : Outcome Cpu Int :=
  if cpu.sp ≤ 0 then .fault .stackUnderflow cpu
  else
    let lowered := { cpu with sp := cpu.sp - 1 }
    match stackSlot? lowered.sp with
    | none => .fault .noSlot lowered
    | some slot => .done lowered.stack[slot] lowered

def key? (key : Int) : Option (Fin 16) :=
  if h : 0 ≤ key ∧ key < 16 then some ⟨key.toNat, by omega⟩ else none

def keyHeld (cpu : Cpu) (key : Int) : Except Fault Bool :=
  match key? key with
  | some k => .ok cpu.keys[k]
  | none => .error (.keypad key)

def heldKeys (cpu : Cpu) : List (Fin 16) :=
  (List.finRange 16).filter fun k => cpu.keys[k]

def leastHeldKey? (cpu : Cpu) : Option (Fin 16) :=
  (List.finRange 16).find? fun k => cpu.keys[k]

def setKey? (cpu : Cpu) (key : Int) (held : Bool) : Option Cpu :=
  (key? key).map fun (k : Fin 16) => { cpu with keys := cpu.keys.set k held }

/-- The picture, if it has changed since it was last taken, and the state with the mark cleared. -/
def takeFrame (cpu : Cpu) : Option Display × Cpu :=
  if cpu.redraw then (some cpu.display, { cpu with redraw := false }) else (none, cpu)

def tick (cpu : Cpu) : Cpu :=
  { cpu with
    dt := if 0 < cpu.dt then cpu.dt - 1 else cpu.dt
    st := if 0 < cpu.st then cpu.st - 1 else cpu.st }

end Cpu

end Chip8
