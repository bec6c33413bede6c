import Chip8.Bitwise
import Chip8.Bus.Block
import Chip8.Cpu
import Chip8.Font
import Chip8.Instruction.Decode

/-!
Execution. An instruction acts on the processor and the bus; the program counter already points
behind the instruction. An instruction that can fault meets its fault before it changes a register.
-/

namespace Chip8

structure Core where
  cpu : Cpu
  bus : Bus

namespace Core

def withCpu (core : Core) (cpu : Cpu) : Core :=
  { core with cpu }

def withBus (core : Core) (bus : Bus) : Core :=
  { core with bus }

end Core

namespace Cpu

def skipIf (cpu : Cpu) (condition : Bool) : Cpu :=
  if condition then cpu.jump (cpu.pc + instructionLength) else cpu

def waitForKey (cpu : Cpu) (x : Register) : Cpu :=
  match cpu.leastHeldKey? with
  | some key => cpu.setV x key.val
  -- Back to the instruction, which waits.
  | none => cpu.jump (cpu.pc - instructionLength)

def drawSprite (cpu : Cpu) (x y : Register) (sprite : List UInt8) : Cpu :=
  -- VF is cleared before the coordinates are read, so it counts as zero when it is one of them.
  let cpu := cpu.setV Register.flag 0
  let (display, hit) := cpu.display.draw (cpu.v.get x) (cpu.v.get y) sprite
  { cpu.setV Register.flag (if hit then 1 else 0) with display, redraw := true }

def setRegisters (cpu : Cpu) (bytes : List UInt8) : Cpu :=
  { cpu with v := Vector.ofFn fun k => match bytes[k.val]? with
      | some byte => (byte.toNat : Int)
      | none => cpu.v.get k }

def registersUpTo (cpu : Cpu) (x : Register) : List Int :=
  cpu.v.toList.take (x.val + 1)

end Cpu

/-- The three decimal digits of a byte. The first place of a greater number holds its surplus. -/
def decimalDigits (value : Int) : List Int :=
  [value / 100, value / 10 % 10, value % 10]

namespace Core

def become (core : Core) (cpu : Cpu) : Outcome Core Unit :=
  .done () (core.withCpu cpu)

def storeAtIndex (core : Core) (values : List Int) : Outcome Core Unit :=
  (core.bus.writeBlock core.cpu.i values).onState core.withBus

def loadAtIndex (core : Core) (count : Nat) (use : List UInt8 → Cpu) : Outcome Core Unit :=
  ((core.bus.readBlock core.cpu.i count).onState core.withBus).andThen fun bytes core =>
    core.become (use bytes)

end Core

def Instruction.execute (core : Core) (i : Instruction) : Outcome Core Unit :=
  let cpu := core.cpu
  match i with
  | sys _ | unknown _ => .done () core
  | cls => core.become { cpu with display := .blank, redraw := true }
  | ret =>
    (cpu.pop.andThen fun target cpu => .done () (cpu.jump (target + instructionLength))).onState
      core.withCpu
  | jump target => core.become { cpu with pc := target.val }
  | call target =>
    match cpu.push (cpu.pc - instructionLength) with
    | .error f => .fault f core
    | .ok cpu => core.become { cpu with pc := target.val }
  | skipEqualByte x byte => core.become (cpu.skipIf (cpu.v.get x = (byte.val : Int)))
  | skipUnequalByte x byte => core.become (cpu.skipIf (cpu.v.get x ≠ (byte.val : Int)))
  | skipEqual x y => core.become (cpu.skipIf (cpu.v.get x = cpu.v.get y))
  | skipUnequal x y => core.become (cpu.skipIf (cpu.v.get x ≠ cpu.v.get y))
  | setByte x byte => core.become (cpu.setV x byte.val)
  | addByte x byte => core.become (cpu.setV x ((cpu.v.get x + byte.val) % 256))
  | copy x y => core.become (cpu.setV x (cpu.v.get y))
  | or x y => core.become (cpu.setV x (Bitwise.either (cpu.v.get x) (cpu.v.get y)))
  | and x y => core.become (cpu.setV x (Bitwise.both (cpu.v.get x) (cpu.v.get y)))
  | xor x y => core.become (cpu.setV x (Bitwise.differ (cpu.v.get x) (cpu.v.get y)))
  | add x y =>
    let total := cpu.v.get x + cpu.v.get y
    core.become (cpu.setWithFlag x total (255 < total))
  | sub x y =>
    core.become (cpu.setWithFlag x (cpu.v.get x - cpu.v.get y) (cpu.v.get y ≤ cpu.v.get x))
  | subReverse x y =>
    core.become (cpu.setWithFlag x (cpu.v.get y - cpu.v.get x) (cpu.v.get x ≤ cpu.v.get y))
  | shiftRight x => core.become (cpu.setWithFlag x (cpu.v.get x / 2) (cpu.v.get x % 2 = 1))
  | shiftLeft x => core.become (cpu.setWithFlag x (cpu.v.get x * 2) (cpu.v.get x / 128 % 2 = 1))
  | setIndex target => core.become { cpu with i := target.val }
  | jumpOffset target => core.become (cpu.jump (cpu.v[0] + target.val))
  | random x mask =>
    let (byte, generator) := cpu.random.byte
    core.become ({ cpu with random := generator }.setV x (byte.toNat &&& mask.val : Nat))
  | draw x y height => core.loadAtIndex height.val (cpu.drawSprite x y)
  | skipPressed x =>
    match cpu.keyHeld (cpu.v.get x) with
    | .error f => .fault f core
    | .ok held => core.become (cpu.skipIf held)
  | skipReleased x =>
    match cpu.keyHeld (cpu.v.get x) with
    | .error f => .fault f core
    | .ok held => core.become (cpu.skipIf !held)
  | readDelay x => core.become (cpu.setV x cpu.dt)
  | waitKey x => core.become (cpu.waitForKey x)
  | setDelay x => core.become { cpu with dt := cpu.v.get x }
  | setSound x => core.become { cpu with st := cpu.v.get x }
  | addIndex x => core.become { cpu with i := (cpu.i + cpu.v.get x) % 0x10000 }
  | glyph x => core.become { cpu with i := cpu.v.get x * glyphHeight % 0x10000 }
  | decimal x => core.storeAtIndex (decimalDigits (cpu.v.get x))
  | store x => core.storeAtIndex (cpu.registersUpTo x)
  | load x => core.loadAtIndex (x.val + 1) cpu.setRegisters

end Chip8
