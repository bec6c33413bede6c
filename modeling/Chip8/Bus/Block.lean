import Chip8.Bus.Basic

/-!
Blocks of consecutive addresses. The whole range is checked before the first access, so that a
block beyond the end of the address space has no effect; a hole in the map stops a block midway and
leaves the accesses made so far.
-/

namespace Chip8

/-- Checks that the addresses from `address` on, `count` of them, lie in the address space. The
fault names the last address of the range, or the first one if that is negative. -/
def checkRange (address count : Int) : Except Fault Unit :=
  if address < 0 then .error (.unmapped address)
  else if 0 < count ∧ (memorySize : Int) ≤ address + count - 1 then
    .error (.unmapped (address + count - 1))
  else .ok ()

namespace Bus

def readBytes (bus : Bus) (address : Int) : Nat → Outcome Bus (List UInt8)
  | 0 => .done [] bus
  | count + 1 =>
    match bus.read address with
    | .error f => .fault f bus
    | .ok (byte, bus) =>
      (bus.readBytes (address + 1) count).andThen fun bytes bus => .done (byte :: bytes) bus

def writeBytes (bus : Bus) (address : Int) : List Int → Outcome Bus Unit
  | [] => .done () bus
  | value :: rest =>
    match bus.write address value with
    | .error f => .fault f bus
    | .ok bus => bus.writeBytes (address + 1) rest

def loadBytes (bus : Bus) (address : Int) : List Int → Outcome Bus Unit
  | [] => .done () bus
  | value :: rest =>
    match bus.load address value with
    | .error f => .fault f bus
    | .ok bus => bus.loadBytes (address + 1) rest

/-- Reads a block of `count` bytes; none for a count that is not positive. -/
def readBlock (bus : Bus) (address count : Int) : Outcome Bus (List UInt8) :=
  match checkRange address count with
  | .error f => .fault f bus
  | .ok () => bus.readBytes address count.toNat

def writeBlock (bus : Bus) (address : Int) (values : List Int) : Outcome Bus Unit :=
  match checkRange address values.length with
  | .error f => .fault f bus
  | .ok () => bus.writeBytes address values

def peekBytes (bus : Bus) (address : Int) : Nat → Except Fault (List UInt8)
  | 0 => .ok []
  | count + 1 =>
    match bus.peek address with
    | .error f => .error f
    | .ok byte => (bus.peekBytes (address + 1) count).map (byte :: ·)

end Bus

end Chip8
