import Chip8.Fault

/-!
Devices that a bus can address: memory whose cells can be written, and read-only devices that
compute their answers. A device is addressed by the offset from its first cell.
-/

namespace Chip8

inductive Device where
  | ram (cells : Array UInt8)
  /-- A device that answers by a rule and ignores what is written to it. -/
  | readOnly (answer : Int → UInt8)

def IsByte (data : Int) : Prop :=
  0 ≤ data ∧ data ≤ 0xFF

instance (data : Int) : Decidable (IsByte data) :=
  inferInstanceAs (Decidable (_ ∧ _))

namespace Device

/-- Memory of `size` cells that hold zero, or `none` for a size that is not positive. -/
def zeroed? (size : Int) : Option Device :=
  if 0 < size then some (.ram (Array.replicate size.toNat 0)) else none

def sizeMessage : String := "RAM size must be a positive integer."

def size? : Device → Option Nat
  | ram cells => some cells.size
  | readOnly _ => none

def read (offset : Int) : Device → Except Fault UInt8
  | ram cells =>
    if h : 0 ≤ offset ∧ offset < cells.size then .ok cells[offset.toNat]
    else .error (.memory offset cells.size)
  | readOnly answer => .ok (answer offset)

/-- The device after a value was written at an offset. Memory refuses an offset beyond its cells
before it looks at the value. -/
def write (offset data : Int) : Device → Except Fault Device
  | ram cells =>
    if 0 ≤ offset ∧ offset < cells.size then
      if IsByte data then .ok (.ram (cells.setIfInBounds offset.toNat (UInt8.ofNat data.toNat)))
      else .error (.notByte data)
    else .error (.memory offset cells.size)
  | readOnly answer => .ok (.readOnly answer)

end Device

end Chip8
