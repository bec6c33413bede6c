import Chip8.Bus.Device

/-!
The bus. Devices are mapped to address windows; where windows overlap the one registered first
answers, and one device may be mapped to several windows. Reads and writes are logged once they
have succeeded; `peek` and `load` are not.
-/

namespace Chip8

structure Window where
  start : Nat
  stop : Nat
  device : Nat
deriving DecidableEq, Repr

namespace Window

def Contains (w : Window) (address : Int) : Prop :=
  w.start ≤ address ∧ address ≤ w.stop

instance (w : Window) (address : Int) : Decidable (w.Contains address) :=
  inferInstanceAs (Decidable (_ ∧ _))

end Window

inductive AccessKind where
  | read
  | write
deriving DecidableEq, Repr

structure Access where
  kind : AccessKind
  address : Int
  data : Int
deriving DecidableEq, Repr

/-- A bus: its devices, the windows in the order of their registration, and the log of accesses,
the oldest first. -/
structure Bus where
  devices : Array Device := #[]
  windows : Array Window := #[]
  log : Array Access := #[]

inductive RegistrationError where
  | badRange
  | noDevice
  | sizeMismatch (actual expected : Int)
deriving DecidableEq, Repr

def RegistrationError.message : RegistrationError → String
  | badRange =>
    "Invalid address range: start_address must be <= end_address and non-negative."
  | noDevice => "Device must be an instance of a class derived from Device."
  | sizeMismatch actual expected =>
    "Registered RAM device size (" ++ toString actual ++ " bytes) does not match the specified address range size ("
      ++ toString expected ++ " bytes)."

namespace Bus

/-- The bus with one more device, which no window maps yet; its index is `bus.devices.size`. -/
def attach (bus : Bus) (device : Device) : Bus :=
  { bus with devices := bus.devices.push device }

/-- Maps a device to the addresses `start` to `stop`. Memory has to fill its window exactly; a
window that overlaps earlier ones is allowed. -/
def register (bus : Bus) (start stop : Int) (device : Nat) : Except RegistrationError Bus :=
  if 0 ≤ start ∧ start ≤ stop then
    let mapped := { bus with windows := bus.windows.push ⟨start.toNat, stop.toNat, device⟩ }
    match bus.devices[device]? with
    | none => .error .noDevice
    | some found =>
      match found.size? with
      | none => .ok mapped
      | some size =>
        if (size : Int) = stop - start + 1 then .ok mapped
        else .error (.sizeMismatch size (stop - start + 1))
  else .error .badRange

/-- Where an address leads: the index of the device and the offset in it. -/
def resolve? (bus : Bus) (address : Int) : Option (Nat × Int) :=
  (bus.windows.find? (fun w => w.Contains address)).map fun w => (w.device, address - w.start)

/-- The byte at an address, without a trace in the log. -/
def peek (bus : Bus) (address : Int) : Except Fault UInt8 :=
  match bus.resolve? address with
  | none => .error (.unmapped address)
  | some (device, offset) =>
    match bus.devices[device]? with
    | none => .error (.unmapped address)
    | some found => found.read offset

/-- Writes a value without a trace in the log. -/
def load (bus : Bus) (address data : Int) : Except Fault Bus :=
  match bus.resolve? address with
  | none => .error (.unmapped address)
  | some (device, offset) =>
    match bus.devices[device]? with
    | none => .error (.unmapped address)
    | some found =>
      match found.write offset data with
      | .error f => .error f
      | .ok written => .ok { bus with devices := bus.devices.setIfInBounds device written }

def record (bus : Bus) (access : Access) : Bus :=
  { bus with log := bus.log.push access }

def read (bus : Bus) (address : Int) : Except Fault (UInt8 × Bus) :=
  match bus.peek address with
  | .error f => .error f
  | .ok byte => .ok (byte, bus.record ⟨.read, address, byte.toNat⟩)

def write (bus : Bus) (address data : Int) : Except Fault Bus :=
  match bus.load address data with
  | .error f => .error f
  | .ok written => .ok (written.record ⟨.write, address, data⟩)

def clearLog (bus : Bus) : Bus :=
  { bus with log := #[] }

end Bus

end Chip8
