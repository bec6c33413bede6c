import Chip8.Program

/-! The standard map. A bus that maps one memory of 4096 cells to the addresses 0x000 to 0xFFF is
determined by the bytes of the cells and by its log. The laws below say what every access makes of
the two. A block beyond the last address is refused with both unchanged. -/

namespace Chip8

abbrev Memory := Vector UInt8 4096

namespace Memory

def zero : Memory :=
  Vector.replicate 4096 0

/-- The byte at an address, and zero behind the last cell. -/
def byte (memory : Memory) (a : Nat) : UInt8 :=
  memory[a]?.getD 0

def put (memory : Memory) (a : Nat) (b : UInt8) : Memory :=
  memory.setIfInBounds a b

def putAll (memory : Memory) (a : Nat) : List UInt8 → Memory
  | [] => memory
  | b :: rest => (memory.put a b).putAll (a + 1) rest

def slice (memory : Memory) (a : Nat) : (count : Nat) → List UInt8
  | 0 => []
  | count + 1 => memory.byte a :: memory.slice (a + 1) count

def readLog (memory : Memory) (a : Nat) : (count : Nat) → List Access
  | 0 => []
  | count + 1 => ⟨.read, a, (memory.byte a).toNat⟩ :: memory.readLog (a + 1) count

def writeLog (a : Nat) : List UInt8 → List Access
  | [] => []
  | b :: rest => ⟨.write, a, b.toNat⟩ :: writeLog (a + 1) rest

theorem byte_eq_getElem (memory : Memory) {a : Nat} (h : a < 4096) : memory.byte a = memory[a] := by
  simp [byte, h]

theorem byte_put (memory : Memory) {a : Nat} (h : a < 4096) (b : UInt8) (k : Nat) :
    (memory.put a b).byte k = if k = a then b else memory.byte k := by
  unfold byte put
  rw [Vector.getElem?_setIfInBounds]
  by_cases same : a = k
  · subst same
    simp [h]
  · have other : ¬ k = a := fun e => same e.symm
    simp [same, other]

/-- A block that lies in the cells replaces exactly the cells of its range. -/
theorem byte_putAll (memory : Memory) (a : Nat) (bytes : List UInt8)
    (fits : a + bytes.length ≤ 4096) (k : Nat) :
    (memory.putAll a bytes).byte k =
      if a ≤ k ∧ k < a + bytes.length then bytes[k - a]?.getD 0 else memory.byte k := by
  induction bytes generalizing memory a with
  | nil =>
    have empty : ¬ (a ≤ k ∧ k < a) := by omega
    simp [putAll, empty]
  | cons b rest ih =>
    rw [List.length_cons] at fits
    rw [putAll, ih (memory.put a b) (a + 1) (by omega), byte_put memory (by omega),
      List.length_cons]
    by_cases first : k = a
    · subst first
      have later : ¬ (k + 1 ≤ k ∧ k < k + 1 + rest.length) := by omega
      rw [if_neg later, if_pos rfl, if_pos (by omega), Nat.sub_self]
      rfl
    · by_cases inside : a + 1 ≤ k ∧ k < a + 1 + rest.length
      · have shifted : k - a = k - (a + 1) + 1 := by omega
        rw [if_pos inside, if_pos (by omega), shifted, List.getElem?_cons_succ]
      · rw [if_neg inside, if_neg first, if_neg (by omega)]

@[simp] theorem length_slice (memory : Memory) (a count : Nat) :
    (memory.slice a count).length = count := by
  induction count generalizing a with
  | zero => rfl
  | succ count ih => simp [slice, ih]

theorem getElem?_slice (memory : Memory) (a count : Nat) {k : Nat} (h : k < count) :
    (memory.slice a count)[k]? = some (memory.byte (a + k)) := by
  induction count generalizing a k with
  | zero => omega
  | succ count ih =>
    cases k with
    | zero => simp [slice]
    | succ k =>
      rw [slice, List.getElem?_cons_succ, ih (a + 1) (by omega)]
      congr 2
      omega

@[simp] theorem getElem_slice (memory : Memory) (a count : Nat) {k : Nat}
    (h : k < (memory.slice a count).length) : (memory.slice a count)[k] = memory.byte (a + k) := by
  apply Option.some.inj
  rw [← List.getElem?_eq_getElem h]
  exact getElem?_slice memory a count (by simpa using h)

theorem put_byte (memory : Memory) (a : Nat) : memory.put a (memory.byte a) = memory := by
  apply Vector.ext
  intro k inside
  rw [put, Vector.getElem_setIfInBounds inside]
  split
  next same =>
    subst same
    exact memory.byte_eq_getElem inside
  · rfl

/-- Cells that are written over with what they hold stay as they are. -/
theorem putAll_slice (memory : Memory) (a count : Nat) :
    memory.putAll a (memory.slice a count) = memory := by
  induction count generalizing a with
  | zero => rfl
  | succ count ih => rw [slice, putAll, put_byte, ih]

end Memory

@[simp] theorem byteValues_cons (b : UInt8) (rest : List UInt8) :
    byteValues (b :: rest) = (b.toNat : Int) :: byteValues rest := rfl

@[simp] theorem length_byteValues (bytes : List UInt8) :
    (byteValues bytes).length = bytes.length := by
  simp [byteValues]

namespace Bus

/-- The bus that holds bytes in the cells of the standard map, with a log. -/
def holding (memory : Memory) (log : Array Access) : Bus where
  devices := #[.ram memory.toArray]
  windows := #[⟨0, 0xFFF, 0⟩]
  log := log

@[simp] theorem clearLog_holding (memory : Memory) (log : Array Access) :
    (holding memory log).clearLog = holding memory #[] := rfl

theorem standard_eq_holding : standard = holding .zero #[] := rfl

variable (memory : Memory) (log : Array Access)

theorem resolve?_holding {a : Nat} (h : a < 4096) :
    (holding memory log).resolve? a = some (0, (a : Int)) := by
  have inside : Window.Contains ⟨0, 0xFFF, 0⟩ (a : Int) := by
    simp only [Window.Contains]
    omega
  simp [resolve?, holding, inside]

theorem peek_holding {a : Nat} (h : a < 4096) :
    (holding memory log).peek a = .ok (memory.byte a) := by
  have below : (a : Int) < 4096 := by omega
  have cell : Device.read (a : Int) (.ram memory.toArray) = .ok memory[a] := by
    simp [Device.read, below]
  rw [peek, resolve?_holding memory log h]
  simpa [holding, Memory.byte_eq_getElem memory h] using cell

theorem load_holding {a : Nat} (h : a < 4096) (b : UInt8) :
    (holding memory log).load a b.toNat = .ok (holding (memory.put a b) log) := by
  have byte : IsByte (b.toNat : Int) := by
    have small := b.toNat_lt
    simp only [IsByte]
    omega
  have below : (a : Int) < 4096 := by omega
  have cell : Device.write (a : Int) (b.toNat : Int) (.ram memory.toArray)
      = .ok (.ram (memory.put a b).toArray) := by
    simp [Device.write, below, byte, Memory.put]
  rw [load, resolve?_holding memory log h]
  simp [holding, cell]

theorem read_holding {a : Nat} (h : a < 4096) :
    (holding memory log).read a = .ok (memory.byte a,
      holding memory (log.push ⟨.read, a, (memory.byte a).toNat⟩)) := by
  rw [read, peek_holding memory log h]
  rfl

theorem write_holding {a : Nat} (h : a < 4096) (b : UInt8) :
    (holding memory log).write a b.toNat
      = .ok (holding (memory.put a b) (log.push ⟨.write, a, b.toNat⟩)) := by
  rw [write, load_holding memory log h]
  rfl

theorem readBytes_holding (a count : Nat) (fits : a + count ≤ 4096) :
    (holding memory log).readBytes a count
      = .done (memory.slice a count)
          (holding memory (log ++ (memory.readLog a count).toArray)) := by
  induction count generalizing a log with
  | zero => simp [readBytes, Memory.slice, Memory.readLog]
  | succ count ih =>
    have next : ((a : Int) + 1) = ((a + 1 : Nat) : Int) := by omega
    rw [readBytes, read_holding memory log (by omega)]
    simp only [next]
    rw [ih _ (a + 1) (by omega)]
    simp [Memory.slice, Memory.readLog]

theorem writeBytes_holding (a : Nat) (bytes : List UInt8) (fits : a + bytes.length ≤ 4096) :
    (holding memory log).writeBytes a (byteValues bytes)
      = .done () (holding (memory.putAll a bytes) (log ++ (Memory.writeLog a bytes).toArray)) := by
  induction bytes generalizing memory a log with
  | nil => simp [byteValues, writeBytes, Memory.putAll, Memory.writeLog]
  | cons b rest ih =>
    rw [List.length_cons] at fits
    have next : ((a : Int) + 1) = ((a + 1 : Nat) : Int) := by omega
    have head := write_holding memory log (show a < 4096 by omega) b
    rw [byteValues_cons, writeBytes, head]
    simp only [next]
    rw [ih (memory.put a b) _ (a + 1) (by omega)]
    simp [Memory.putAll, Memory.writeLog]

theorem loadBytes_holding (a : Nat) (bytes : List UInt8) (fits : a + bytes.length ≤ 4096) :
    (holding memory log).loadBytes a (byteValues bytes)
      = .done () (holding (memory.putAll a bytes) log) := by
  induction bytes generalizing memory a with
  | nil => rfl
  | cons b rest ih =>
    rw [List.length_cons] at fits
    have next : ((a : Int) + 1) = ((a + 1 : Nat) : Int) := by omega
    have head := load_holding memory log (show a < 4096 by omega) b
    rw [byteValues_cons, loadBytes, head]
    simp only [next]
    rw [ih (memory.put a b) (a + 1) (by omega), Memory.putAll]

/-- Loading a program that fits always ends well on the standard map. -/
theorem loadImage_holding (program : Program) (fits : program.length ≤ maxProgramSize) :
    (holding memory log).loadImage program
      = .done () (holding ((memory.putAll fontStart font).putAll programStart program) log) := by
  have low : fontStart + font.length ≤ 4096 := by decide
  have high : programStart + program.length ≤ 4096 := by
    have room : maxProgramSize = 0xE00 := rfl
    have start : programStart = 0x200 := rfl
    omega
  rw [loadImage, loadBytes_holding memory log fontStart font low, Outcome.andThen_done,
    loadBytes_holding _ log programStart program high]

end Bus

/-- The fault of a block of `count` cells from an address on: none as long as the block is empty or
ends in the last cell or before. -/
def blockFault? (address count : Int) : Option Fault :=
  if 0 < count ∧ 0x1000 < address + count then some (.memory (address + count - 1) 0x1000) else none

theorem fits_of_blockFault? {a count : Nat} (some : 0 < count)
    (within : blockFault? a count = none) : a + count ≤ 4096 := by
  unfold blockFault? at within
  split at within
  · contradiction
  · omega

theorem checkRange_eq_blockFault? {address count : Int} (h : 0 ≤ address) :
    checkRange address count
      = match blockFault? address count with
        | some f => .error f
        | none => .ok () := by
  have start : ¬ address < 0 := by omega
  have size : (memorySize : Int) = 0x1000 := rfl
  rw [checkRange, if_neg start, size]
  by_cases outside : 0 < count ∧ 0x1000 < address + count
  · have beyond : 0 < count ∧ 0x1000 ≤ address + count - 1 := by omega
    rw [if_pos beyond, blockFault?, if_pos outside]
    rfl
  · have within : ¬ (0 < count ∧ 0x1000 ≤ address + count - 1) := by omega
    rw [if_neg within, blockFault?, if_neg outside]

namespace Bus

variable (memory : Memory) (log : Array Access)

theorem readBlock_fault {bus : Bus} {address count : Int} {f : Fault} (h : 0 ≤ address)
    (outside : blockFault? address count = some f) :
    bus.readBlock address count = .fault f bus := by
  rw [readBlock, checkRange_eq_blockFault? h, outside]

theorem writeBlock_fault {bus : Bus} {address : Int} {values : List Int} {f : Fault}
    (h : 0 ≤ address) (outside : blockFault? address values.length = some f) :
    bus.writeBlock address values = .fault f bus := by
  rw [writeBlock, checkRange_eq_blockFault? h, outside]

theorem readBlock_holding (a count : Nat) (within : blockFault? a count = none) :
    (holding memory log).readBlock a count
      = .done (memory.slice a count)
          (holding memory (log ++ (memory.readLog a count).toArray)) := by
  rw [readBlock, checkRange_eq_blockFault? (Int.natCast_nonneg a), within, Int.toNat_natCast]
  cases count with
  | zero => simp [readBytes, Memory.slice, Memory.readLog]
  | succ count =>
    exact readBytes_holding memory log a (count + 1) (fits_of_blockFault? (by omega) within)

theorem writeBlock_holding (a : Nat) (bytes : List UInt8)
    (within : blockFault? a bytes.length = none) :
    (holding memory log).writeBlock a (byteValues bytes)
      = .done () (holding (memory.putAll a bytes) (log ++ (Memory.writeLog a bytes).toArray)) := by
  rw [writeBlock, length_byteValues, checkRange_eq_blockFault? (Int.natCast_nonneg a), within]
  cases bytes with
  | nil => simp [byteValues, writeBytes, Memory.putAll, Memory.writeLog]
  | cons b rest =>
    have some : 0 < (b :: rest).length := by simp
    exact writeBytes_holding memory log a (b :: rest) (fits_of_blockFault? some within)

end Bus

end Chip8
