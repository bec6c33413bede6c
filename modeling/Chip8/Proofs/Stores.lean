import Chip8.Proofs.Execution

/-! Stores on any map. The range check of a block knows the size of the address space and not the
map. So a block that meets a hole behind a mapped address is stored up to the hole before it fails,
and a store is all or nothing exactly where no mapped address has a hole behind it. -/

namespace Chip8

/-- Memory fills its window exactly; a device without a size fits any window. -/
def Window.FilledBy (w : Window) (device : Device) : Prop :=
  ∀ size, device.size? = some size → (size : Int) = w.stop - w.start + 1

theorem Device.size?_write {device written : Device} {offset data : Int}
    (done : device.write offset data = .ok written) : written.size? = device.size? := by
  cases device with
  | ram cells =>
    simp only [write] at done
    split at done
    · split at done
      · cases done
        simp [size?]
      · contradiction
    · contradiction
  | readOnly answer =>
    cases done
    rfl

/-- A byte can be written to every offset of a window that the device fills. -/
theorem Device.exists_write {w : Window} {device : Device} (filled : w.FilledBy device)
    {address data : Int} (inside : w.Contains address) (byte : IsByte data) :
    ∃ written, device.write (address - w.start) data = .ok written := by
  cases device with
  | ram cells =>
    have size := filled cells.size rfl
    have bounds : 0 ≤ address - w.start ∧ address - w.start < cells.size := by
      obtain ⟨low, high⟩ := inside
      omega
    rw [write, if_pos bounds, if_pos byte]
    exact ⟨_, rfl⟩
  | readOnly answer => exact ⟨_, rfl⟩

namespace Bus

/-- The buses that attaching and registering devices and accesses lead to. -/
inductive Assembled : Bus → Prop where
  | empty : Assembled {}
  | attach {bus : Bus} (device : Device) : Assembled bus → Assembled (bus.attach device)
  | register {bus next : Bus} {start stop : Int} {device : Nat} :
      Assembled bus → bus.register start stop device = .ok next → Assembled next
  | load {bus next : Bus} {address data : Int} :
      Assembled bus → bus.load address data = .ok next → Assembled next
  | record {bus : Bus} (access : Access) : Assembled bus → Assembled (bus.record access)
  | clearLog {bus : Bus} : Assembled bus → Assembled bus.clearLog

/-- Every window leads to a device that fills it. -/
def Sound (bus : Bus) : Prop :=
  ∀ w ∈ bus.windows, ∃ device, bus.devices[w.device]? = some device ∧ w.FilledBy device

def Mapped (bus : Bus) (address : Int) : Prop :=
  ∃ w ∈ bus.windows, w.Contains address

/-- No address of the address space behind a mapped one is a hole. -/
def Seamless (bus : Bus) : Prop :=
  ∀ a b : Int, bus.Mapped a → a ≤ b → b < memorySize → bus.Mapped b

/-- A block is stored up to its byte `k`, the first one whose address is a hole. -/
structure StopsAt (bus : Bus) (address : Int) (bytes : List UInt8) (k : Nat) (last : Bus) :
    Prop where
  inside : k < bytes.length
  mapped : ∀ j < k, bus.Mapped (address + j)
  hole : ¬ bus.Mapped (address + k)
  stored : bus.writeBytes address (byteValues (bytes.take k)) = .done () last
  accesses : last.log.size = bus.log.size + k

variable {bus next last : Bus} {address data : Int}

theorem Sound.attach (sound : bus.Sound) (device : Device) : (bus.attach device).Sound := by
  intro w member
  obtain ⟨found, there, filled⟩ := sound w member
  refine ⟨found, ?_, filled⟩
  have earlier := (Array.getElem?_eq_some_iff.mp there).1
  have other : w.device ≠ bus.devices.size := by omega
  rw [Bus.attach, Array.getElem?_push, if_neg other]
  exact there

/-- A device is registered under the window of the request, which it fills. -/
theorem exists_of_register {start stop : Int} {device : Nat}
    (mapped : bus.register start stop device = .ok next) :
    ∃ found, bus.devices[device]? = some found ∧ (0 ≤ start ∧ start ≤ stop) ∧
      Window.FilledBy ⟨start.toNat, stop.toNat, device⟩ found ∧
      next = { bus with windows := bus.windows.push ⟨start.toNat, stop.toNat, device⟩ } := by
  unfold Bus.register at mapped
  split at mapped
  next range =>
    split at mapped
    · contradiction
    next found there =>
      refine ⟨found, there, range, ?_⟩
      split at mapped
      next sizeless =>
        cases mapped
        refine ⟨?_, rfl⟩
        intro size known
        rw [sizeless] at known
        contradiction
      next size known =>
        split at mapped
        next fits =>
          cases mapped
          refine ⟨?_, rfl⟩
          intro other same
          rw [known] at same
          cases same
          simp only
          omega
        · contradiction
  · contradiction

theorem Sound.register (sound : bus.Sound) {start stop : Int} {device : Nat}
    (mapped : bus.register start stop device = .ok next) : next.Sound := by
  obtain ⟨found, there, _, filled, rfl⟩ := exists_of_register mapped
  intro w member
  rcases Array.mem_push.mp member with earlier | rfl
  · exact sound w earlier
  · exact ⟨found, there, filled⟩

/-- A value is loaded into the device that the address leads to. -/
theorem exists_of_load (stored : bus.load address data = .ok next) :
    ∃ device offset found written, bus.devices[device]? = some found ∧
      found.write offset data = .ok written ∧
      next = { bus with devices := bus.devices.setIfInBounds device written } := by
  unfold Bus.load at stored
  split at stored
  · contradiction
  next device offset _ =>
    split at stored
    · contradiction
    next found there =>
      split at stored
      · contradiction
      next written done =>
        cases stored
        exact ⟨device, offset, found, written, there, done, rfl⟩

theorem Sound.load (sound : bus.Sound) (stored : bus.load address data = .ok next) :
    next.Sound := by
  obtain ⟨device, offset, found, written, there, done, rfl⟩ := exists_of_load stored
  intro w member
  obtain ⟨other, elsewhere, filled⟩ := sound w member
  by_cases same : device = w.device
  · subst same
    rw [there] at elsewhere
    cases elsewhere
    have present := (Array.getElem?_eq_some_iff.mp there).1
    refine ⟨written, ?_, ?_⟩
    · simp [present]
    · intro size known
      rw [Device.size?_write done] at known
      exact filled size known
  · refine ⟨other, ?_, filled⟩
    rw [Array.getElem?_setIfInBounds_ne same]
    exact elsewhere

theorem Assembled.sound (assembled : bus.Assembled) : bus.Sound := by
  induction assembled with
  | empty =>
    intro w member
    simp at member
  | attach device _ sound => exact sound.attach device
  | register _ mapped sound => exact sound.register mapped
  | load _ stored sound => exact sound.load stored
  | record _ _ sound => exact sound
  | clearLog _ sound => exact sound

theorem load_of_mapped (sound : bus.Sound) (mapped : bus.Mapped address) (byte : IsByte data) :
    ∃ next, bus.load address data = .ok next := by
  cases found : bus.windows.find? (fun w => w.Contains address) with
  | none =>
    obtain ⟨w, member, inside⟩ := mapped
    have none := Array.find?_eq_none.mp found w member
    simp [inside] at none
  | some w =>
    have inside : w.Contains address := by simpa using Array.find?_some found
    obtain ⟨device, there, filled⟩ := sound w (Array.mem_of_find?_eq_some found)
    obtain ⟨written, done⟩ := Device.exists_write filled inside byte
    refine ⟨{ bus with devices := bus.devices.setIfInBounds w.device written }, ?_⟩
    simp only [Bus.load, resolve?, found, Option.map_some, there, done]

theorem load_of_hole (hole : ¬ bus.Mapped address) :
    bus.load address data = .error (.unmapped address) := by
  have none : bus.windows.find? (fun w => w.Contains address) = none := by
    apply Array.find?_eq_none.mpr
    intro w member inside
    exact hole ⟨w, member, by simpa using inside⟩
  simp only [Bus.load, resolve?, none, Option.map_none]

/-- A byte is written to a mapped address; the map stays, and the log grows by the access. -/
theorem write_of_mapped (sound : bus.Sound) (mapped : bus.Mapped address) (byte : IsByte data) :
    ∃ next, bus.write address data = .ok next ∧ next.Sound ∧ next.windows = bus.windows ∧
      next.log.size = bus.log.size + 1 := by
  obtain ⟨loaded, done⟩ := load_of_mapped sound mapped byte
  have kept := sound.load done
  obtain ⟨device, offset, found, written, _, _, same⟩ := exists_of_load done
  refine ⟨loaded.record ⟨.write, address, data⟩, ?_, kept, ?_, ?_⟩
  · rw [Bus.write, done]
  · rw [same]
    rfl
  · rw [same]
    simp [record]

theorem write_of_hole (hole : ¬ bus.Mapped address) :
    bus.write address data = .error (.unmapped address) := by
  rw [Bus.write, load_of_hole hole]

theorem mapped_block {n : Nat} (first : bus.Mapped address)
    (rest : ∀ j < n, bus.Mapped (address + 1 + j)) : ∀ j < n + 1, bus.Mapped (address + j) := by
  intro j less
  cases j with
  | zero => simpa using first
  | succ j =>
    have behind : address + (j + 1 : Nat) = address + 1 + j := by omega
    rw [behind]
    exact rest j (by omega)

namespace StopsAt

variable {b : UInt8} {rest : List UInt8} {k : Nat}

theorem start (hole : ¬ bus.Mapped address) : bus.StopsAt address (b :: rest) 0 bus := by
  constructor
  · simp
  · intro j less
    omega
  · simpa using hole
  · rfl
  · rfl

/-- A block that stops behind a byte that was written stops one byte later with it. -/
theorem cons (mapped : bus.Mapped address) (done : bus.write address b.toNat = .ok next)
    (windows : next.windows = bus.windows) (grown : next.log.size = bus.log.size + 1)
    (stops : next.StopsAt (address + 1) rest k last) :
    bus.StopsAt address (b :: rest) (k + 1) last := by
  have same (a : Int) : next.Mapped a ↔ bus.Mapped a := by
    simp only [Mapped, windows]
  have behind : address + (k + 1 : Nat) = address + 1 + k := by omega
  constructor
  · simp [stops.inside]
  · apply mapped_block mapped
    intro j less
    exact (same _).mp (stops.mapped j less)
  · rw [behind, ← same]
    exact stops.hole
  · rw [List.take_succ_cons, byteValues_cons, writeBytes, done]
    exact stops.stored
  · have accesses := stops.accesses
    omega

end StopsAt

/-- Bytes are all stored if their addresses are mapped, and else up to the first hole. -/
theorem writeBytes_done_or_stops (sound : bus.Sound) (address : Int) (bytes : List UInt8) :
    ((∀ j < bytes.length, bus.Mapped (address + j)) ∧
      ∃ last, bus.writeBytes address (byteValues bytes) = .done () last) ∨
    ∃ k last, bus.StopsAt address bytes k last ∧
      bus.writeBytes address (byteValues bytes) = .fault (.unmapped (address + k)) last := by
  induction bytes generalizing bus address with
  | nil => exact .inl ⟨fun j less => absurd less (Nat.not_lt_zero j), bus, rfl⟩
  | cons b rest ih =>
    by_cases mapped : bus.Mapped address
    · obtain ⟨next, done, kept, windows, grown⟩ := write_of_mapped sound mapped (isByte_toNat b)
      rw [byteValues_cons, writeBytes, done]
      rcases ih kept (address + 1) with ⟨others, last, all⟩ | ⟨k, last, stops, failed⟩
      · refine .inl ⟨mapped_block mapped ?_, last, all⟩
        simpa only [Mapped, windows] using others
      · have behind : address + 1 + k = address + (k + 1 : Nat) := by omega
        rw [behind] at failed
        exact .inr ⟨k + 1, last, .cons mapped done windows grown stops, failed⟩
    · refine .inr ⟨0, bus, .start mapped, ?_⟩
      rw [byteValues_cons, writeBytes, write_of_hole mapped]
      simp

/-- A block that fails was refused as a whole, or it stops at its first hole. -/
theorem writeBlock_refused_or_stops (sound : bus.Sound) {bytes : List UInt8} {f : Fault}
    (failed : bus.writeBlock address (byteValues bytes) = .fault f last) :
    (checkRange address bytes.length = .error f ∧ last = bus) ∨
    ∃ k : Nat, checkRange address bytes.length = .ok () ∧ f = .unmapped (address + k) ∧
      bus.StopsAt address bytes k last := by
  rw [writeBlock, length_byteValues] at failed
  cases range : checkRange address bytes.length with
  | error g =>
    rw [range] at failed
    cases failed
    exact .inl ⟨rfl, rfl⟩
  | ok _ =>
    rw [range] at failed
    rcases writeBytes_done_or_stops sound address bytes with ⟨_, _, all⟩ | ⟨k, _, stops, same⟩
    · rw [all] at failed
      cases congrArg Outcome.result failed
    · rw [same] at failed
      cases failed
      exact .inr ⟨k, rfl, rfl, stops⟩

theorem checkRange_ok_iff {address count : Int} (some : 0 < count) :
    checkRange address count = .ok () ↔ 0 ≤ address ∧ address + count ≤ memorySize := by
  unfold checkRange
  split
  · simp
    omega
  · split
    · simp
      omega
    · simp
      omega

/-- A store that fails changes nothing, as long as no mapped address has a hole behind it. -/
theorem eq_of_writeBlock_fault (sound : bus.Sound) (seamless : bus.Seamless) {bytes : List UInt8}
    {f : Fault} (failed : bus.writeBlock address (byteValues bytes) = .fault f last) :
    last = bus := by
  rcases writeBlock_refused_or_stops sound failed with ⟨_, same⟩ | ⟨k, range, _, stops⟩
  · exact same
  · cases k with
    | zero =>
      have stored := stops.stored
      cases stored
      rfl
    | succ k =>
      have inside := stops.inside
      have bounds := (checkRange_ok_iff (by omega)).mp range
      have first : bus.Mapped address := by simpa using stops.mapped 0 (by omega)
      have mapped := seamless address (address + (k + 1 : Nat)) first (by omega) (by omega)
      exact absurd mapped stops.hole

/-- A block of zeros from a mapped address up to a hole behind it is stored in part. -/
theorem seamless_of_whole (sound : bus.Sound)
    (whole : ∀ (address : Int) (bytes : List UInt8) (f : Fault) (last : Bus),
      bus.writeBlock address (byteValues bytes) = .fault f last → last = bus) : bus.Seamless := by
  intro a b mapped order bound
  apply Classical.byContradiction
  intro hole
  obtain ⟨n, gap⟩ := Int.eq_ofNat_of_zero_le (show 0 ≤ b - a by omega)
  have low : 0 ≤ a := by
    obtain ⟨w, _, inside⟩ := mapped
    have start := inside.1
    omega
  have length : (List.replicate (n + 1) (0 : UInt8)).length = n + 1 := List.length_replicate
  have range : checkRange a (List.replicate (n + 1) (0 : UInt8)).length = .ok () := by
    apply (checkRange_ok_iff (by omega)).mpr
    omega
  rcases writeBytes_done_or_stops sound a (List.replicate (n + 1) 0) with
    ⟨all, _⟩ | ⟨k, last, stops, failed⟩
  · have last := all n (by omega)
    have there : a + n = b := by omega
    rw [there] at last
    exact hole last
  · have same : last = bus := by
      apply whole a (List.replicate (n + 1) 0) (.unmapped (a + k))
      rw [writeBlock, length_byteValues, range]
      exact failed
    have accesses := stops.accesses
    rw [same] at accesses
    have first := stops.hole
    have none : k = 0 := by omega
    rw [none] at first
    simp [mapped] at first

end Bus

theorem Core.eq_of_storeAtIndex_fault {core last : Core} (sound : core.bus.Sound)
    (seamless : core.bus.Seamless) {values : List Int} (bytes : ∀ value ∈ values, IsByte value)
    {f : Fault} (failed : core.storeAtIndex values = .fault f last) : last = core := by
  obtain ⟨cells, rfl⟩ := exists_byteValues bytes
  rw [storeAtIndex] at failed
  generalize stored : core.bus.writeBlock core.cpu.i (byteValues cells) = outcome at failed
  obtain ⟨result, bus⟩ := outcome
  cases failed
  rw [Bus.eq_of_writeBlock_fault sound seamless stored]
  rfl

/-- Stores are all or nothing exactly on the seamless maps. There a failed block and a failed
instruction that stores leave everything as it was. -/
theorem Bus.seamless_iff_stores_whole {bus : Bus} (assembled : bus.Assembled) :
    (bus.Seamless ↔ ∀ (address : Int) (bytes : List UInt8) (f : Fault) (last : Bus),
      bus.writeBlock address (byteValues bytes) = .fault f last → last = bus) ∧
    (bus.Seamless → ∀ (cpu : Cpu) (i : Instruction) (f : Fault) (last : Core),
      (∀ k, IsByte (cpu.v.get k)) → i.form = .decimal ∨ i.form = .store →
      i.execute ⟨cpu, bus⟩ = .fault f last → last = ⟨cpu, bus⟩) := by
  have sound := assembled.sound
  refine ⟨⟨?_, seamless_of_whole sound⟩, ?_⟩
  · intro seamless address bytes f last failed
    exact eq_of_writeBlock_fault sound seamless failed
  · intro seamless cpu i f last bytes storing failed
    cases i with
    | decimal x =>
      exact Core.eq_of_storeAtIndex_fault sound seamless (Core.isByte_decimalDigits (bytes x))
        failed
    | store x =>
      exact Core.eq_of_storeAtIndex_fault sound seamless (Core.isByte_registersUpTo bytes x) failed
    | _ => simp [Instruction.form] at storing

/-- Two cells of memory, mapped from an address on. -/
def Bus.pair (start : Nat) : Bus where
  devices := #[.ram #[0, 0]]
  windows := #[⟨start, start + 1, 0⟩]

/-- Three bytes stored from the start of a memory of two cells: the third has no address, and the
first two stay stored. -/
theorem Bus.store_torn_by_hole :
    ∃ last : Bus, (pair 0).Assembled ∧
      (pair 0).writeBlock 0 (byteValues [1, 2, 3]) = .fault (.unmapped 2) last ∧
      (pair 0).peek 0 = .ok 0 ∧ last.peek 0 = .ok 1 := by
  have attached := Assembled.empty.attach (.ram #[0, 0])
  have mapped : (Bus.attach {} (.ram #[0, 0])).register 0 1 0 = .ok (pair 0) := rfl
  exact ⟨_, attached.register mapped, rfl, rfl, rfl⟩

/-- Two cells at the end of the address space. The first of three digits has no address, and
nothing is stored. -/
theorem Bus.seamless_iff_stores_whole_tail :
    ∃ (cpu : Cpu) (last : Core), (pair 0xFFE).Assembled ∧ (pair 0xFFE).Seamless ∧
      (Instruction.decimal 0).execute ⟨cpu, pair 0xFFE⟩ = .fault (.unmapped 0xFFD) last ∧
      last = ⟨cpu, pair 0xFFE⟩ := by
  have attached := Assembled.empty.attach (.ram #[0, 0])
  have mapped : (Bus.attach {} (.ram #[0, 0])).register 0xFFE 0xFFF 0 = .ok (pair 0xFFE) := rfl
  have assembled := attached.register mapped
  have seamless : (pair 0xFFE).Seamless := by
    rintro a b ⟨w, member, inside⟩ order bound
    cases List.mem_singleton.mp (Array.mem_def.mp member)
    have size : (memorySize : Int) = 0x1000 := rfl
    obtain ⟨low, high⟩ := inside
    refine ⟨_, member, ?_⟩
    constructor
    · exact Int.le_trans low order
    · simp only at *
      omega
  let cpu : Cpu := { Cpu.initial (.ofSeed 0) with i := 0xFFD }
  have bytes (k : Fin 16) : IsByte (cpu.v.get k) := (Cpu.initial_wellFormed (.ofSeed 0)).v k
  have failed : (Instruction.decimal 0).execute ⟨cpu, pair 0xFFE⟩
      = .fault (.unmapped 0xFFD) ⟨cpu, pair 0xFFE⟩ := rfl
  have whole := (seamless_iff_stores_whole assembled).2 seamless cpu (.decimal 0) _ _ bytes
    (.inl rfl) failed
  exact ⟨cpu, _, assembled, seamless, failed, whole⟩

end Chip8
