import Chip8.Proofs.BusActions

/-! Where addresses lead. Requests to map a device are accepted or rejected, one after another. An
address leads to the device of the first accepted range that contains it, so a later request never
moves it, and a memory is only asked for cells that it has. What can fail at a mapped address is
thus the value that is written, never the address. -/

namespace Chip8

/-- A request to map a device to the addresses from `start` to `stop`. -/
structure Registration where
  start : Int
  stop : Int
  device : Nat

namespace Registration

def Contains (r : Registration) (address : Int) : Prop :=
  r.start ≤ address ∧ address ≤ r.stop

instance (r : Registration) (address : Int) : Decidable (r.Contains address) :=
  inferInstanceAs (Decidable (_ ∧ _))

/-- Where an address of the range leads. -/
def place (r : Registration) (address : Int) : Nat × Int :=
  (r.device, address - r.start)

end Registration

/-- The request that a window comes from. -/
def Window.registration (w : Window) : Registration :=
  ⟨w.start, w.stop, w.device⟩

namespace Bus

/-- What the bus does with a request: a rejected one leaves it as it is. -/
def answer (bus : Bus) (r : Registration) : Bus :=
  match bus.register r.start r.stop r.device with
  | .ok next => next
  | .error _ => bus

def answerAll (bus : Bus) (requests : List Registration) : Bus :=
  requests.foldl answer bus

/-- The requests that are accepted, in their order. -/
def accepted (bus : Bus) : List Registration → List Registration
  | [] => []
  | r :: rest =>
    match bus.register r.start r.stop r.device with
    | .ok next => r :: next.accepted rest
    | .error _ => bus.accepted rest

/-- The requests that the windows of a bus come from. -/
def ranges (bus : Bus) : List Registration :=
  bus.windows.toList.map Window.registration

variable {bus next : Bus} {r : Registration} {a : Int}

/-- The first range that contains an address decides. -/
theorem resolve?_eq (bus : Bus) (a : Int) :
    bus.resolve? a = (bus.ranges.find? fun r => r.Contains a).map fun r => r.place a := by
  rw [resolve?, ranges, List.find?_map, Option.map_map, ← Array.find?_toList]
  rfl

theorem resolve?_eq_none_iff : bus.resolve? a = none ↔ ∀ r ∈ bus.ranges, ¬ r.Contains a := by
  rw [resolve?_eq]
  simp

theorem ranges_of_register (mapped : bus.register r.start r.stop r.device = .ok next) :
    next.ranges = bus.ranges ++ [r] := by
  obtain ⟨_, _, ⟨low, order⟩, _, rfl⟩ := exists_of_register mapped
  have start : (r.start.toNat : Int) = r.start := Int.toNat_of_nonneg low
  have stop : (r.stop.toNat : Int) = r.stop := Int.toNat_of_nonneg (by omega)
  simp [ranges, Window.registration, start, stop]

theorem resolve?_of_register (mapped : bus.register r.start r.stop r.device = .ok next) (a : Int) :
    next.resolve? a
      = (bus.resolve? a).or (if r.Contains a then some (r.place a) else none) := by
  rw [resolve?_eq, resolve?_eq, ranges_of_register mapped, List.find?_append]
  cases bus.ranges.find? fun r => r.Contains a with
  | some first => rfl
  | none => by_cases inside : r.Contains a <;> simp [inside]

/-- A new range takes the addresses that led nowhere. -/
theorem resolve?_unmapped_of_register (mapped : bus.register r.start r.stop r.device = .ok next)
    (free : bus.resolve? a = none) :
    next.resolve? a = if r.Contains a then some (r.place a) else none := by
  rw [resolve?_of_register mapped, free]
  rfl

/-- A new range takes no other address. -/
theorem resolve?_mapped_of_register (mapped : bus.register r.start r.stop r.device = .ok next)
    {place : Nat × Int} (here : bus.resolve? a = some place) : next.resolve? a = some place := by
  rw [resolve?_of_register mapped, here]
  rfl

theorem ranges_answerAll (bus : Bus) (requests : List Registration) :
    (bus.answerAll requests).ranges = bus.ranges ++ bus.accepted requests := by
  induction requests generalizing bus with
  | nil => simp [answerAll, accepted]
  | cons r rest ih =>
    change ((bus.answer r).answerAll rest).ranges = _
    rw [ih, accepted, answer]
    cases mapped : bus.register r.start r.stop r.device with
    | error e => rfl
    | ok next => simp [ranges_of_register mapped]

theorem Sound.answerAll (sound : bus.Sound) (requests : List Registration) :
    (bus.answerAll requests).Sound := by
  induction requests generalizing bus with
  | nil => exact sound
  | cons r rest ih =>
    have kept : (bus.answer r).Sound := by
      unfold answer
      cases mapped : bus.register r.start r.stop r.device with
      | error e => exact sound
      | ok next => exact sound.register mapped
    exact ih kept

theorem devices_answerAll (bus : Bus) (requests : List Registration) :
    (bus.answerAll requests).devices = bus.devices := by
  induction requests generalizing bus with
  | nil => rfl
  | cons r rest ih =>
    change ((bus.answer r).answerAll rest).devices = _
    rw [ih, answer]
    cases mapped : bus.register r.start r.stop r.device with
    | error e => rfl
    | ok next =>
      obtain ⟨_, _, _, _, rfl⟩ := exists_of_register mapped
      rfl

/-- A mapped address takes every byte. -/
theorem Sound.eq_notByte_of_load (sound : bus.Sound) (mapped : bus.resolve? a ≠ none)
    {data : Int} {f : Fault} (failed : bus.load a data = .error f) : f = .notByte data := by
  obtain ⟨⟨k, offset⟩, place⟩ := Option.ne_none_iff_exists'.mp mapped
  obtain ⟨device, there, has⟩ := sound.has place
  rw [load_of_place place there] at failed
  cases written : device.write offset data with
  | error g =>
    rw [written] at failed
    cases failed
    exact has.eq_notByte_of_write written
  | ok after =>
    rw [written] at failed
    contradiction

/-- At a mapped address only a value can be refused. -/
theorem Sound.eq_notByte_of_act (sound : bus.Sound) {action : BusAction}
    (address : action.address? = some a) (mapped : bus.resolve? a ≠ none) {f : Fault}
    (failed : (bus.act action).result = .error f) : ∃ data, f = .notByte data := by
  obtain ⟨byte, peeked⟩ := sound.exists_peek mapped
  cases action with
  | read a =>
    cases address
    rw [Bus.act, Bus.read, peeked] at failed
    contradiction
  | peek a =>
    cases address
    rw [Bus.act, peeked] at failed
    contradiction
  | write a data | load a data =>
    cases address
    simp only [Bus.act, Bus.write] at failed
    cases stored : bus.load a data with
    | error g =>
      rw [stored] at failed
      cases failed
      exact ⟨data, sound.eq_notByte_of_load mapped stored⟩
    | ok next =>
      rw [stored] at failed
      contradiction
  | takeLog => contradiction

/-- A memory is only asked for cells that it has. -/
theorem Sound.inside_ram (sound : bus.Sound) {k : Nat} {offset : Int}
    (place : bus.resolve? a = some (k, offset)) {cells : Array UInt8}
    (there : bus.devices[k]? = some (.ram cells)) : 0 ≤ offset ∧ offset < cells.size := by
  obtain ⟨device, same, has⟩ := sound.has place
  rw [there] at same
  cases same
  exact has cells.size rfl

/-- An action fails over its address exactly if this leads nowhere. -/
theorem Sound.act_fails_over_address_iff (sound : bus.Sound) {action : BusAction}
    (address : action.address? = some a) :
    (∃ other size, (bus.act action).result = .error (.memory other size)) ↔
      bus.resolve? a = none := by
  constructor
  · rintro ⟨other, size, failed⟩
    apply Classical.byContradiction
    intro mapped
    obtain ⟨data, same⟩ := sound.eq_notByte_of_act address mapped failed
    contradiction
  · intro free
    rw [act_of_unresolved address free]
    exact ⟨_, _, rfl⟩

/-- Whatever was requested of a bus with any devices, an address leads to the device of the first
accepted range that contains it. A request that is rejected moves no address, and one that is
accepted only those that led nowhere, namely those of its range. Memory is only asked for cells that
it has; so an action fails over its address exactly if no accepted range contains it, and the fault
names this address. -/
theorem resolution_stable (devices : Array Device) (log : Array Access)
    (requests : List Registration) :
    let start : Bus := { devices, log }
    let bus := start.answerAll requests
    let ranges := start.accepted requests
    (∀ a, bus.resolve? a = (ranges.find? fun r => r.Contains a).map fun r => r.place a) ∧
    (∀ r e, bus.register r.start r.stop r.device = .error e →
      ∀ a, (bus.answer r).resolve? a = bus.resolve? a) ∧
    (∀ r next, bus.register r.start r.stop r.device = .ok next →
      bus.answer r = next ∧ ∀ a,
        (∀ place, bus.resolve? a = some place → next.resolve? a = some place) ∧
        ((∀ earlier ∈ ranges, ¬ earlier.Contains a) →
          next.resolve? a = if r.Contains a then some (r.place a) else none)) ∧
    (∀ a k offset cells, bus.resolve? a = some (k, offset) →
      devices[k]? = some (.ram cells) → 0 ≤ offset ∧ offset < cells.size) ∧
    ∀ action a, action.address? = some a →
      ((∃ address size, (bus.act action).result = .error (.memory address size)) ↔
        ∀ r ∈ ranges, ¬ r.Contains a) ∧
      ((∀ r ∈ ranges, ¬ r.Contains a) → (bus.act action).result = .error (.unmapped a)) := by
  intro start bus ranges
  have listed : bus.ranges = ranges := ranges_answerAll start requests
  have sound : bus.Sound := by
    apply Sound.answerAll
    intro w member
    simp [start] at member
  have hole {a : Int} : bus.resolve? a = none ↔ ∀ r ∈ ranges, ¬ r.Contains a := by
    rw [resolve?_eq_none_iff, listed]
  refine ⟨?_, ?_, ?_, ?_, ?_⟩
  · intro a
    rw [resolve?_eq, listed]
  · intro r e rejected a
    rw [answer, rejected]
  · intro r next mapped
    refine ⟨by rw [answer, mapped], fun a => ⟨?_, ?_⟩⟩
    · intro place here
      exact resolve?_mapped_of_register mapped here
    · intro outside
      exact resolve?_unmapped_of_register mapped (hole.mpr outside)
  · intro a k offset cells place there
    apply sound.inside_ram place
    rw [devices_answerAll]
    exact there
  · intro action a address
    refine ⟨(sound.act_fails_over_address_iff address).trans hole, ?_⟩
    intro outside
    rw [act_of_unresolved address (hole.mpr outside)]
    rfl

/-- Two cells, four cells, and a device that is no memory. -/
def threeDevices : Array Device :=
  #[.ram #[0, 0], .ram #[0, 0, 0, 0], .readOnly fun offset => .ofNat offset.toNat]

/-- The range of the second request does not have the size of the memory. Another range for the four
cells, which starts inside the last one, is accepted behind it: 8 stays with the device that it led
to, and 10, which led nowhere, leads to the third cell. -/
theorem resolution_stable_overlapped :
    ∃ (bus next : Bus) (requests : List Registration),
      requests = [⟨4, 5, 0⟩, ⟨0, 3, 0⟩, ⟨0, 3, 1⟩, ⟨2, 9, 2⟩] ∧
      bus = ({ devices := threeDevices } : Bus).answerAll requests ∧
      ({ devices := threeDevices } : Bus).accepted requests = [⟨4, 5, 0⟩, ⟨0, 3, 1⟩, ⟨2, 9, 2⟩] ∧
      bus.resolve? 3 = some (1, 3) ∧ bus.resolve? 8 = some (2, 6) ∧
      (bus.act (.write 10 300)).result = .error (.unmapped 10) ∧
      bus.register 0 3 0 = .error (.sizeMismatch 2 4) ∧
      (bus.answer ⟨0, 3, 0⟩).resolve? 3 = some (1, 3) ∧
      bus.register 8 11 1 = .ok next ∧ next.resolve? 8 = some (2, 6) ∧
      next.resolve? 10 = some (1, 2) := by
  let requests : List Registration := [⟨4, 5, 0⟩, ⟨0, 3, 0⟩, ⟨0, 3, 1⟩, ⟨2, 9, 2⟩]
  let start : Bus := { devices := threeDevices }
  have ranges : start.accepted requests = [⟨4, 5, 0⟩, ⟨0, 3, 1⟩, ⟨2, 9, 2⟩] := rfl
  obtain ⟨first, rejected, accepted, _, acts⟩ := resolution_stable threeDevices #[] requests
  have outside : ∀ r ∈ start.accepted requests, ¬ r.Contains 10 := by
    rw [ranges]
    decide
  have third : (start.answerAll requests).resolve? 3 = some (1, 3) := by
    rw [first, ranges]
    rfl
  have eighth : (start.answerAll requests).resolve? 8 = some (2, 6) := by
    rw [first, ranges]
    rfl
  obtain ⟨_, moves⟩ := accepted ⟨8, 11, 1⟩ _ rfl
  refine ⟨start.answerAll requests, _, requests, rfl, rfl, ranges, third, eighth,
    (acts (.write 10 300) 10 rfl).2 outside, rfl, ?_, rfl, (moves 8).1 _ eighth, ?_⟩
  · exact (rejected ⟨0, 3, 0⟩ (.sizeMismatch 2 4) rfl 3).trans third
  · exact (moves 10).2 outside

end Bus

end Chip8
