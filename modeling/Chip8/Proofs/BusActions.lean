import Mathlib.Data.List.DropRight
import Chip8.Proofs.Stores

/-! The bus as a memory. However the windows lie and whatever was done before, a byte that is stored
shows at every address that leads to its cell and at no other, an action that fails changes nothing,
and the log that is taken holds the reads and the writes since it was taken before. -/

namespace Chip8

/-- What users of a bus do with it. To take the log is to get it and to clear it. -/
inductive BusAction where
  | read (address : Int)
  | peek (address : Int)
  | write (address data : Int)
  | load (address data : Int)
  | takeLog

inductive BusReply where
  | byte (byte : UInt8)
  | done
  | log (accesses : List Access)

namespace BusAction

def address? : BusAction → Option Int
  | read address | peek address | write address _ | load address _ => some address
  | takeLog => none

def data? : BusAction → Option Int
  | write _ data | load _ data => some data
  | read _ | peek _ | takeLog => none

def takesLog : BusAction → Bool
  | takeLog => true
  | _ => false

end BusAction

/-- Actions with what came of them. -/
abbrev Transcript := List (BusAction × Except Fault BusReply)

/-- The access that an action leaves in the log: a read or a write, if it succeeded. -/
def access? : BusAction × Except Fault BusReply → Option Access
  | (.read address, .ok (.byte byte)) => some ⟨.read, address, byte.toNat⟩
  | (.write address data, .ok _) => some ⟨.write, address, data⟩
  | _ => none

/-- The accesses since the log was taken. -/
def Transcript.pending (entries : Transcript) : List Access :=
  (entries.rtakeWhile fun entry => !entry.1.takesLog).filterMap access?

theorem Transcript.pending_concat (entries : Transcript) (action : BusAction)
    (result : Except Fault BusReply) :
    pending (entries ++ [(action, result)])
      = if action.takesLog then [] else entries.pending ++ (access? (action, result)).toList := by
  rw [pending, List.rtakeWhile_concat]
  cases takes : action.takesLog with
  | true => simp
  | false =>
    cases left : access? (action, result) <;> simp [pending, left]

/-- Memory has a cell at the offset; the other devices answer at every offset. -/
def Device.Has (device : Device) (offset : Int) : Prop :=
  ∀ size, device.size? = some size → 0 ≤ offset ∧ offset < size

namespace Device

variable {cells : Array UInt8} {offset : Int}

theorem read_ram (inside : 0 ≤ offset ∧ offset < cells.size) :
    ∃ byte, (Device.ram cells).read offset = .ok byte := by
  rw [read, dif_pos inside]
  exact ⟨_, rfl⟩

theorem write_ram (inside : 0 ≤ offset ∧ offset < cells.size) (data : Int) :
    (Device.ram cells).write offset data
      = if IsByte data then .ok (.ram (cells.setIfInBounds offset.toNat (.ofNat data.toNat)))
        else .error (.notByte data) := by
  rw [write, if_pos inside]

theorem Has.exists_read {device : Device} (has : device.Has offset) :
    ∃ byte, device.read offset = .ok byte := by
  cases device with
  | ram cells => exact read_ram (has cells.size rfl)
  | readOnly answer => exact ⟨answer offset, rfl⟩

theorem Has.eq_notByte_of_write {device : Device} (has : device.Has offset) {data : Int} {f : Fault}
    (failed : device.write offset data = .error f) : f = .notByte data := by
  cases device with
  | ram cells =>
    rw [write_ram (has cells.size rfl)] at failed
    split at failed
    · contradiction
    · exact (Except.error.inj failed).symm
  | readOnly answer => contradiction

theorem exists_ram_of_write {data : Int} {written : Device}
    (done : (Device.ram cells).write offset data = .ok written) :
    ∃ others, written = .ram others := by
  simp only [write] at done
  split at done
  · split at done
    · cases done
      exact ⟨_, rfl⟩
    · contradiction
  · contradiction

/-- A byte that is written is read back at its offset and leaves the other cells. -/
theorem read_setIfInBounds (inside : 0 ≤ offset ∧ offset < cells.size) (byte : UInt8)
    (other : Int) :
    (Device.ram (cells.setIfInBounds offset.toNat byte)).read other
      = if other = offset then .ok byte else (Device.ram cells).read other := by
  simp only [read, Array.size_setIfInBounds]
  by_cases same : other = offset
  · subst same
    simp [inside]
  · rw [if_neg same]
    split
    next within =>
      have apart : offset.toNat ≠ other.toNat := by omega
      rw [Array.getElem_setIfInBounds_ne _ apart]
    · rfl

end Device

namespace Bus

/-- What comes of an action, and the bus that it leaves. -/
def act (bus : Bus) : BusAction → Outcome Bus BusReply
  -- Whatever can fail is checked before anything is changed.
  | .read address =>
    match bus.read address with
    | .error f => .fault f bus
    | .ok (byte, next) => .done (.byte byte) next
  | .peek address =>
    match bus.peek address with
    | .error f => .fault f bus
    | .ok byte => .done (.byte byte) bus
  | .write address data =>
    match bus.write address data with
    | .error f => .fault f bus
    | .ok next => .done .done next
  | .load address data =>
    match bus.load address data with
    | .error f => .fault f bus
    | .ok next => .done .done next
  | .takeLog => .done (.log bus.log.toList) bus.clearLog

def afterActions (bus : Bus) (actions : List BusAction) : Bus :=
  actions.foldl (fun bus action => (bus.act action).state) bus

def transcript (bus : Bus) : List BusAction → Transcript
  | [] => []
  | action :: rest => (action, (bus.act action).result) :: (bus.act action).state.transcript rest

/-- The buses over memories, before anything is done with them. -/
inductive Wired : Bus → Prop where
  | empty : Wired {}
  | attach {bus : Bus} (cells : Array UInt8) : Wired bus → Wired (bus.attach (.ram cells))
  | register {bus next : Bus} {start stop : Int} {device : Nat} :
      Wired bus → bus.register start stop device = .ok next → Wired next

/-- What an action on a bus of memories does. A value that is stored shows where the bus resolves to
the same cell; a fault leaves the bus as it was. -/
structure ActsAsMemory (bus : Bus) (action : BusAction) : Prop where
  unmapped : ∀ a, action.address? = some a → bus.resolve? a = none →
    bus.act action = .fault (.unmapped a) bus
  notByte : ∀ a data, action.address? = some a → action.data? = some data →
    bus.resolve? a ≠ none → ¬ IsByte data → bus.act action = .fault (.notByte data) bus
  stores : ∀ a (byte : UInt8), action.address? = some a → action.data? = some (byte.toNat : Int) →
    bus.resolve? a ≠ none → ∃ next, bus.act action = .done .done next ∧
      ∀ b, next.peek b = if bus.resolve? b = bus.resolve? a then .ok byte else bus.peek b
  fetches : ∀ a, action.address? = some a → action.data? = none → bus.resolve? a ≠ none →
    ∃ byte, bus.peek a = .ok byte ∧ (bus.act action).result = .ok (.byte byte)
  keeps : action.data? = none → ∀ b, (bus.act action).state.peek b = bus.peek b

/-- All devices are memories, and every window is filled by its device. -/
structure Memories (bus : Bus) : Prop where
  sound : bus.Sound
  ram : ∀ (k : Nat) (device : Device), bus.devices[k]? = some device →
    ∃ cells, device = .ram cells

variable {bus next : Bus} {a : Int} {k : Nat} {offset : Int}

/-- An address that resolves leads to a device that has its offset. -/
theorem Sound.has (sound : bus.Sound) (place : bus.resolve? a = some (k, offset)) :
    ∃ device, bus.devices[k]? = some device ∧ device.Has offset := by
  obtain ⟨w, found, same⟩ := Option.map_eq_some_iff.mp place
  cases same
  have inside : w.Contains a := by simpa using Array.find?_some found
  obtain ⟨device, there, filled⟩ := sound w (Array.mem_of_find?_eq_some found)
  refine ⟨device, there, ?_⟩
  intro size known
  have size := filled size known
  obtain ⟨low, high⟩ := inside
  omega

namespace Memories

theorem attach (memories : bus.Memories) (cells : Array UInt8) :
    (bus.attach (.ram cells)).Memories where
  sound := memories.sound.attach _
  ram := by
    intro k device there
    rw [Bus.attach, Array.getElem?_push] at there
    split at there
    · cases there
      exact ⟨cells, rfl⟩
    · exact memories.ram k device there

theorem register (memories : bus.Memories) {start stop : Int} {device : Nat}
    (mapped : bus.register start stop device = .ok next) : next.Memories where
  sound := memories.sound.register mapped
  ram := by
    obtain ⟨_, _, _, _, rfl⟩ := exists_of_register mapped
    exact memories.ram

theorem load (memories : bus.Memories) {data : Int} (stored : bus.load a data = .ok next) :
    next.Memories where
  sound := memories.sound.load stored
  ram := by
    obtain ⟨k, offset, found, written, there, done, rfl⟩ := exists_of_load stored
    obtain ⟨cells, rfl⟩ := memories.ram k found there
    intro other device elsewhere
    rw [Array.getElem?_setIfInBounds] at elsewhere
    split at elsewhere
    · split at elsewhere
      · cases elsewhere
        exact Device.exists_ram_of_write done
      · contradiction
    · exact memories.ram other device elsewhere

/-- An address that resolves leads to a cell of a memory. -/
theorem cell (memories : bus.Memories) (place : bus.resolve? a = some (k, offset)) :
    ∃ cells, bus.devices[k]? = some (.ram cells) ∧ 0 ≤ offset ∧ offset < cells.size := by
  obtain ⟨device, there, has⟩ := memories.sound.has place
  obtain ⟨cells, rfl⟩ := memories.ram k device there
  exact ⟨cells, there, has cells.size rfl⟩

end Memories

theorem Wired.memories (wired : bus.Wired) : bus.Memories ∧ bus.log = #[] := by
  induction wired with
  | empty => exact ⟨⟨Assembled.empty.sound, by simp⟩, rfl⟩
  | attach cells _ ih => exact ⟨ih.1.attach cells, ih.2⟩
  | register _ mapped ih =>
    refine ⟨ih.1.register mapped, ?_⟩
    obtain ⟨_, _, _, _, rfl⟩ := exists_of_register mapped
    exact ih.2

theorem peek_of_place {device : Device} (place : bus.resolve? a = some (k, offset))
    (there : bus.devices[k]? = some device) : bus.peek a = device.read offset := by
  simp only [Bus.peek, place, there]

theorem peek_of_unresolved (hole : bus.resolve? a = none) :
    bus.peek a = .error (.unmapped a) := by
  rw [Bus.peek, hole]

theorem load_of_unresolved (hole : bus.resolve? a = none) (data : Int) :
    bus.load a data = .error (.unmapped a) := by
  rw [Bus.load, hole]

def withDevice (bus : Bus) (k : Nat) (device : Device) : Bus :=
  { bus with devices := bus.devices.setIfInBounds k device }

theorem load_of_place {device : Device} (place : bus.resolve? a = some (k, offset))
    (there : bus.devices[k]? = some device) (data : Int) :
    bus.load a data = (device.write offset data).map (bus.withDevice k) := by
  simp only [Bus.load, place, there]
  cases device.write offset data <;> rfl

theorem peek_withDevice {cells : Array UInt8} (there : bus.devices[k]? = some (.ram cells))
    (inside : 0 ≤ offset ∧ offset < cells.size) (byte : UInt8) (b : Int) :
    (bus.withDevice k (.ram (cells.setIfInBounds offset.toNat byte))).peek b
      = if bus.resolve? b = some (k, offset) then .ok byte else bus.peek b := by
  generalize changed : Device.ram (cells.setIfInBounds offset.toNat byte) = device
  have present := (Array.getElem?_eq_some_iff.mp there).1
  have map : (bus.withDevice k device).resolve? b = bus.resolve? b := rfl
  -- The same device may answer at another offset, and an address may lead to another device.
  cases place : bus.resolve? b with
  | none => rw [peek_of_unresolved (map.trans place), peek_of_unresolved place, if_neg nofun]
  | some found =>
    obtain ⟨other, o⟩ := found
    by_cases same : other = k
    · subst same
      have here : (bus.withDevice other device).devices[other]? = some device := by
        simp [withDevice, present]
      rw [peek_of_place (map.trans place) here, peek_of_place place there, ← changed,
        Device.read_setIfInBounds inside]
      simp
    · have elsewhere : some (other, o) ≠ some (k, offset) := by simp [same]
      have kept : (bus.withDevice k device).devices[other]? = bus.devices[other]? :=
        Array.getElem?_setIfInBounds_ne (Ne.symm same)
      rw [if_neg elsewhere]
      simp only [Bus.peek, map, place, kept]

/-- A byte that is stored shows at the addresses that resolve to the same cell. -/
theorem Memories.load_byte (memories : bus.Memories) (mapped : bus.resolve? a ≠ none)
    (byte : UInt8) :
    ∃ next, bus.load a byte.toNat = .ok next ∧
      ∀ b, next.peek b = if bus.resolve? b = bus.resolve? a then .ok byte else bus.peek b := by
  obtain ⟨⟨k, offset⟩, place⟩ := Option.ne_none_iff_exists'.mp mapped
  obtain ⟨cells, there, inside⟩ := memories.cell place
  rw [load_of_place place there, Device.write_ram inside, if_pos (isByte_toNat byte)]
  refine ⟨_, rfl, ?_⟩
  intro b
  rw [place, ← peek_withDevice there inside byte b, Int.toNat_natCast, UInt8.ofNat_toNat]

theorem Memories.load_notByte (memories : bus.Memories) (mapped : bus.resolve? a ≠ none)
    {data : Int} (refused : ¬ IsByte data) : bus.load a data = .error (.notByte data) := by
  obtain ⟨⟨k, offset⟩, place⟩ := Option.ne_none_iff_exists'.mp mapped
  obtain ⟨cells, there, inside⟩ := memories.cell place
  rw [load_of_place place there, Device.write_ram inside, if_neg refused]
  rfl

theorem Sound.exists_peek (sound : bus.Sound) (mapped : bus.resolve? a ≠ none) :
    ∃ byte, bus.peek a = .ok byte := by
  obtain ⟨⟨k, offset⟩, place⟩ := Option.ne_none_iff_exists'.mp mapped
  obtain ⟨device, there, has⟩ := sound.has place
  rw [peek_of_place place there]
  exact has.exists_read

/-- An action leads to nothing but what loads, records and clearings of the log lead to. -/
theorem act_keeps {P : Bus → Prop}
    (load : ∀ {bus next : Bus} {a data : Int}, P bus → bus.load a data = .ok next → P next)
    (record : ∀ {bus : Bus} (access : Access), P bus → P (bus.record access))
    (clearLog : ∀ {bus : Bus}, P bus → P bus.clearLog) (holds : P bus) (action : BusAction) :
    P (bus.act action).state := by
  cases action with
  | read a =>
    rw [act, Bus.read]
    cases bus.peek a with
    | error f => exact holds
    | ok byte => exact record _ holds
  | peek a =>
    rw [act]
    cases bus.peek a <;> exact holds
  | write a data =>
    rw [act, Bus.write]
    cases stored : bus.load a data with
    | error f => exact holds
    | ok next => exact record _ (load holds stored)
  | load a data =>
    rw [act]
    cases stored : bus.load a data with
    | error f => exact holds
    | ok next => exact load holds stored
  | takeLog => exact clearLog holds

theorem windows_of_load {data : Int} (stored : bus.load a data = .ok next) :
    next.windows = bus.windows := by
  obtain ⟨_, _, _, _, _, _, rfl⟩ := exists_of_load stored
  rfl

theorem log_of_load {data : Int} (stored : bus.load a data = .ok next) : next.log = bus.log := by
  obtain ⟨_, _, _, _, _, _, rfl⟩ := exists_of_load stored
  rfl

theorem windows_act (bus : Bus) (action : BusAction) :
    (bus.act action).state.windows = bus.windows :=
  act_keeps (P := fun next => next.windows = bus.windows)
    (fun kept stored => (windows_of_load stored).trans kept) (fun _ kept => kept)
    (fun kept => kept) rfl action

theorem Memories.act (memories : bus.Memories) (action : BusAction) :
    (bus.act action).state.Memories :=
  act_keeps (fun memories stored => memories.load stored) (fun _ kept => ⟨kept.sound, kept.ram⟩)
    (fun kept => ⟨kept.sound, kept.ram⟩) memories action

/-- An action adds its access to the log, or it takes the log. -/
theorem log_act (bus : Bus) (action : BusAction) :
    (bus.act action).state.log.toList
      = if action.takesLog then []
        else bus.log.toList ++ (access? (action, (bus.act action).result)).toList := by
  cases action with
  | read a =>
    rw [Bus.act, Bus.read]
    cases bus.peek a <;> simp [BusAction.takesLog, Outcome.fault, Outcome.done, access?, record]
  | peek a =>
    rw [Bus.act]
    cases bus.peek a <;> simp [BusAction.takesLog, Outcome.fault, Outcome.done, access?]
  | write a data =>
    rw [Bus.act, Bus.write]
    cases stored : bus.load a data with
    | error f => simp [BusAction.takesLog, Outcome.fault, access?]
    | ok next =>
      simp [BusAction.takesLog, Outcome.done, access?, record, log_of_load stored]
  | load a data =>
    rw [Bus.act]
    cases stored : bus.load a data with
    | error f => simp [BusAction.takesLog, Outcome.fault, access?]
    | ok next => simp [BusAction.takesLog, Outcome.done, access?, log_of_load stored]
  | takeLog => rfl

theorem act_of_unresolved {action : BusAction} (address : action.address? = some a)
    (hole : bus.resolve? a = none) : bus.act action = .fault (.unmapped a) bus := by
  cases action with
  | read a =>
    cases address
    rw [Bus.act, Bus.read, peek_of_unresolved hole]
  | peek a =>
    cases address
    rw [Bus.act, peek_of_unresolved hole]
  | write a data =>
    cases address
    rw [Bus.act, Bus.write, load_of_unresolved hole]
  | load a data =>
    cases address
    rw [Bus.act, load_of_unresolved hole]
  | takeLog => contradiction

theorem Memories.actsAsMemory (memories : bus.Memories) (action : BusAction) :
    bus.ActsAsMemory action where
  unmapped _ address hole := act_of_unresolved address hole
  notByte := by
    intro a data address value mapped refused
    cases action with
    | write a data =>
      cases address
      cases value
      rw [Bus.act, Bus.write, memories.load_notByte mapped refused]
    | load a data =>
      cases address
      cases value
      rw [Bus.act, memories.load_notByte mapped refused]
    | read | peek | takeLog => contradiction
  stores := by
    intro a byte address value mapped
    obtain ⟨next, stored, shows⟩ := memories.load_byte mapped byte
    cases action with
    | write a data =>
      cases address
      cases value
      refine ⟨next.record ⟨.write, a, byte.toNat⟩, ?_, shows⟩
      rw [Bus.act, Bus.write, stored]
    | load a data =>
      cases address
      cases value
      refine ⟨next, ?_, shows⟩
      rw [Bus.act, stored]
    | read | peek | takeLog => contradiction
  fetches := by
    intro a address fetching mapped
    obtain ⟨byte, peeked⟩ := memories.sound.exists_peek mapped
    refine ⟨byte, peeked, ?_⟩
    cases action with
    | read a =>
      cases address
      rw [Bus.act, Bus.read, peeked]
      rfl
    | peek a =>
      cases address
      rw [Bus.act, peeked]
      rfl
    | write | load | takeLog => contradiction
  keeps := by
    intro fetching b
    cases action with
    | read a =>
      rw [Bus.act, Bus.read]
      cases bus.peek a <;> rfl
    | peek a =>
      rw [Bus.act]
      cases bus.peek a <;> rfl
    | takeLog => rfl
    | write | load => contradiction

theorem afterActions_concat (bus : Bus) (actions : List BusAction) (action : BusAction) :
    bus.afterActions (actions ++ [action]) = ((bus.afterActions actions).act action).state := by
  simp [afterActions]

theorem transcript_concat (bus : Bus) (actions : List BusAction) (action : BusAction) :
    bus.transcript (actions ++ [action])
      = bus.transcript actions ++ [(action, ((bus.afterActions actions).act action).result)] := by
  induction actions generalizing bus with
  | nil => rfl
  | cons first rest ih => simp [transcript, ih, afterActions]

theorem windows_afterActions (bus : Bus) (actions : List BusAction) :
    (bus.afterActions actions).windows = bus.windows := by
  induction actions using List.reverseRecOn with
  | nil => rfl
  | append_singleton actions action ih => rw [afterActions_concat, windows_act, ih]

theorem Memories.afterActions (memories : bus.Memories) (actions : List BusAction) :
    (bus.afterActions actions).Memories := by
  induction actions using List.reverseRecOn with
  | nil => exact memories
  | append_singleton actions action ih =>
    rw [afterActions_concat]
    exact ih.act action

/-- The log holds what is pending, by induction on the actions from the last one back. -/
theorem log_afterActions (cleared : bus.log = #[]) (actions : List BusAction) :
    (bus.afterActions actions).log.toList = (bus.transcript actions).pending := by
  induction actions using List.reverseRecOn with
  | nil => simp [afterActions, transcript, Transcript.pending, cleared]
  | append_singleton actions action ih =>
    rw [afterActions_concat, log_act, transcript_concat, Transcript.pending_concat, ih]

/-- A bus over memories is a memory, after any actions. An address stays with the cell that it leads
to, each action does what it would do on this cell, and the log gives the accesses since it was
taken. -/
theorem memory_over_any_map (wired : bus.Wired) (actions : List BusAction) (action : BusAction) :
    let now := bus.afterActions actions
    (∀ a, now.resolve? a = bus.resolve? a) ∧ now.ActsAsMemory action ∧
      now.act .takeLog = .done (.log (bus.transcript actions).pending) now.clearLog := by
  obtain ⟨memories, cleared⟩ := wired.memories
  refine ⟨?_, (memories.afterActions actions).actsAsMemory action, ?_⟩
  · intro a
    rw [resolve?, resolve?, windows_afterActions]
  · rw [← log_afterActions cleared]
    rfl

def twoMemories (windows : Array Window) : Bus where
  devices := #[.ram #[0, 0], .ram #[0, 0, 0, 0]]
  windows := windows

/-- Two cells that are mapped twice, and four cells of which the first two are hidden by them. -/
def mirrored : Bus :=
  twoMemories #[⟨4, 5, 0⟩, ⟨0, 1, 0⟩, ⟨0, 3, 1⟩]

theorem mirrored_wired : mirrored.Wired := by
  have attached := (Wired.empty.attach #[0, 0]).attach #[0, 0, 0, 0]
  have first : (twoMemories #[]).register 4 5 0 = .ok (twoMemories #[⟨4, 5, 0⟩]) := rfl
  have second : (twoMemories #[⟨4, 5, 0⟩]).register 0 1 0
      = .ok (twoMemories #[⟨4, 5, 0⟩, ⟨0, 1, 0⟩]) := rfl
  have third : (twoMemories #[⟨4, 5, 0⟩, ⟨0, 1, 0⟩]).register 0 3 1 = .ok mirrored := rfl
  exact ((attached.register first).register second).register third

/-- A byte that is written at 1 is read at 5. A write to a hole and a load of no byte, in between,
leave no trace, and a write at 5 shows at 1 and not at 3. -/
theorem memory_over_any_map_mirrored :
    ∃ now next : Bus, mirrored.Wired ∧
      now = mirrored.afterActions
        [.write 1 7, .write 6 1, .load 3 0x100, .load 3 9, .peek 2, .read 5] ∧
      now.act .takeLog = .done (.log [⟨.write, 1, 7⟩, ⟨.read, 5, 7⟩]) now.clearLog ∧
      now.act (.write 5 8) = .done .done next ∧ next.peek 1 = .ok 8 ∧ next.peek 3 = .ok 9 := by
  have mirror : mirrored.resolve? 1 = mirrored.resolve? 5 := rfl
  have apart : mirrored.resolve? 3 ≠ mirrored.resolve? 5 := by decide
  obtain ⟨map, acts, log⟩ := memory_over_any_map mirrored_wired
    [.write 1 7, .write 6 1, .load 3 0x100, .load 3 9, .peek 2, .read 5] (.write 5 8)
  obtain ⟨next, done, shows⟩ := acts.stores 5 8 rfl rfl nofun
  refine ⟨_, next, mirrored_wired, rfl, log, done, ?_, ?_⟩
  · rw [shows, map, map, if_pos mirror]
  · rw [shows, map, map, if_neg apart]
    rfl

end Bus

end Chip8
