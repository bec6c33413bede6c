import Chip8.Proofs.Runs

/-! Replaying logs. Whoever keeps a copy of the memory and applies the writes of the logs to it, in
order, finds in every read the byte of the copy, and has the memory itself at the end. The logs are
those of the snapshots alone: what an access from outside or a failed step left in the log of the
bus is gone before the first fetch. -/

namespace Chip8

/-- A copy of the memory: the value at each address. -/
abbrev Cells := Int → Int

namespace Access

def InRange (access : Access) : Prop :=
  (0 ≤ access.address ∧ access.address ≤ 0xFFF) ∧ IsByte access.data

def applyTo (cells : Cells) (access : Access) : Cells :=
  match access.kind with
  | .read => cells
  | .write => fun a => if a = access.address then access.data else cells a

/-- The copy after all writes of a log. -/
def replay (cells : Cells) (log : List Access) : Cells :=
  log.foldl applyTo cells

/-- Every read of a log has the value of the copy to which the accesses before it were applied. -/
def ReadsTrue (cells : Cells) : List Access → Prop
  | [] => True
  | access :: rest =>
    (access.kind = .read → access.data = cells access.address) ∧ ReadsTrue (access.applyTo cells) rest

/-- A log accounts for the change of a memory. -/
structure Explains (before : Cells) (log : List Access) (after : Cells) : Prop where
  reads : ReadsTrue before log
  inRange : ∀ access ∈ log, access.InRange
  replayed : replay before log = after

variable {before between after : Cells} {first second : List Access}

theorem ReadsTrue.append (one : ReadsTrue before first)
    (two : ReadsTrue (replay before first) second) : ReadsTrue before (first ++ second) := by
  induction first generalizing before with
  | nil => exact two
  | cons access rest ih => exact ⟨one.1, ih one.2 two⟩

theorem Explains.nil (cells : Cells) : Explains cells [] cells where
  reads := trivial
  inRange := by simp
  replayed := rfl

theorem Explains.append (one : Explains before first between)
    (two : Explains between second after) : Explains before (first ++ second) after := by
  obtain ⟨reads, inRange, rfl⟩ := one
  refine ⟨reads.append two.reads, ?_, ?_⟩
  · intro access member
    cases List.mem_append.mp member with
    | inl early => exact inRange access early
    | inr late => exact two.inRange access late
  · rw [replay, List.foldl_append]
    exact two.replayed

theorem Explains.read (cells : Cells) (a : Int) (inside : 0 ≤ a ∧ a ≤ 0xFFF)
    (byte : IsByte (cells a)) : Explains cells [⟨.read, a, cells a⟩] cells where
  reads := ⟨fun _ => rfl, trivial⟩
  inRange := by
    intro access member
    cases List.mem_singleton.mp member
    exact ⟨inside, byte⟩
  replayed := rfl

theorem Explains.write {a : Int} (inside : 0 ≤ a ∧ a ≤ 0xFFF) {data : Int} (byte : IsByte data)
    (put : ∀ k, after k = if k = a then data else before k) :
    Explains before [⟨.write, a, data⟩] after where
  reads := by
    refine ⟨?_, trivial⟩
    intro read
    contradiction
  inRange := by
    intro access member
    cases List.mem_singleton.mp member
    exact ⟨inside, byte⟩
  replayed := (funext put).symm

end Access

open Access

def Memory.cells (memory : Memory) : Cells :=
  fun a => if 0 ≤ a then (memory.byte a.toNat).toNat else 0

def Bus.cells (bus : Bus) : Cells :=
  fun a => (bus.byteAt a).toNat

namespace Memory

theorem isByte_cells (memory : Memory) (a : Int) : IsByte (memory.cells a) := by
  unfold cells
  split
  · exact isByte_toNat _
  · decide

theorem cells_natCast (memory : Memory) (a : Nat) : memory.cells a = (memory.byte a).toNat := by
  simp [cells]

theorem cells_put (memory : Memory) {a : Nat} (h : a < 4096) (b : UInt8) (k : Int) :
    (memory.put a b).cells k = if k = a then (b.toNat : Int) else memory.cells k := by
  by_cases low : 0 ≤ k
  · obtain ⟨n, rfl⟩ := Int.eq_ofNat_of_zero_le low
    simp only [cells_natCast, byte_put memory h, Int.natCast_inj]
    split <;> rfl
  · have other : k ≠ a := by omega
    simp [cells, low, other]

theorem explains_readLog (memory : Memory) (a count : Nat) (fits : a + count ≤ 4096) :
    Explains memory.cells (memory.readLog a count) memory.cells := by
  induction count generalizing a with
  | zero => exact .nil _
  | succ count ih =>
    have head := Explains.read memory.cells a (by omega) (memory.isByte_cells a)
    rw [cells_natCast] at head
    exact head.append (ih (a + 1) (by omega))

theorem explains_writeLog (memory : Memory) (a : Nat) (bytes : List UInt8)
    (fits : a + bytes.length ≤ 4096) :
    Explains memory.cells (writeLog a bytes) (memory.putAll a bytes).cells := by
  induction bytes generalizing memory a with
  | nil => exact .nil _
  | cons b rest ih =>
    rw [List.length_cons] at fits
    have inside : a < 4096 := by omega
    have head := Explains.write (a := a) (by omega) (isByte_toNat b) (memory.cells_put inside b)
    exact head.append (ih (memory.put a b) (a + 1) (by omega))

end Memory

namespace Bus

theorem resolve?_holding_beyond (memory : Memory) (log : Array Access) {a : Int}
    (h : ¬ (0 ≤ a ∧ a < 4096)) : (holding memory log).resolve? a = none := by
  have outside : ¬ Window.Contains ⟨0, 0xFFF, 0⟩ a := by
    simp only [Window.Contains]
    omega
  simp [resolve?, holding, outside]

theorem byteAt_holding_beyond (memory : Memory) (log : Array Access) {a : Int}
    (h : ¬ (0 ≤ a ∧ a < 4096)) : (holding memory log).byteAt a = 0 := by
  rw [byteAt, peek, resolve?_holding_beyond memory log h]

theorem cells_holding (memory : Memory) (log : Array Access) :
    (holding memory log).cells = memory.cells := by
  funext a
  by_cases inside : 0 ≤ a ∧ a < 4096
  · obtain ⟨n, rfl⟩ := Int.eq_ofNat_of_zero_le inside.1
    rw [cells, byteAt_holding memory log (by omega), Memory.cells_natCast]
  · rw [cells, byteAt_holding_beyond memory log inside, Memory.cells]
    split
    · have beyond : memory[a.toNat]? = none := by
        rw [Vector.getElem?_eq_none_iff]
        omega
      rw [Memory.byte, beyond]
      rfl
    · rfl

/-- The log has grown by accesses that account for the change of the memory. -/
def Logged (before after : Bus) : Prop :=
  ∃ entries : List Access, after.log = before.log ++ entries.toArray ∧
    Explains before.cells entries after.cells

theorem Logged.of_eq {before after : Bus} (same : after = before) : before.Logged after := by
  subst same
  exact ⟨[], by simp, .nil _⟩

end Bus

namespace Core

variable {core after : Core}

theorem logged_loadAtIndex (wf : core.WellFormed) {count : Nat} {use : List UInt8 → Cpu}
    (ended : core.loadAtIndex count use = .done () after) : core.bus.Logged after.bus := by
  cases outside : blockFault? core.cpu.i count with
  | some f =>
    rw [loadAtIndex_fault wf.cpu outside] at ended
    cases congrArg Outcome.result ended
  | none =>
    obtain ⟨memory, log, bus⟩ := wf.bus
    obtain ⟨a, index⟩ := Int.eq_ofNat_of_zero_le wf.cpu.i.1
    rw [index] at outside
    rw [loadAtIndex, bus, index, Bus.readBlock_holding memory log a count outside] at ended
    cases ended
    rw [bus]
    refine ⟨memory.readLog a count, rfl, ?_⟩
    change Explains (Bus.holding _ _).cells _ (Bus.holding _ _).cells
    rw [Bus.cells_holding, Bus.cells_holding]
    cases count with
    | zero => exact .nil _
    | succ count => exact memory.explains_readLog a _ (fits_of_blockFault? (by omega) outside)

theorem logged_storeAtIndex (wf : core.WellFormed) {values : List Int}
    (bytes : ∀ value ∈ values, IsByte value)
    (ended : core.storeAtIndex values = .done () after) : core.bus.Logged after.bus := by
  cases outside : blockFault? core.cpu.i values.length with
  | some f =>
    rw [storeAtIndex_fault wf.cpu outside] at ended
    cases congrArg Outcome.result ended
  | none =>
    obtain ⟨memory, log, bus⟩ := wf.bus
    obtain ⟨cells, rfl⟩ := exists_byteValues bytes
    obtain ⟨a, index⟩ := Int.eq_ofNat_of_zero_le wf.cpu.i.1
    rw [index, length_byteValues] at outside
    rw [storeAtIndex, bus, index, Bus.writeBlock_holding memory log a cells outside] at ended
    cases ended
    rw [bus]
    refine ⟨Memory.writeLog a cells, rfl, ?_⟩
    change Explains (Bus.holding _ _).cells _ (Bus.holding _ _).cells
    rw [Bus.cells_holding, Bus.cells_holding]
    cases cells with
    | nil => exact .nil _
    | cons b rest =>
      exact memory.explains_writeLog a _ (fits_of_blockFault? (by simp) outside)

/-- Whatever an instruction reads and writes stands in the log. -/
theorem logged_of_execute (wf : core.WellFormed) {i : Instruction}
    (ended : i.execute core = .done () after) : core.bus.Logged after.bus := by
  have spared := (spares_of_execute ended).bus
  cases i with
  | draw x y height => exact logged_loadAtIndex wf ended
  | load x => exact logged_loadAtIndex wf ended
  | decimal x => exact logged_storeAtIndex wf (isByte_decimalDigits (wf.cpu.v x)) ended
  | store x => exact logged_storeAtIndex wf (isByte_registersUpTo wf.cpu.v x) ended
  | _ => exact .of_eq (spared nofun nofun nofun nofun)

end Core

namespace Opcode

theorem high_ofBytes (hi lo : UInt8) : ((ofBytes hi lo).high.val : Int) = hi.toNat := by
  have first := hi.toNat_lt
  have second := lo.toNat_lt
  simp only [high, ofBytes]
  omega

theorem kk_ofBytes (hi lo : UInt8) : ((ofBytes hi lo).kk.val : Int) = lo.toNat := by
  have first := hi.toNat_lt
  have second := lo.toNat_lt
  simp only [kk, ofBytes]
  omega

end Opcode

namespace Snapshot

def log (s : Snapshot) : List Access :=
  s.accesses.toList

/-- The log starts with the reads of the operand bytes from an address and the next one. -/
def StartsAt (s : Snapshot) (pc : Int) : Prop :=
  ∃ rest, s.log = ⟨.read, pc, s.opcode.high.val⟩ :: ⟨.read, pc + 1, s.opcode.kk.val⟩ :: rest

end Snapshot

namespace Machine

variable {m last : Machine} {snapshot : Snapshot}

theorem cells_isByte (wf : m.toCore.WellFormed) (a : Int) : IsByte (m.bus.cells a) := by
  obtain ⟨memory, log, bus⟩ := wf.bus
  rw [bus, Bus.cells_holding]
  exact memory.isByte_cells a

/-- The log of a snapshot is that of its fetch and of its instruction. -/
theorem log_of_step (wf : m.toCore.WellFormed) (ended : m.step = .done snapshot last) :
    snapshot.StartsAt m.cpu.pc ∧ Explains m.bus.cells snapshot.log last.bus.cells := by
  obtain ⟨core, done⟩ := exists_executed wf ended
  have inside := done.inside
  have low := wf.cpu.pc.1
  obtain ⟨entries, grown, explained⟩ :=
    Core.logged_of_execute (Core.behind_wellFormed wf inside).1 done.executed
  have high : (snapshot.opcode.high.val : Int) = m.bus.cells m.cpu.pc := by
    rw [done.opcode]
    exact Opcode.high_ofBytes _ _
  have kk : (snapshot.opcode.kk.val : Int) = m.bus.cells (m.cpu.pc + 1) := by
    rw [done.opcode]
    exact Opcode.kk_ofBytes _ _
  have fetchLog : m.toCore.behind.bus.log
      = #[⟨.read, m.cpu.pc, m.bus.cells m.cpu.pc⟩,
          ⟨.read, m.cpu.pc + 1, m.bus.cells (m.cpu.pc + 1)⟩] := if_pos inside
  have log : snapshot.log = [⟨.read, m.cpu.pc, m.bus.cells m.cpu.pc⟩]
      ++ [⟨.read, m.cpu.pc + 1, m.bus.cells (m.cpu.pc + 1)⟩] ++ entries := by
    rw [Snapshot.log, done.accesses, grown, fetchLog]
    simp
  constructor
  · refine ⟨entries, ?_⟩
    rw [high, kk]
    exact log
  · have first := Explains.read m.bus.cells m.cpu.pc ⟨low, by omega⟩ (cells_isByte wf _)
    have second := Explains.read m.bus.cells (m.cpu.pc + 1) ⟨by omega, by omega⟩ (cells_isByte wf _)
    rw [log, done.last]
    exact (first.append second).append explained

/-- The logs of a run of steps, one after another. -/
def logs (snapshots : List Snapshot) : List Access :=
  snapshots.flatMap Snapshot.log

theorem explains_logs (wf : m.toCore.WellFormed) {n : Nat} {snapshots : List Snapshot}
    (ran : m.stepTimes n = .done snapshots last) :
    Explains m.bus.cells (logs snapshots) last.bus.cells := by
  induction n generalizing m snapshots with
  | zero =>
    cases ran
    exact .nil _
  | succ n ih =>
    obtain ⟨snapshot, next, rest, first, later, rfl⟩ := stepTimes_succ ran
    exact (log_of_step wf first).2.append (ih (wellFormed_of_step wf first) later)

theorem startsAt_of_stepTimes (wf : m.toCore.WellFormed) {n : Nat} {snapshots : List Snapshot}
    (ran : m.stepTimes n = .done snapshots last) (k : Nat) (found : snapshots[k]? = some snapshot) :
    snapshot.StartsAt (m.stepTimes k).state.cpu.pc := by
  induction n generalizing m snapshots k with
  | zero =>
    cases ran
    simp at found
  | succ n ih =>
    obtain ⟨head, next, rest, first, later, rfl⟩ := stepTimes_succ ran
    cases k with
    | zero =>
      cases Option.some.inj found
      exact (log_of_step wf first).1
    | succ k =>
      rw [state_stepTimes_succ first]
      exact ih (wellFormed_of_step wf first) later k found

def withLog (m : Machine) (log : Array Access) : Machine :=
  m.withBus { m.bus with log }

theorem withLog_wellFormed (wf : m.toCore.WellFormed) (log : Array Access) :
    (m.withLog log).toCore.WellFormed := by
  obtain ⟨memory, old, bus⟩ := wf.bus
  refine ⟨wf.cpu, memory, log, ?_⟩
  rw [withLog, bus]
  rfl

/-- Whatever entries were left in the log of the bus, the logs of a run of steps account for the
memory after it, and every one of them starts with the operand bytes at the counter before the
step. -/
theorem logs_replay_memory (reachable : m.Reachable) (left : Array Access) {n : Nat}
    {snapshots : List Snapshot} (ran : (m.withLog left).stepTimes n = .done snapshots last) :
    snapshots.length = n ∧ Explains m.bus.cells (logs snapshots) last.bus.cells ∧
      ∀ (k : Nat) (snapshot : Snapshot), snapshots[k]? = some snapshot →
        snapshot.StartsAt ((m.withLog left).stepTimes k).state.cpu.pc := by
  have wf := withLog_wellFormed reachable.wellFormed left
  refine ⟨length_of_stepTimes ran, explains_logs wf ran, ?_⟩
  intro k snapshot found
  exact startsAt_of_stepTimes wf ran k found

/-- A program that points the index at its own start and stores a register there. -/
theorem logs_replay_memory_rewriting :
    ∃ (m : Machine) (snapshots : List Snapshot) (last : Machine), m.Reachable ∧
      (m.withLog #[⟨.write, 0, 7⟩]).stepTimes 2 = .done snapshots last ∧
      snapshots.map Snapshot.instruction = [.setIndex 0x200, .store 0] ∧
      snapshots.length = 2 ∧ Explains m.bus.cells (logs snapshots) last.bus.cells ∧
      ∀ (k : Nat) (snapshot : Snapshot), snapshots[k]? = some snapshot →
        snapshot.StartsAt ((m.withLog #[⟨.write, 0, 7⟩]).stepTimes k).state.cpu.pc := by
  have fits : ([0xA2, 0x00, 0xF0, 0x55] : Program).length ≤ maxProgramSize := by decide
  have reachable := reachable_ofBus fits 0
  have wf := withLog_wellFormed reachable.wellFormed #[⟨.write, 0, 7⟩]
  have point : Opcode.decode 0xA200 = .setIndex 0x200 := by decide
  have pointed : Opcode.ofBytes 0xA2 0x00 = 0xA200 := by decide
  have store : Opcode.decode 0xF055 = .store 0 := by decide
  have stores : Opcode.ofBytes 0xF0 0x55 = 0xF055 := by decide
  obtain ⟨one, _, ended, set, done⟩ :=
    executed_of_image wf fits rfl (k := 0) rfl (by decide) point pointed rfl
  obtain ⟨two, last, core', ended', stored, done'⟩ :=
    exists_executed_of_image (wellFormed_of_step wf ended) fits (by rw [done.last]; rfl) (k := 2)
      (by rw [done.last]; decide) (by decide) store stores (by rw [done.last]; decide)
  have ran : (withLog (ofBus (.holding (Memory.image [0xA2, 0x00, 0xF0, 0x55]) #[]) (some 0))
      #[⟨.write, 0, 7⟩]).stepTimes 2 = .done [one, two] last := by
    simp [stepTimes, ended, ended']
  exact ⟨_, _, _, reachable, ran, by simp [set, stored], logs_replay_memory reachable _ ran⟩

end Machine

end Chip8
