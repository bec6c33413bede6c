import Chip8.Machine.Basic
import Chip8.Proofs.Execution

/-! Steps of a well-formed machine. A step meets the fault that `Core.fault?` names, and then only
the log of the bus differs from before; or it ends, and its effect is that of the instruction whose
word lies at the program counter. -/

namespace Chip8

/-- The byte at an address, and zero where no cell answers. -/
def Bus.byteAt (bus : Bus) (address : Int) : UInt8 :=
  match bus.peek address with
  | .ok byte => byte
  | .error _ => 0

theorem Bus.byteAt_holding (memory : Memory) (log : Array Access) {a : Nat} (h : a < 4096) :
    (holding memory log).byteAt a = memory.byte a := by
  rw [byteAt, peek_holding memory log h]

namespace Core

def word (core : Core) : Opcode :=
  .ofBytes (core.bus.byteAt core.cpu.pc) (core.bus.byteAt (core.cpu.pc + 1))

/-- What a fetch logs: its two reads, or nothing when the word does not lie in memory. -/
def fetchLog (core : Core) : Array Access :=
  if core.cpu.pc ≤ 0xFFE then
    #[⟨.read, core.cpu.pc, (core.bus.byteAt core.cpu.pc).toNat⟩,
      ⟨.read, core.cpu.pc + 1, (core.bus.byteAt (core.cpu.pc + 1)).toNat⟩]
  else #[]

/-- The core after a fetch, with the program counter where it was. -/
def fetched (core : Core) : Core :=
  core.withBus { core.bus with log := core.fetchLog }

def behind (core : Core) : Core :=
  core.fetched.withCpu (core.cpu.jump (core.cpu.pc + instructionLength))

/-- The fault of a step, if it meets one: that of the fetch or that of the instruction. -/
def fault? (core : Core) : Option Fault :=
  if 0xFFE < core.cpu.pc then some (.memory (core.cpu.pc + 1) 0x1000)
  else core.word.decode.fault? core.cpu

variable {core : Core}

theorem fetch_of_reads {hi lo : UInt8} {between after : Bus}
    (range : checkRange core.cpu.pc instructionLength = .ok ())
    (first : core.bus.read core.cpu.pc = .ok (hi, between))
    (second : between.read (core.cpu.pc + 1) = .ok (lo, after)) :
    core.fetch = .done (.ofBytes hi lo) (core.withBus after) := by
  simp only [fetch, range, first, second]

theorem fetch_inside (wf : core.WellFormed) (inside : core.cpu.pc ≤ 0xFFE) :
    (core.withBus core.bus.clearLog).fetch = .done core.word core.fetched := by
  obtain ⟨memory, log, bus⟩ := wf.bus
  obtain ⟨p, pc⟩ := Int.eq_ofNat_of_zero_le wf.cpu.pc.1
  have next : core.cpu.pc + 1 = ((p + 1 : Nat) : Int) := by omega
  have range : checkRange core.cpu.pc instructionLength = .ok () := by
    have fits : ¬ (0x1000 : Int) < core.cpu.pc + 2 := by omega
    have length : (instructionLength : Int) = 2 := rfl
    rw [checkRange_eq_blockFault? wf.cpu.pc.1, length]
    simp [blockFault?, fits]
  have first : (core.bus.clearLog).read core.cpu.pc = .ok (memory.byte p,
      .holding memory #[⟨.read, p, (memory.byte p).toNat⟩]) := by
    rw [pc, bus, Bus.clearLog_holding, Bus.read_holding memory #[] (by omega)]
    rfl
  have second := Bus.read_holding memory #[⟨.read, p, (memory.byte p).toNat⟩]
    (show p + 1 < 4096 by omega)
  rw [← next] at second
  have low := Bus.byteAt_holding memory log (show p < 4096 by omega)
  have high := Bus.byteAt_holding memory log (show p + 1 < 4096 by omega)
  have done : (core.withBus core.bus.clearLog).fetch = _ := fetch_of_reads range first second
  rw [done, word, fetched, fetchLog, if_pos inside, next, pc, bus, low, high]
  rfl

theorem fetch_beyond (wf : core.WellFormed) (beyond : 0xFFE < core.cpu.pc) :
    (core.withBus core.bus.clearLog).fetch
      = .fault (.memory (core.cpu.pc + 1) 0x1000) core.fetched := by
  have range : checkRange core.cpu.pc instructionLength
      = .error (.memory (core.cpu.pc + 1) 0x1000) := by
    have outside : (0x1000 : Int) < core.cpu.pc + 2 := by omega
    have last : core.cpu.pc + 2 - 1 = core.cpu.pc + 1 := by omega
    have length : (instructionLength : Int) = 2 := rfl
    rw [checkRange_eq_blockFault? wf.cpu.pc.1, length]
    simp [blockFault?, outside, last]
  have outside : ¬ core.cpu.pc ≤ 0xFFE := by omega
  simp only [fetched, fetchLog, if_neg outside]
  simp only [fetch, withBus, range]
  rfl

theorem behind_wellFormed (wf : core.WellFormed) (inside : core.cpu.pc ≤ 0xFFE) :
    core.behind.WellFormed ∧ core.behind.cpu.Fetched := by
  have behind := wf.cpu.fetched inside
  obtain ⟨memory, log, bus⟩ := wf.bus
  refine ⟨⟨behind.toWellFormed, memory, core.fetchLog, ?_⟩, behind⟩
  change { core.bus with log := core.fetchLog } = _
  rw [bus]
  rfl

theorem fault?_eq_none_iff :
    core.fault? = none ↔ core.cpu.pc ≤ 0xFFE ∧ core.word.decode.fault? core.cpu = none := by
  unfold fault?
  by_cases beyond : 0xFFE < core.cpu.pc
  · have outside : ¬ core.cpu.pc ≤ 0xFFE := by omega
    simp [beyond, outside]
  · have inside : core.cpu.pc ≤ 0xFFE := by omega
    simp [beyond, inside]

/-- An instruction meets the same fault before and behind its fetch: none depends on the program
counter. -/
theorem fault?_behind (i : Instruction) : i.fault? core.behind.cpu = i.fault? core.cpu := by
  cases i <;> rfl

theorem fault?_eq_none_of_done (wf : core.WellFormed) (inside : core.cpu.pc ≤ 0xFFE)
    {i : Instruction} {after : Core} (executed : i.execute core.behind = .done () after) :
    i.fault? core.cpu = none := by
  cases fault : i.fault? core.cpu with
  | none => rfl
  | some f =>
    obtain ⟨behind, _⟩ := behind_wellFormed wf inside
    rw [Instruction.execute_fault behind.cpu ((fault?_behind i).trans fault)] at executed
    cases congrArg Outcome.result executed

theorem executeFetched_done {op : Opcode} {after : Core}
    (h : op.decode.execute core.behind = .done () after) :
    core.fetched.executeFetched op = .done () after := by
  have executed : op.decode.execute (core.fetched.withCpu
      (core.fetched.cpu.jump (core.fetched.cpu.pc + instructionLength))) = .done () after := h
  rw [executeFetched, executed]
  rfl

/-- A bounds fault takes the program counter back, and the core behind has no other change. -/
theorem executeFetched_fault {op : Opcode} {f : Fault}
    (h : op.decode.execute core.behind = .fault f core.behind) (bounds : f.isBounds = true) :
    core.fetched.executeFetched op = .fault f core.fetched := by
  have executed : op.decode.execute (core.fetched.withCpu
      (core.fetched.cpu.jump (core.fetched.cpu.pc + instructionLength)))
        = .fault f core.behind := h
  rw [executeFetched, executed, Outcome.fault]
  simp only [bounds, if_true]
  rfl

/-- A step that meets a fault leaves nothing behind but the log of its fetch. -/
theorem step_fault (wf : core.WellFormed) {f : Fault} (h : core.fault? = some f) :
    core.step = .fault f core.fetched := by
  unfold fault? at h
  split at h
  · rename_i beyond
    cases h
    rw [step, fetch_beyond wf beyond]
    rfl
  · rename_i inside
    obtain ⟨behind, fetched⟩ := behind_wellFormed wf (by omega)
    have refused := Instruction.execute_fault behind.cpu ((fault?_behind _).trans h)
    have bounds := Instruction.isBounds_of_fault? h
    rw [step, fetch_inside wf (by omega), Outcome.andThen_done]
    have back := executeFetched_fault refused bounds
    rw [back, Outcome.andThen_fault]

/-- A step that meets no fault ends with what the instruction makes of the core behind it. -/
theorem step_done (wf : core.WellFormed) (h : core.fault? = none) :
    ∃ after, core.word.decode.execute core.behind = .done () after ∧ after.WellFormed ∧
      core.step = .done core.word after := by
  obtain ⟨inside, harmless⟩ := fault?_eq_none_iff.mp h
  obtain ⟨behind, fetched⟩ := behind_wellFormed wf inside
  obtain ⟨after, executed, kept⟩ :=
    Instruction.execute_ends behind fetched ((fault?_behind _).trans harmless)
  refine ⟨after, executed, kept, ?_⟩
  have done := executeFetched_done executed
  rw [step, fetch_inside wf inside, Outcome.andThen_done, done, Outcome.andThen_done]

end Core

namespace Machine

variable {m : Machine}

theorem step_fault (wf : m.toCore.WellFormed) {f : Fault} (h : m.toCore.fault? = some f) :
    m.step = .fault f (m.withCore m.toCore.fetched) := by
  rw [step, Core.step_fault wf h]
  rfl

theorem step_done (wf : m.toCore.WellFormed) (h : m.toCore.fault? = none) :
    ∃ after, m.toCore.word.decode.execute m.toCore.behind = .done () after ∧ after.WellFormed ∧
      m.step = .done
        { address := m.cpu.pc
          opcode := m.toCore.word
          cycles := m.cycles + 1
          accesses := after.bus.log
          cpu := after.cpu }
        { m with cpu := after.cpu, bus := after.bus.clearLog, cycles := m.cycles + 1 } := by
  obtain ⟨after, executed, kept, done⟩ := Core.step_done wf h
  refine ⟨after, executed, kept, ?_⟩
  rw [step, done]
  rfl

theorem exists_snapshot (wf : m.toCore.WellFormed) (h : m.toCore.fault? = none) :
    ∃ snapshot after, m.step = .done snapshot after ∧
      snapshot.instruction = m.toCore.word.decode := by
  obtain ⟨last, _, _, done⟩ := step_done wf h
  exact ⟨_, _, done, rfl⟩

/-- What a step that ended did. -/
structure Executed (m : Machine) (snapshot : Snapshot) (last : Machine) (core : Core) : Prop where
  harmless : m.toCore.fault? = none
  executed : snapshot.instruction.execute m.toCore.behind = .done () core
  wellFormed : core.WellFormed
  address : snapshot.address = m.cpu.pc
  opcode : snapshot.opcode = m.toCore.word
  accesses : snapshot.accesses = core.bus.log
  last : last = { m with cpu := core.cpu, bus := core.bus.clearLog, cycles := m.cycles + 1 }

theorem exists_executed (wf : m.toCore.WellFormed) {snapshot : Snapshot} {last : Machine}
    (ended : m.step = .done snapshot last) : ∃ core, m.Executed snapshot last core := by
  cases fault : m.toCore.fault? with
  | some f =>
    rw [step_fault wf fault] at ended
    cases congrArg Outcome.result ended
  | none =>
    obtain ⟨core, executed, kept, done⟩ := step_done wf fault
    rw [done] at ended
    cases ended
    exact ⟨core, fault, executed, kept, rfl, rfl, rfl, rfl⟩

theorem Executed.inside {snapshot : Snapshot} {last : Machine} {core : Core}
    (done : m.Executed snapshot last core) : m.cpu.pc ≤ 0xFFE :=
  (Core.fault?_eq_none_iff.mp done.harmless).1

theorem Executed.passed {snapshot : Snapshot} {last : Machine} {core : Core}
    (done : m.Executed snapshot last core) : snapshot.instruction.fault? m.cpu = none := by
  rw [Snapshot.instruction, done.opcode]
  exact (Core.fault?_eq_none_iff.mp done.harmless).2

end Machine

end Chip8
