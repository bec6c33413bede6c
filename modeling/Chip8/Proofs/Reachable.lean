import Chip8.Proofs.Placement
import Chip8.Proofs.Step

/-! Reachable machines: what can become of a system that was built, through steps, ticks, keys,
frames, resets and bytes from outside. Every one of them is well-formed. While a program lies in
memory as it was loaded, its words can be followed one by one. -/

namespace Chip8

inductive Event where
  | step
  | tick
  | setKey (key : Fin 16) (held : Bool)
  | takeFrame
  /-- A reset. A machine without a seed starts again with the generator that it is given. -/
  | reset (given : Generator)
  | load (address : Fin 4096) (byte : UInt8)
  | write (address : Fin 4096) (byte : UInt8)

namespace Machine

/-- The machine with a generator from outside, if it has no seed of its own. -/
def given (m : Machine) (random : Generator) : Machine :=
  match m.seed with
  | some _ => m
  | none => m.withCpu { m.cpu with random }

/-- The machine with the bus of an access that succeeded. -/
def accessed (m : Machine) : Except Fault Bus → Machine
  | .ok bus => m.withBus bus
  | .error _ => m

def after (m : Machine) : Event → Machine
  | .step => m.step.state
  | .tick => m.tick
  | .setKey key held => (m.setKey? key.val held).getD m
  | .takeFrame => m.takeFrame.2
  | .reset random => m.reset.given random
  | .load address byte => m.accessed (m.bus.load address.val byte.toNat)
  | .write address byte => m.accessed (m.bus.write address.val byte.toNat)

/-- The machines that come of a system, built with any configuration and any program that were
accepted, through any events. -/
inductive Reachable : Machine → Prop
  | built {c : Config} {program : Except FileError Program} {m : Machine} (random : Generator) :
      (c.buildWith program).result = .ok m → Reachable (m.given random)
  | after {m : Machine} (event : Event) : Reachable m → Reachable (m.after event)

theorem given_of_seed {m : Machine} {seed : Int} (seeded : m.seed = some seed)
    (random : Generator) : m.given random = m := by
  simp only [given, seeded]

theorem bus_given (m : Machine) (random : Generator) : (m.given random).bus = m.bus := by
  unfold given
  split <;> rfl

theorem given_wellFormed {m : Machine} (wf : m.toCore.WellFormed) (random : Generator) :
    (m.given random).toCore.WellFormed := by
  unfold given
  split
  · exact wf
  · exact ⟨{ wf.cpu with }, wf.bus⟩

theorem ofBus_wellFormed (memory : Memory) (log : Array Access) (seed : Option Int) :
    (ofBus (.holding memory log) seed).toCore.WellFormed :=
  ⟨Cpu.initial_wellFormed _, memory, log, rfl⟩

end Machine

theorem Core.word_of_image (core : Core) {program : Program} {log : Array Access}
    (fits : program.length ≤ maxProgramSize)
    (bus : core.bus = .holding (Memory.image program) log) {k : Nat}
    (pc : core.cpu.pc = ((programStart + k : Nat) : Int)) (inside : k + 1 < program.length) :
    core.word = .ofBytes program[k] program[k + 1] := by
  have room : maxProgramSize = 0xE00 := rfl
  have start : programStart = 0x200 := rfl
  have next : core.cpu.pc + 1 = ((programStart + (k + 1) : Nat) : Int) := by omega
  rw [word, bus, next, pc, Bus.byteAt_holding _ _ (by omega), Bus.byteAt_holding _ _ (by omega),
    Memory.byte_image fits (by omega), Memory.byte_image fits inside]

namespace Machine

variable {m : Machine}

theorem step_wellFormed (wf : m.toCore.WellFormed) : m.step.state.toCore.WellFormed := by
  cases fault : m.toCore.fault? with
  | some f =>
    rw [step_fault wf fault]
    obtain ⟨memory, log, bus⟩ := wf.bus
    refine ⟨wf.cpu, memory, m.toCore.fetchLog, ?_⟩
    change { m.bus with log := m.toCore.fetchLog } = _
    rw [bus]
    rfl
  | none =>
    obtain ⟨after, _, kept, done⟩ := step_done wf fault
    rw [done]
    obtain ⟨memory, log, bus⟩ := kept.bus
    exact ⟨kept.cpu, memory, #[], congrArg Bus.clearLog bus⟩

theorem after_load {memory : Memory} {log : Array Access} (bus : m.bus = .holding memory log)
    (address : Fin 4096) (byte : UInt8) :
    m.after (.load address byte) = m.withBus (.holding (memory.put address.val byte) log) := by
  rw [after, bus, Bus.load_holding memory log address.isLt]
  rfl

theorem after_write {memory : Memory} {log : Array Access} (bus : m.bus = .holding memory log)
    (address : Fin 4096) (byte : UInt8) :
    m.after (.write address byte) = m.withBus
      (.holding (memory.put address.val byte) (log.push ⟨.write, address.val, byte.toNat⟩)) := by
  rw [after, bus, Bus.write_holding memory log address.isLt]
  rfl

theorem load_wellFormed (wf : m.toCore.WellFormed) (address : Fin 4096) (byte : UInt8) :
    (m.after (.load address byte)).toCore.WellFormed := by
  obtain ⟨memory, log, bus⟩ := wf.bus
  rw [after_load bus]
  exact ⟨wf.cpu, _, _, rfl⟩

theorem write_wellFormed (wf : m.toCore.WellFormed) (address : Fin 4096) (byte : UInt8) :
    (m.after (.write address byte)).toCore.WellFormed := by
  obtain ⟨memory, log, bus⟩ := wf.bus
  rw [after_write bus]
  exact ⟨wf.cpu, _, _, rfl⟩

theorem after_wellFormed (wf : m.toCore.WellFormed) (event : Event) :
    (m.after event).toCore.WellFormed := by
  cases event with
  | step => exact step_wellFormed wf
  | tick => exact ⟨wf.cpu.tick, wf.bus⟩
  | setKey key held =>
    rw [after, setKey?]
    cases pressed : m.cpu.setKey? key.val held with
    | none => exact wf
    | some cpu => exact ⟨wf.cpu.setKey? pressed, wf.bus⟩
  | takeFrame => exact ⟨wf.cpu.takeFrame, wf.bus⟩
  | reset random => exact given_wellFormed (m := m.reset) ⟨Cpu.initial_wellFormed _, wf.bus⟩ random
  | load address byte => exact load_wellFormed wf address byte
  | write address byte => exact write_wellFormed wf address byte

theorem Reachable.wellFormed (reachable : m.Reachable) : m.toCore.WellFormed := by
  induction reachable with
  | built random built =>
    obtain ⟨program, rfl⟩ := Config.result_buildWith built
    exact given_wellFormed (ofBus_wellFormed _ _ _) random
  | after event _ ih => exact after_wellFormed ih event

theorem built_ofBus {program : Program} (fits : program.length ≤ maxProgramSize) (seed : Int) :
    (({ seed := some seed } : Config).buildWith (.ok program)).result
      = .ok (ofBus (.holding (Memory.image program) #[]) (some seed)) := by
  have valid : ({ seed := some seed } : Config).validate = .ok [] := rfl
  exact Config.buildWith_eq valid fits

/-- Every program that fits is at the start of a reachable machine, with any seed. -/
theorem reachable_ofBus {program : Program} (fits : program.length ≤ maxProgramSize) (seed : Int) :
    (ofBus (.holding (Memory.image program) #[]) (some seed)).Reachable :=
  .built (.ofSeed seed) (built_ofBus fits seed)

theorem word_ofBus {hi lo : UInt8} {rest : Program}
    (fits : (hi :: lo :: rest).length ≤ maxProgramSize) (seed : Option Int) :
    (ofBus (.holding (Memory.image (hi :: lo :: rest)) #[]) seed).toCore.word = .ofBytes hi lo :=
  Core.word_of_image _ fits rfl (k := 0) rfl (by simp)

section Image

variable {program : Program} {log : Array Access} {k : Nat} {op : Opcode} {i : Instruction}

theorem inside_of_image (fits : program.length ≤ maxProgramSize)
    (pc : m.cpu.pc = ((programStart + k : Nat) : Int)) (inside : k + 1 < program.length) :
    m.cpu.pc ≤ 0xFFE := by
  have room : maxProgramSize = 0xE00 := rfl
  have start : programStart = 0x200 := rfl
  omega

theorem decode_of_image (fits : program.length ≤ maxProgramSize)
    (bus : m.bus = .holding (Memory.image program) log)
    (pc : m.cpu.pc = ((programStart + k : Nat) : Int)) (inside : k + 1 < program.length)
    (decoded : op.decode = i) (bytes : .ofBytes program[k] program[k + 1] = op) :
    m.toCore.word.decode = i := by
  rw [Core.word_of_image m.toCore fits bus pc inside, bytes, decoded]

/-- A word of the program in memory meets its fault where it stands. -/
theorem fault?_of_image (fits : program.length ≤ maxProgramSize)
    (bus : m.bus = .holding (Memory.image program) log)
    (pc : m.cpu.pc = ((programStart + k : Nat) : Int)) (inside : k + 1 < program.length)
    (decoded : op.decode = i) (bytes : .ofBytes program[k] program[k + 1] = op) :
    m.toCore.fault? = i.fault? m.cpu := by
  have within := inside_of_image fits pc inside
  rw [Core.fault?, if_neg (by omega), decode_of_image fits bus pc inside decoded bytes]

/-- A word of the program in memory is executed where it stands. -/
theorem exists_executed_of_image (wf : m.toCore.WellFormed)
    (fits : program.length ≤ maxProgramSize)
    (bus : m.bus = .holding (Memory.image program) log)
    (pc : m.cpu.pc = ((programStart + k : Nat) : Int)) (inside : k + 1 < program.length)
    (decoded : op.decode = i) (bytes : .ofBytes program[k] program[k + 1] = op)
    (harmless : i.fault? m.cpu = none) :
    ∃ snapshot last core, m.step = .done snapshot last ∧ snapshot.instruction = i ∧
      m.Executed snapshot last core := by
  have none := (fault?_of_image fits bus pc inside decoded bytes).trans harmless
  obtain ⟨snapshot, last, ended, same⟩ := exists_snapshot wf none
  obtain ⟨core, done⟩ := exists_executed wf ended
  exact ⟨snapshot, last, core, ended,
    same.trans (decode_of_image fits bus pc inside decoded bytes), done⟩

/-- When it is known what the instruction makes of the machine behind the fetch, no fault has to be
ruled out. -/
theorem executed_of_image (wf : m.toCore.WellFormed) (fits : program.length ≤ maxProgramSize)
    (bus : m.bus = .holding (Memory.image program) log)
    (pc : m.cpu.pc = ((programStart + k : Nat) : Int)) (inside : k + 1 < program.length)
    (decoded : op.decode = i) (bytes : .ofBytes program[k] program[k + 1] = op) {core : Core}
    (executed : i.execute m.toCore.behind = .done () core) :
    ∃ snapshot last, m.step = .done snapshot last ∧ snapshot.instruction = i ∧
      m.Executed snapshot last core := by
  have harmless := Core.fault?_eq_none_of_done wf (inside_of_image fits pc inside) executed
  obtain ⟨snapshot, last, other, ended, same, done⟩ :=
    exists_executed_of_image wf fits bus pc inside decoded bytes harmless
  have both := done.executed
  rw [same, executed] at both
  cases both
  exact ⟨snapshot, last, ended, same, done⟩

theorem after_step_of_image (wf : m.toCore.WellFormed) (fits : program.length ≤ maxProgramSize)
    (bus : m.bus = .holding (Memory.image program) log)
    (pc : m.cpu.pc = ((programStart + k : Nat) : Int)) (inside : k + 1 < program.length)
    (decoded : op.decode = i) (bytes : .ofBytes program[k] program[k + 1] = op) {core : Core}
    (executed : i.execute m.toCore.behind = .done () core) :
    m.after .step
      = { m with cpu := core.cpu, bus := core.bus.clearLog, cycles := m.cycles + 1 } := by
  obtain ⟨snapshot, last, ended, _, done⟩ :=
    executed_of_image wf fits bus pc inside decoded bytes executed
  rw [after, ended]
  exact done.last

end Image

end Machine

end Chip8
