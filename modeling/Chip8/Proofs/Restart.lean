import Chip8.Proofs.Countdown

/-! Restarts. A reset leaves two things of a machine behind, besides its memory: the log of the bus
and the count of ticks. No answer of the machine depends on them, so that after a reset a machine
answers as a new one would on the same memory. -/

namespace Chip8

/-- What an event gives to whoever sent it: a step a snapshot or a fault, a request for a frame the
frame or none, and the other events nothing. -/
inductive Answer where
  | stepped (result : Except Fault Snapshot)
  | frame (picture? : Option Display)
  | silent

namespace Bus

theorem load_clearLog (bus : Bus) (address data : Int) :
    bus.clearLog.load address data = (bus.load address data).map clearLog := by
  have place : bus.clearLog.resolve? address = bus.resolve? address := rfl
  have devices : bus.clearLog.devices = bus.devices := rfl
  rw [load, load, place, devices]
  split
  · rfl
  · split
    · rfl
    · split <;> rfl

theorem write_clearLog (bus : Bus) (address data : Int) :
    (bus.clearLog.write address data).map clearLog = (bus.write address data).map clearLog := by
  rw [write, write, load_clearLog]
  cases bus.load address data <;> rfl

end Bus

namespace Machine

def answer (m : Machine) : Event → Answer
  | .step => .stepped m.step.result
  | .takeFrame => .frame m.takeFrame.1
  | .tick | .setKey _ _ | .reset _ | .load _ _ | .write _ _ => .silent

def answers (m : Machine) : List Event → List Answer
  | [] => []
  | event :: rest => m.answer event :: (m.after event).answers rest

/-- Two machines that differ at most in the log of the bus and in the count of ticks. -/
structure Twin (m n : Machine) : Prop where
  cpu : m.cpu = n.cpu
  bus : m.bus.clearLog = n.bus.clearLog
  seed : m.seed = n.seed
  cycles : m.cycles = n.cycles

namespace Twin

variable {m n : Machine}

theorem withCpu (twin : m.Twin n) {cpu other : Cpu} (same : cpu = other) :
    (m.withCpu cpu).Twin (n.withCpu other) :=
  { twin with cpu := same }

theorem accessed (twin : m.Twin n) {one two : Except Fault Bus}
    (same : one.map Bus.clearLog = two.map Bus.clearLog) :
    (m.accessed one).Twin (n.accessed two) := by
  cases one with
  | error f =>
    cases two with
    | error g => exact twin
    | ok bus => cases same
  | ok bus =>
    cases two with
    | error g => cases same
    | ok other => exact { twin with bus := Except.ok.inj same }

theorem given (twin : m.Twin n) (random : Generator) :
    (m.given random).Twin (n.given random) := by
  rw [Machine.given, Machine.given, twin.seed]
  split
  · exact twin
  · exact twin.withCpu (by rw [twin.cpu])

/-- A step clears the log before it looks at the bus. -/
theorem step (twin : m.Twin n) :
    m.step.result = n.step.result ∧ m.step.state.Twin n.step.state := by
  have start : m.toCore.withBus m.bus.clearLog = n.toCore.withBus n.bus.clearLog := by
    rw [Core.withBus, Core.withBus, twin.cpu, twin.bus]
  have same : m.toCore.step = n.toCore.step := by rw [Core.step, Core.step, start]
  rw [Machine.step, Machine.step, same, twin.cpu]
  cases n.toCore.step with
  | mk result core =>
    cases result with
    | error f => exact ⟨rfl, rfl, rfl, twin.seed, twin.cycles⟩
    | ok opcode =>
      have cycles : (m.withCore core).cycles = (n.withCore core).cycles := twin.cycles
      simp only [Outcome.onState, Outcome.andThen, cycles]
      exact ⟨rfl, rfl, rfl, twin.seed, rfl⟩

theorem after (twin : m.Twin n) (event : Event) :
    m.answer event = n.answer event ∧ (m.after event).Twin (n.after event) := by
  cases event with
  | step =>
    obtain ⟨result, states⟩ := twin.step
    exact ⟨congrArg Answer.stepped result, states⟩
  | tick => exact ⟨rfl, { twin with cpu := congrArg Cpu.tick twin.cpu }⟩
  | setKey key held =>
    rw [after_setKey, after_setKey]
    exact ⟨rfl, twin.withCpu (by rw [twin.cpu])⟩
  | takeFrame =>
    rw [Machine.after, Machine.after, answer, answer, takeFrame_eq, takeFrame_eq, twin.cpu]
    exact ⟨rfl, twin.withCpu rfl⟩
  | reset random =>
    have reset : m.reset.Twin n.reset := by
      refine ⟨?_, twin.bus, twin.seed, rfl⟩
      rw [Machine.reset, Machine.reset, twin.seed]
    exact ⟨rfl, reset.given random⟩
  | load address byte =>
    refine ⟨rfl, twin.accessed ?_⟩
    rw [← Bus.load_clearLog, ← Bus.load_clearLog, twin.bus]
  | write address byte =>
    refine ⟨rfl, twin.accessed ?_⟩
    rw [← Bus.write_clearLog, ← Bus.write_clearLog n.bus, twin.bus]

theorem afterAll (twin : m.Twin n) (events : List Event) :
    m.answers events = n.answers events ∧ (m.afterAll events).Twin (n.afterAll events) := by
  induction events generalizing m n with
  | nil => exact ⟨rfl, twin⟩
  | cons event rest ih =>
    obtain ⟨now, next⟩ := twin.after event
    obtain ⟨later, last⟩ := ih next
    exact ⟨by rw [answers, answers, now, later], last⟩

end Twin

variable {m : Machine} {seed : Int}

theorem twin_of_reset (seeded : m.seed = some seed) {memory : Memory} {log : Array Access}
    (bus : m.bus = .holding memory log) :
    m.reset.Twin (ofBus (.holding memory #[]) (some seed)) where
  cpu := by
    rw [reset, seeded]
    rfl
  bus := by
    change m.bus.clearLog = _
    rw [bus]
    rfl
  seed := seeded
  cycles := rfl

/-- After a reset a machine with a seed cannot be told from a new one with that seed on a new bus
that holds the same bytes. All steps, frames and faults to come are the same, and so is what is left
of processor, memory and cycle count; only the count of ticks stays ahead by what it was. -/
theorem reset_like_new (reachable : m.Reachable) (seeded : m.seed = some seed) :
    ∃ memory : Memory, (∀ a : Fin 4096, m.bus.peek a.val = .ok (memory.byte a.val)) ∧
      ∀ events : List Event,
        let reset := m.reset
        let new := ofBus (.holding memory #[]) (some seed)
        reset.answers events = new.answers events ∧
          (reset.afterAll events).Twin (new.afterAll events) ∧
          (reset.afterAll events).ticks = m.ticks + (new.afterAll events).ticks := by
  have wf := reachable.wellFormed
  obtain ⟨memory, log, bus⟩ := wf.bus
  have kept : m.reset.toCore.WellFormed := ⟨Cpu.initial_wellFormed _, wf.bus⟩
  have new := ofBus_wellFormed memory #[] (some seed)
  refine ⟨memory, ?_, ?_⟩
  · intro a
    rw [bus, Bus.peek_holding memory log a.isLt]
  · intro events
    obtain ⟨same, last⟩ := (twin_of_reset seeded bus).afterAll events
    have zero : (ofBus (.holding memory #[]) (some seed)).ticks = 0 := rfl
    refine ⟨same, last, ?_⟩
    rw [ticks_afterAll kept, ticks_afterAll new, zero, Nat.zero_add]
    rfl

/-- A program that returns from nowhere. The step that failed has left its two reads in the log, and
a tick is counted; neither is noticed after a reset. -/
theorem reset_like_new_underflow :
    ∃ (m : Machine) (memory : Memory), m.Reachable ∧ m.seed = some 7 ∧ m.bus.log.size = 2 ∧
      m.ticks = 1 ∧ (∀ a : Fin 4096, m.bus.peek a.val = .ok (memory.byte a.val)) ∧
      ∀ events : List Event,
        m.reset.answers events = (ofBus (.holding memory #[]) (some 7)).answers events ∧
          (m.reset.afterAll events).Twin ((ofBus (.holding memory #[]) (some 7)).afterAll events) ∧
          (m.reset.afterAll events).ticks
            = 1 + ((ofBus (.holding memory #[]) (some 7)).afterAll events).ticks := by
  have fits : ([0x00, 0xEE] : Program).length ≤ maxProgramSize := by decide
  have start := reachable_ofBus fits 7
  have ret : Opcode.decode 0x00EE = .ret := by decide
  have returns : Opcode.ofBytes 0x00 0xEE = 0x00EE := by decide
  have fault := fault?_of_image (m := ofBus (.holding (Memory.image [0x00, 0xEE]) #[]) (some 7))
    fits rfl (k := 0) rfl (by decide) ret returns
  have empty : (ofBus (.holding (Memory.image [0x00, 0xEE]) #[]) (some 7)).cpu.sp = 0 := rfl
  rw [Instruction.fault?, if_pos empty] at fault
  have stopped := step_fault start.wellFormed fault
  have reachable := Reachable.after .tick (.after .step start)
  rw [after, stopped] at reachable
  obtain ⟨memory, bytes, same⟩ := reset_like_new reachable rfl
  exact ⟨_, memory, reachable, rfl, rfl, rfl, bytes, same⟩

end Machine

end Chip8
