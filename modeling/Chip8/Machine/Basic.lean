import Chip8.Instruction.Execute
import Chip8.Notice

/-!
The machine: a core with its seed and its counters. A step fetches the word at the program counter,
moves the counter behind it and executes; a bounds fault takes the counter back. What a step did is
kept in a snapshot.
-/

namespace Chip8

/-- A core, the seed of its random bytes, the steps it has completed and the ticks of its timers. -/
structure Machine extends Core where
  seed : Option Int := none
  cycles : Nat := 0
  ticks : Nat := 0

/-- What one completed step did: the address and the word of its instruction, the cycle count after
it, its accesses to the bus, and the state it left. -/
structure Snapshot where
  address : Int
  opcode : Opcode
  cycles : Nat
  accesses : Array Access
  cpu : Cpu

namespace Snapshot

def instruction (s : Snapshot) : Instruction :=
  s.opcode.decode

def symbol (s : Snapshot) : String :=
  Text.Hex.upper 3 s.address ++ ": " ++ s.instruction.text

end Snapshot

def Instruction.notice? (pc : Int) : Instruction → Option Notice
  | sys target => some (.machineCodeIgnored target)
  | unknown opcode => some (.unknownSkipped opcode ((pc - instructionLength) % 0x10000))
  | _ => none

/-- What the step behind a snapshot reported. An instruction that reports does not jump, so the
state after it has the program counter behind it. -/
def Snapshot.notice? (s : Snapshot) : Option Notice :=
  s.instruction.notice? s.cpu.pc

namespace Core

def fetch (core : Core) : Outcome Core Opcode :=
  match checkRange core.cpu.pc instructionLength with
  | .error f => .fault f core
  | .ok () =>
    match core.bus.read core.cpu.pc with
    | .error f => .fault f core
    | .ok (hi, bus) =>
      match bus.read (core.cpu.pc + 1) with
      | .error f => .fault f (core.withBus bus)
      | .ok (lo, bus) => .done (.ofBytes hi lo) (core.withBus bus)

def executeFetched (core : Core) (op : Opcode) : Outcome Core Unit :=
  match op.decode.execute (core.withCpu (core.cpu.jump (core.cpu.pc + instructionLength))) with
  | ⟨.error f, after⟩ =>
    -- Of a bounds fault the processor is to show the instruction that met it.
    .fault f (if f.isBounds then after.withCpu { after.cpu with pc := core.cpu.pc } else after)
  | done => done

def step (core : Core) : Outcome Core Opcode :=
  (core.withBus core.bus.clearLog).fetch.andThen fun op core =>
    (core.executeFetched op).andThen fun _ core => .done op core

end Core

namespace Machine

def ofBus (bus : Bus) (seed : Option Int) : Machine where
  cpu := .initial (.ofSeed (seed.getD 0))
  bus := bus
  seed := seed

def withCore (m : Machine) (core : Core) : Machine :=
  { m with toCore := core }

def withCpu (m : Machine) (cpu : Cpu) : Machine :=
  { m with cpu }

def withBus (m : Machine) (bus : Bus) : Machine :=
  { m with bus }

/-- One step. On success the log of the bus moves into the snapshot; a failed step leaves its
accesses in the log. -/
def step (m : Machine) : Outcome Machine Snapshot :=
  let address := m.cpu.pc
  (m.toCore.step.onState m.withCore).andThen fun opcode m =>
    let cycles := m.cycles + 1
    .done { address, opcode, cycles, accesses := m.bus.log, cpu := m.cpu }
      { m with cycles, bus := m.bus.clearLog }

def tick (m : Machine) : Machine :=
  { m with cpu := m.cpu.tick, ticks := m.ticks + 1 }

def tickTimes (m : Machine) : Nat → Machine
  | 0 => m
  | n + 1 => m.tick.tickTimes n

/-- Processor, random bytes and cycle count as at power on; memory, log and ticks stay. -/
def reset (m : Machine) : Machine :=
  { m with cpu := .initial (.ofSeed (m.seed.getD 0)), cycles := 0 }

def setKey? (m : Machine) (key : Int) (held : Bool) : Option Machine :=
  (m.cpu.setKey? key held).map m.withCpu

def takeFrame (m : Machine) : Option Display × Machine :=
  let (frame?, cpu) := m.cpu.takeFrame
  (frame?, m.withCpu cpu)

/-- Decodes and executes a word without a fetch: the program counter does not move on, no cycle
counts, and a fault does not take the counter back. -/
def perform (m : Machine) (op : Opcode) : Outcome Machine Unit :=
  (op.decode.execute m.toCore).onState m.withCore

end Machine

end Chip8
