import Chip8.Machine.Basic

/-!
Sessions: steps of the processor at one rate and ticks of the timers at another. After every step
the ticks that have fallen due are delivered; a bounds fault halts the session.
-/

namespace Chip8

structure Session where
  cpuHz : Nat := 500
  timerHz : Nat := 60
  lastError : Option Fault := none
  cpuHz_pos : 0 < cpuHz := by decide
  timerHz_pos : 0 < timerHz := by decide

/-- What a run gave: the session and the machine after it, the number of steps it reports, its
notices, and a fault that is no bounds fault and so leaves the run. -/
structure Run where
  session : Session
  machine : Machine
  executed : Int
  notices : List Notice
  escaped : Option Fault := none

namespace Session

def ofRates? (cpuHz timerHz : Int) : Option Session :=
  if h : 0 < cpuHz ∧ 0 < timerHz then
    some
      { cpuHz := cpuHz.toNat
        timerHz := timerHz.toNat
        cpuHz_pos := by omega
        timerHz_pos := by omega }
  else none

def ratesMessage : String := "cpu_hz and timer_hz must be positive."

/-- Delivers the ticks that are due: every `cpuHz` of what is pending are one. The rest stays
pending. -/
def deliver (s : Session) (m : Machine) (pending : Nat) : Machine × Nat :=
  if s.cpuHz ≤ pending then s.deliver m.tick (pending - s.cpuHz) else (m, pending)
termination_by pending
decreasing_by
  have positive := s.cpuHz_pos
  omega

/-- Runs `left` steps more. Each step adds `timerHz` to what is pending. -/
def runFrom (s : Session) (m : Machine) (pending executed : Nat) (notices : Array Notice) :
    (left : Nat) → Run
  | 0 => { session := s, machine := m, executed, notices := notices.toList }
  | left + 1 =>
    match m.step with
    | ⟨.ok snapshot, m⟩ =>
      let (m, pending) := s.deliver m (pending + s.timerHz)
      s.runFrom m pending (executed + 1) (notices ++ snapshot.notice?.toArray) left
    | ⟨.error f, m⟩ =>
      if f.isBounds then
        { session := { s with lastError := some f }
          machine := m
          executed
          notices := (notices.push (.sessionHalted m.cpu.pc f)).toList }
      else { session := s, machine := m, executed, notices := notices.toList, escaped := some f }

/-- Runs a number of steps. A negative number runs nothing and is reported as it is. -/
def run (s : Session) (m : Machine) (steps : Int) : Run :=
  if steps < 0 then { session := s, machine := m, executed := steps, notices := [] }
  else s.runFrom m 0 0 #[] steps.toNat

/-- The session as it is started: without the fault of an earlier run. -/
def start (s : Session) : Session :=
  { s with lastError := none }

end Session

end Chip8
