import Chip8.Fault
import Chip8.Instruction.Text
import Chip8.Text.Basic

/-!
Notices: what the machine and its tools report while they work. A notice is the event; its level,
its source and its text are read off it.
-/

namespace Chip8

inductive Level where
  | debug
  | info
  | warning
  | error
deriving DecidableEq, Repr

namespace Level

def name : Level → String
  | debug => "DEBUG"
  | info => "INFO"
  | warning => "WARNING"
  | error => "ERROR"

def ofName? : String → Option Level
  | "DEBUG" => some debug
  | "INFO" => some info
  | "WARNING" => some warning
  | "ERROR" => some error
  | _ => none

def rank : Level → Nat
  | debug => 0
  | info => 1
  | warning => 2
  | error => 3

end Level

inductive Notice where
  | machineCodeIgnored (target : Fin 4096)
  | unknownSkipped (opcode pc : Int)
  | programLoaded (size : Nat)
  | settingIgnored (name : Text)
  | timersOutpace (timerHz cpuHz : Int)
  | sessionHalted (pc : Int) (fault : Fault)
  | headlessEnded (executed requested : Int) (ticks : Nat)
  | startFailed (reason : String)
deriving DecidableEq, Repr

def unknownOpcodeText (opcode pc : Int) : String :=
  "Unknown opcode " ++ Text.Hex.marked 6 opcode ++ " at PC " ++ Text.Hex.marked 5 pc

namespace Notice

def level : Notice → Level
  | machineCodeIgnored _ => .debug
  | unknownSkipped _ _ | settingIgnored _ | timersOutpace _ _ => .warning
  | programLoaded _ | headlessEnded _ _ _ => .info
  | sessionHalted _ _ | startFailed _ => .error

def source : Notice → String
  | machineCodeIgnored _ | unknownSkipped _ _ => "chip8_tracer.arch.chip8.instructions.control"
  | programLoaded _ => "chip8_tracer.loader.loader"
  | settingIgnored _ => "chip8_tracer.config.loader"
  | timersOutpace _ _ => "chip8_tracer.config.builder"
  | sessionHalted _ _ | headlessEnded _ _ _ => "chip8_tracer.runtime.session"
  | startFailed _ => "chip8_tracer.ui.app"

def text : Notice → String
  | machineCodeIgnored target => "Machine code jump to " ++ addressText target ++ " ignored"
  | unknownSkipped opcode pc => unknownOpcodeText opcode pc ++ "; skipped"
  | programLoaded size => "Loaded " ++ toString size ++ " byte program at 0x200"
  | settingIgnored name => "Ignoring unknown configuration key '" ++ name.written ++ "'"
  | timersOutpace timerHz cpuHz =>
    "timer_hz (" ++ toString timerHz ++ ") exceeds cpu_hz (" ++ toString cpuHz ++ ")"
  | sessionHalted pc fault =>
    "Session halted at PC " ++ Text.Hex.marked 5 pc ++ ": " ++ fault.message
  | headlessEnded executed requested ticks =>
    "Headless run executed " ++ toString executed ++ "/" ++ toString requested ++ " steps, "
      ++ toString ticks ++ " timer ticks"
  | startFailed reason => "Failed to start: " ++ reason

def line (n : Notice) : String :=
  n.level.name ++ " " ++ n.source ++ ": " ++ n.text

end Notice

end Chip8
