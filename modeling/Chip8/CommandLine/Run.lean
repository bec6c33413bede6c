import Chip8.CommandLine.Arguments
import Chip8.Config.Read
import Chip8.Headless
import Chip8.Yaml.Load

/-!
The work behind the command line: the configuration is put together from its file and the
arguments, and a run without a window is made. Failures of files and configurations end the program
with a notice; others leave it.
-/

namespace Chip8.CommandLine

inductive Failure where
  | file (error : FileError)
  | load (error : Yaml.LoadError)
  | read (error : ReadError)
  | build (error : BuildError)
  | fault (fault : Fault)
  | blank (setting : Setting)
  | noWindow
deriving DecidableEq, Repr

def Failure.reason? : Failure → Option String
  | file e => if e.isRefusal then some e.message else none
  | load _ => none
  | read (.invalid e) => e.message?
  | read _ => none
  | build (.config e) => e.message?
  | build (.program e) => some e.message
  | build (.file e) => if e.isRefusal then some e.message else none
  | fault _ | blank _ => none
  | noWindow => some "no window is available, use --headless"

structure Result (α : Type) where
  notices : List Notice
  result : Except Failure α

def readLoaded : Except Yaml.LoadError Document → Result Config
  | .error e => ⟨[], .error (.load e)⟩
  | .ok value =>
    let reading := Config.ofDocument (if value.isEmpty then .mapping [] else value)
    ⟨reading.notices, reading.result.mapError .read⟩

def readConfigText (text : Text) : Result Config :=
  readLoaded (Yaml.load text)

def readConfigBytes (bytes : List UInt8) : Result Config :=
  readLoaded (Yaml.loadFile bytes)

/-- A configuration after the arguments have overridden it. An option without a value leaves its
setting open. -/
structure Resolved where
  config : Config
  openRate : Bool := false
  openSeed : Bool := false

def Arguments.applyTo (a : Arguments) (c : Config) : Resolved where
  config := { c with
    rom := match a.rom with
      | some name => if name.isEmpty then c.rom else .text name
      | none => c.rom
    cpuHz := match a.cpuHz with
      | .value n => n
      | _ => c.cpuHz
    seed := match a.seed with
      | .value n => some n
      | _ => c.seed }
  openRate := a.cpuHz = .blank
  openSeed := a.seed = .blank

def Arguments.resolve {m : Type → Type} [Monad m] (a : Arguments) (read : FileReader m) :
    m (Result Resolved) := do
  let base : Result Config ← match a.config with
    | none | some [] => pure ⟨[], .ok {}⟩
    | some name =>
      match ← read name with
      | .error e => pure ⟨[], .error (.file e)⟩
      | .ok bytes => pure (readConfigBytes bytes)
  return ⟨base.notices, base.result.map a.applyTo⟩

/-- The run of a configuration. What is wrong with it counts before an open setting does, as far as
it is found without that setting; an open number of steps counts last. -/
def Resolved.run {m : Type → Type} [Monad m] (r : Resolved) (read : FileReader m)
    (steps : Option Int) : m (Result Run) := do
  if r.openRate then
    if r.config.isSupported then return ⟨[], .error (.blank .cpuHz)⟩
    else return ⟨[], .error (.build (.config (.unsupported r.config.architecture)))⟩
  else if r.openSeed then
    match r.config.validate with
    | .error e => return ⟨[], .error (.build (.config e))⟩
    | .ok notices => return ⟨notices, .error (.blank .seed)⟩
  else
    let built : Build ← r.config.build read none
    match built.result, steps with
    | .error e, _ => return ⟨built.notices, .error (.build e)⟩
    | .ok _, none => return ⟨built.notices, .error (.blank .headless)⟩
    | .ok _, some steps =>
      let made := built.run r.config steps
      return ⟨made.notices,
        match made.result with
        | .error e => .error (.build e)
        | .ok run =>
          match run.escaped with
          | some f => .error (.fault f)
          | none => .ok run⟩

def Arguments.perform {m : Type → Type} [Monad m] (a : Arguments) (read : FileReader m)
    (fallback : Int) : m (Result Run) := do
  let resolved ← a.resolve read
  match resolved.result with
  | .error e => return ⟨resolved.notices, .error e⟩
  | .ok r =>
    let r := { r with config := { r.config with seed := r.config.seed <|> some fallback } }
    let made : Result Run ← match a.headless with
      | .absent => pure ⟨[], .error .noWindow⟩
      | .blank => r.run read none
      | .value steps => r.run read (some steps)
    return ⟨resolved.notices ++ made.notices, made.result⟩

/-- The end of the program: the lines of the log at the level that was asked for, and the exit
code, or a failure that the program does not report. -/
structure Ending where
  lines : List String
  exit : Except Failure UInt32

/-- The end of a run: one if a fault halted it, two if it failed to start, and else zero. -/
def Result.ending (r : Result Run) (level : Level) : Ending :=
  let shown (ns : List Notice) := (ns.filter fun n => level.rank ≤ n.level.rank).map Notice.line
  match r.result with
  | .ok run => ⟨shown r.notices, .ok (if run.session.lastError.isSome then 1 else 0)⟩
  | .error e =>
    match e.reason? with
    | some reason => ⟨shown (r.notices ++ [.startFailed reason]), .ok 2⟩
    | none => ⟨shown r.notices, .error e⟩

/-- Runs the program with arguments and a seed for the runs that name none. The log needs its level
before anything else is done. -/
def Arguments.run {m : Type → Type} [Monad m] (a : Arguments) (read : FileReader m)
    (fallback : Int) : m Ending := do
  match a.logLevel with
  | .value level => return (← a.perform read fallback).ending level
  | _ => return ⟨[], .error (.blank .logLevel)⟩

end Chip8.CommandLine
