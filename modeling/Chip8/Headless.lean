import Chip8.Session
import Chip8.System

/-!
Runs without a window: a system is built from a configuration and runs a number of steps.
-/

namespace Chip8

structure HeadlessRun where
  notices : List Notice
  result : Except BuildError Run

/-- The run of a machine that was built. A configuration that could be built has positive rates. -/
def Build.run (b : Build) (c : Config) (steps : Int) : HeadlessRun :=
  match b.result with
  | .error e => ⟨b.notices, .error e⟩
  | .ok machine =>
    let session := (Session.ofRates? c.cpuHz c.timerHz).getD {}
    let run := session.run machine steps
    let ended := match run.escaped with
      | some _ => []
      | none => [.headlessEnded run.executed steps run.machine.ticks]
    ⟨b.notices ++ run.notices ++ ended, .ok run⟩

def Config.runHeadless {m : Type → Type} [Monad m] (c : Config) (read : FileReader m)
    (program? : Option Program) (steps : Int) : m HeadlessRun := do
  return (← c.build read program?).run c steps

end Chip8
