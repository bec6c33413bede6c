import Chip8.Config.Basic
import Chip8.File.Basic
import Chip8.Machine.Basic
import Chip8.Program

/-!
Building a system: a machine on the standard map with the font and a program, as a configuration
asks for. Files are read through a function of the caller.
-/

namespace Chip8

inductive BuildError where
  | config (error : ConfigError)
  | program (error : ProgramTooLarge)
  | file (error : FileError)
deriving DecidableEq, Repr

structure Build where
  notices : List Notice
  result : Except BuildError Machine

namespace Config

/-- The program that a configuration names: none if the name counts as nothing. -/
def romBytes {m : Type → Type} [Monad m] (read : FileReader m) (rom : Document) :
    m (Except FileError Program) :=
  if rom.isEmpty then return .ok []
  else
    match rom with
    | .text name => read name
    | .int n => return .error (.ofDescriptor n)
    | .bool _ => return .error .badDescriptor
    | _ => return .error .notName

/-- The machine with a program on the standard map. There every address of the image has a cell, so
that loading it ends well. -/
def machineWith (c : Config) (program : Program) : Except ProgramTooLarge Machine :=
  (Bus.standard.loadProgram program).map fun loaded => Machine.ofBus loaded.state c.seed

def buildWith (c : Config) (program : Except FileError Program) : Build :=
  match c.validate with
  | .error e => ⟨[], .error (.config e)⟩
  | .ok notices =>
    match program with
    | .error e => ⟨notices, .error (.file e)⟩
    | .ok program =>
      match c.machineWith program with
      | .error e => ⟨notices, .error (.program e)⟩
      | .ok machine => ⟨notices ++ [.programLoaded program.length], .ok machine⟩

def build {m : Type → Type} [Monad m] (c : Config) (read : FileReader m)
    (program? : Option Program) : m Build :=
  match program? with
  | some program => return c.buildWith (.ok program)
  | none => return c.buildWith (← romBytes read c.rom)

end Config

end Chip8
