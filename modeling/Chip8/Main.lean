import Chip8.CommandLine.Help
import Chip8.CommandLine.Run

/-!
The program: it reads files for the command line, prints the log and ends with the exit code.
-/

namespace Chip8.CommandLine

/-- Why the system gave no bytes for a name. A directory has an error number of its own. -/
def diskError (name : Text) : IO.Error → FileError
  | .inappropriateType _ 21 _ => .isDirectory name
  | .inappropriateType .. => .notDirectory name
  | .invalidArgument .. =>
    if name.contains (.char '\x00') then .nullCharacter else .nameTooLong name
  | _ => .notFound name

/-- The bytes of a file on disk. A name with surrogates is the name of none. -/
def readDisk : FileReader IO := fun name => do
  match name.chars? with
  | none => return .error (if (nameBytes? name).isSome then .notFound name else .notEncodable)
  | some cs =>
    try
      let bytes ← IO.FS.readBinFile (String.ofList cs)
      return .ok bytes.toList
    catch e => return .error (diskError name e)

def report (lines : List String) : IO Unit :=
  lines.forM fun line => IO.eprintln line

def freshSeed : IO Int := do
  let bytes ← IO.getRandomBytes 8
  return bytes.toList.foldl (fun (n : Int) b => n * 256 + b.toNat) 0

def start (a : Arguments) : IO UInt32 := do
  let ending ← a.run readDisk (← freshSeed)
  report ending.lines
  match ending.exit with
  | .ok code => return code
  | .error failure =>
    report ["chip8-tracer: " ++ (reprStr failure)]
    return 1

end Chip8.CommandLine

def main (words : List String) : IO UInt32 := do
  match Chip8.CommandLine.Request.ofWords (words.map Chip8.Text.ofString) with
  | .error e =>
    Chip8.CommandLine.report (Chip8.CommandLine.usageLines ++ [e.message])
    return 2
  | .ok .help =>
    Chip8.CommandLine.helpLines.forM fun line => IO.println line
    return 0
  | .ok (.start arguments) => Chip8.CommandLine.start arguments
