import Chip8.Bitwise
import Chip8.Bus.Basic
import Chip8.Bus.Block
import Chip8.Bus.Device
import Chip8.CommandLine.Arguments
import Chip8.CommandLine.Help
import Chip8.CommandLine.Run
import Chip8.Config.Basic
import Chip8.Config.Read
import Chip8.Cpu
import Chip8.Decimal.Shortest
import Chip8.Decimal.Text
import Chip8.Display
import Chip8.Document.Basic
import Chip8.Document.Text
import Chip8.Fault
import Chip8.File.Basic
import Chip8.File.Folder
import Chip8.Font
import Chip8.Headless
import Chip8.Instruction.Basic
import Chip8.Instruction.Decode
import Chip8.Instruction.Execute
import Chip8.Instruction.Text
import Chip8.Keymap
import Chip8.Machine.Basic
import Chip8.Machine.Inspect
import Chip8.Main
import Chip8.Notice
import Chip8.Opcode
import Chip8.Program
import Chip8.Random
import Chip8.Report
import Chip8.Session
import Chip8.System
import Chip8.Text.Basic
import Chip8.Text.Blank
import Chip8.Text.DecimalDigit
import Chip8.Text.Hex
import Chip8.Text.Numeral
import Chip8.Text.Printable
import Chip8.Text.Quoted
import Chip8.Text.Upper
import Chip8.Text.Utf8
import Chip8.Yaml.Cursor
import Chip8.Yaml.Error
import Chip8.Yaml.Load
import Chip8.Yaml.Node
import Chip8.Yaml.Resolve
import Chip8.Yaml.Scalar
import Chip8.Yaml.Token
import Chip8.Proofs.Execution
import Chip8.Proofs.Step
import Chip8.Proofs.Placement
import Chip8.Proofs.Reachable
import Chip8.Proofs.OpcodeTable
import Chip8.Proofs.Decoding
import Chip8.Proofs.Faults
import Chip8.Proofs.Invariant
import Chip8.Proofs.Refinement
import Chip8.Proofs.Runs
import Chip8.Proofs.Replay
import Chip8.Proofs.Calls
import Chip8.Proofs.Picture
import Chip8.Proofs.Schedule
import Chip8.Proofs.Likeness
import Chip8.Proofs.Signals
import Chip8.Proofs.Inputs
import Chip8.Proofs.Halting
import Chip8.Proofs.Stores
import Chip8.Proofs.Chunks
import Chip8.Proofs.Sprites
import Chip8.Proofs.Drawing
import Chip8.Proofs.Reading
import Chip8.Proofs.Staleness
import Chip8.Proofs.Countdown
import Chip8.Proofs.RandomBytes
import Chip8.Proofs.Restart
import Chip8.Proofs.BusActions
import Chip8.Proofs.KeyWait
import Chip8.Proofs.StackInUse
import Chip8.Proofs.Pixels
import Chip8.Proofs.Disassembly
import Chip8.Proofs.RegisterDump
import Chip8.Proofs.Rows
import Chip8.Proofs.Glyphs
import Chip8.Proofs.Resolution
import Chip8.Proofs.Capitals
import Chip8.Proofs.KeyNames
import Chip8.Proofs.Rendering
import Chip8.Proofs.IntegerReading
