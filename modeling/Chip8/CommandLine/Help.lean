/-!
The help text of the command line.
-/

namespace Chip8.CommandLine

def usageLines : List String :=
  ["usage: chip8-tracer [-h] [--config CONFIG] [--cpu-hz CPU_HZ] [--seed SEED]",
   "                    [--headless STEPS]",
   "                    [--log-level \x7bDEBUG,INFO,WARNING,ERROR\x7d]",
   "                    [rom]"]

def helpLines : List String :=
  usageLines ++
  ["",
   "positional arguments:",
   "  rom                   raw CHIP-8 program image to load at 0x200",
   "",
   "options:",
   "  -h, --help            show this help message and exit",
   "  --config CONFIG       YAML system configuration file",
   "  --cpu-hz CPU_HZ       instruction rate (overrides config)",
   "  --seed SEED           seed for the RND instruction",
   "  --headless STEPS      run STEPS instructions without a window and exit",
   "  --log-level \x7bDEBUG,INFO,WARNING,ERROR\x7d",
   "                        logging level"]

end Chip8.CommandLine
