import Chip8.Machine.Basic

/-!
What an inspector shows of the processor: its registers by name, their layout in groups with their
widths, and its flags.
-/

namespace Chip8

structure RegisterInfo where
  name : String
  width : Nat
deriving DecidableEq, Repr

structure RegisterGroup where
  name : String
  registers : List RegisterInfo
deriving DecidableEq, Repr

def registerLayout : List RegisterGroup :=
  [⟨"General", (List.range 16).map fun (x : Nat) => ⟨registerText x, 8⟩⟩,
   ⟨"Index/Pointers", [⟨"I", 16⟩, ⟨"PC", 16⟩, ⟨"SP", 8⟩]⟩,
   ⟨"Timers", [⟨"DT", 8⟩, ⟨"ST", 8⟩]⟩]

namespace Cpu

def registers (cpu : Cpu) : List (String × Int) :=
  (List.finRange 16).map (fun (x : Fin 16) => (registerText x, cpu.v.get x))
    ++ [("I", cpu.i), ("PC", cpu.pc), ("SP", cpu.sp), ("DT", cpu.dt), ("ST", cpu.st)]

/-- The flags: carry or collision, the buzzer, and whether the picture has changed. -/
def flags (cpu : Cpu) : List (String × Bool) :=
  [("VF", cpu.v[15] ≠ 0), ("SOUND", 0 < cpu.st), ("DRAW", cpu.redraw)]

end Cpu

end Chip8
