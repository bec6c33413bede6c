import Mathlib.Algebra.Group.Int.Defs
import Mathlib.Data.List.Forall2
import Chip8.Machine.Inspect
import Chip8.Proofs.Runs

/-! What holds of every reachable machine. Its numbers have the widths of the architecture, its bus
is the standard one, what an inspector shows fits the widths that it is shown with, and the program
counter is never brought round 16 bits. -/

namespace Chip8

def RegisterInfo.Fits (entry : String × Int) (info : RegisterInfo) : Prop :=
  entry.1 = info.name ∧ 0 ≤ entry.2 ∧ entry.2 < 2 ^ info.width

def registerInfos : List RegisterInfo :=
  registerLayout.flatMap RegisterGroup.registers

/-- No address that an instruction computes is changed by counting it round 16 bits. The processor
stands at an instruction in memory, and the one `behind` it has passed the fetch. -/
structure Cpu.NeverRound (cpu behind : Cpu) : Prop where
  advance : behind = { cpu with pc := cpu.pc + 2 }
  skip : behind.skipIf true = { behind with pc := behind.pc + 2 }
  rewind : behind.jump (behind.pc - 2) = { behind with pc := behind.pc - 2 }
  ret : ∀ target popped, behind.pop = .done target popped →
    popped.jump (target + 2) = { popped with pc := target + 2 }
  offset : ∀ (x : Register) (target : Fin 4096),
    behind.jump (behind.v.get x + target.val) = { behind with pc := behind.v.get x + target.val }

namespace Cpu.WellFormed

variable {cpu : Cpu}

theorem registers_fit (wf : cpu.WellFormed) :
    List.Forall₂ RegisterInfo.Fits cpu.registers registerInfos := by
  have byte {name : String} {value : Int} (small : IsByte value) :
      RegisterInfo.Fits (name, value) ⟨name, 8⟩ := by
    have width : (0xFF : Int) < 2 ^ 8 := by decide
    exact ⟨rfl, small.1, Int.lt_of_le_of_lt small.2 width⟩
  have general : List.Forall₂ RegisterInfo.Fits
      ((List.finRange 16).map fun x : Fin 16 => (registerText x, cpu.v.get x))
      ((List.finRange 16).map fun x : Fin 16 => ⟨registerText x, 8⟩) := by
    rw [List.forall₂_map_left_iff, List.forall₂_map_right_iff, List.forall₂_same]
    intro x _
    exact byte (wf.v x)
  have word {name : String} {value : Int} (range : 0 ≤ value ∧ value ≤ 0xFFFF) :
      RegisterInfo.Fits (name, value) ⟨name, 16⟩ := by
    have width : (0xFFFF : Int) < 2 ^ 16 := by decide
    exact ⟨rfl, range.1, Int.lt_of_le_of_lt range.2 width⟩
  have pc : 0 ≤ cpu.pc ∧ cpu.pc ≤ 0xFFFF := ⟨wf.pc.1, Int.le_trans wf.pc.2 (by decide)⟩
  have sp : IsByte cpu.sp := ⟨wf.sp.1, Int.le_trans wf.sp.2 (by decide)⟩
  have special : List.Forall₂ RegisterInfo.Fits
      [("I", cpu.i), ("PC", cpu.pc), ("SP", cpu.sp), ("DT", cpu.dt), ("ST", cpu.st)]
      [⟨"I", 16⟩, ⟨"PC", 16⟩, ⟨"SP", 8⟩, ⟨"DT", 8⟩, ⟨"ST", 8⟩] :=
    .cons (word wf.i) (.cons (word pc) (.cons (byte sp)
      (.cons (byte wf.dt) (.cons (byte wf.st) .nil))))
  exact List.rel_append general special

theorem pop_range (wf : cpu.WellFormed) {target : Int} {popped : Cpu}
    (h : cpu.pop = .done target popped) : 0 ≤ target ∧ target ≤ 0xFFE := by
  obtain ⟨low, high⟩ := wf.sp
  by_cases empty : cpu.sp ≤ 0
  · rw [pop, if_pos empty] at h
    cases congrArg Outcome.result h
  · obtain ⟨slot, entry⟩ := exists_slot (n := cpu.sp - 1) (by omega)
    rw [pop_eq slot (by omega)] at h
    cases h
    exact wf.stack slot

theorem neverRound (wf : cpu.WellFormed) (inside : cpu.pc ≤ 0xFFE) :
    cpu.NeverRound (cpu.jump (cpu.pc + instructionLength)) := by
  have low := wf.pc.1
  have length : (instructionLength : Int) = 2 := rfl
  have fetched := wf.fetched inside
  have range := fetched.behind
  constructor
  · exact jump_eq cpu (by omega)
  · exact jump_eq _ (by omega)
  · exact jump_eq _ (by omega)
  · intro target popped h
    have entry := fetched.toWellFormed.pop_range h
    exact jump_eq popped (by omega)
  · intro x target
    obtain ⟨zero, byte⟩ := fetched.v x
    exact jump_eq _ (by omega)

end Cpu.WellFormed

namespace Machine

/-- A program that sets a register and the delay timer and calls the subroutine at its end. -/
def callingProgram : Program :=
  [0x60, 0x2A, 0xF0, 0x15, 0x22, 0x08, 0x00, 0x00, 0x00, 0xEE]

/-- The machine at this program. -/
def calling : Machine :=
  ofBus (.holding (Memory.image callingProgram) #[]) (some 0)

theorem reachable_calling : calling.Reachable :=
  reachable_ofBus (by decide) 0

/-- A run into the subroutine, with a reset behind its first step. -/
theorem calling_in_subroutine :
    calling.afterAll [.step, .reset (.ofSeed 0), .step, .step, .step, .tick, .write 0x300 7]
      = { calling with
          cpu := { (calling.cpu.setV 0 42).pushedAt 0 0x204 with dt := 41, pc := 0x208 }
          bus := .holding ((Memory.image callingProgram).put 0x300 7) #[⟨.write, 0x300, 7⟩]
          cycles := 3
          ticks := 1 } := by
  have fits : callingProgram.length ≤ maxProgramSize := by decide
  have set : Opcode.decode 0x602A = .setByte 0 42 := by decide
  have sets : Opcode.ofBytes 0x60 0x2A = 0x602A := by decide
  have delay : Opcode.decode 0xF015 = .setDelay 0 := by decide
  have delays : Opcode.ofBytes 0xF0 0x15 = 0xF015 := by decide
  have call : Opcode.decode 0x2208 = .call 0x208 := by decide
  have calls : Opcode.ofBytes 0x22 0x08 = 0x2208 := by decide
  have wf := reachable_calling.wellFormed
  have first : calling.after .step = { calling with
      cpu := { calling.cpu.setV 0 42 with pc := 0x202 }, cycles := 1 } :=
    after_step_of_image wf fits rfl (k := 0) rfl (by decide) set sets rfl
  have wf' := after_wellFormed wf .step
  rw [first] at wf'
  have second : after _ .step = { calling with
      cpu := { calling.cpu.setV 0 42 with dt := 42, pc := 0x204 }, cycles := 2 } :=
    after_step_of_image wf' fits rfl (k := 2) rfl (by decide) delay delays rfl
  have wf'' := after_wellFormed wf' .step
  rw [second] at wf''
  have third : after _ .step = { calling with
      cpu := { (calling.cpu.setV 0 42).pushedAt 0 0x204 with dt := 42, pc := 0x208 }, cycles := 3 } :=
    after_step_of_image wf'' fits rfl (k := 4) rfl (by decide) call calls
      (Instruction.execute_call (Core.behind_wellFormed wf'' (by decide)).2 0 rfl 0x208)
  have restarted : (calling.after .step).after (.reset (.ofSeed 0)) = calling := by
    rw [first]
    rfl
  simp only [afterAll, List.foldl_cons, List.foldl_nil, restarted]
  rw [first, second, third]
  have bus : (after { calling with
      cpu := { (calling.cpu.setV 0 42).pushedAt 0 0x204 with dt := 42, pc := 0x208 }, cycles := 3 }
      .tick).bus = .holding (Memory.image callingProgram) #[] := rfl
  rw [after_write bus]
  rfl

end Machine

/-- Every reachable machine is well-formed, on the standard map. So what is shown of its registers
fits the layout, and no step brings the program counter round. -/
theorem Machine.reachable_invariant {m : Machine} (reachable : m.Reachable) :
    m.cpu.WellFormed ∧ (∃ memory : Memory, m.bus = .holding memory m.bus.log) ∧
      List.Forall₂ RegisterInfo.Fits m.cpu.registers registerInfos ∧
      (m.cpu.pc ≤ 0xFFE → m.cpu.NeverRound m.toCore.behind.cpu) := by
  have wf := reachable.wellFormed
  obtain ⟨memory, log, bus⟩ := wf.bus
  refine ⟨wf.cpu, ⟨memory, ?_⟩, wf.cpu.registers_fit, wf.cpu.neverRound⟩
  rw [bus]
  rfl

/-- In the subroutine a register, the delay timer and an entry of the stack are not zero. -/
theorem Machine.reachable_invariant_called :
    ∃ m : Machine, m.Reachable ∧
      m = calling.afterAll
        [.step, .reset (.ofSeed 0), .step, .step, .step, .tick, .write 0x300 7] ∧
      m.cpu.v.get 0 = 42 ∧ m.cpu.dt = 41 ∧ m.cpu.sp = 1 ∧ m.cpu.stack.get 0 = 0x204 ∧
      m.cpu.pc = 0x208 ∧ m.bus.log = #[⟨.write, 0x300, 7⟩] ∧
      m.cpu.WellFormed ∧ (∃ memory : Memory, m.bus = .holding memory m.bus.log) ∧
      List.Forall₂ RegisterInfo.Fits m.cpu.registers registerInfos ∧
      m.cpu.NeverRound m.toCore.behind.cpu := by
  obtain ⟨m, ran⟩ : ∃ m, m = calling.afterAll
      [.step, .reset (.ofSeed 0), .step, .step, .step, .tick, .write 0x300 7] := ⟨_, rfl⟩
  have reachable : m.Reachable := ran ▸ reachable_calling.afterAll _
  have standing := ran.trans calling_in_subroutine
  have counter : m.cpu.pc = 0x208 := by rw [standing]
  have inside : m.cpu.pc ≤ 0xFFE := by
    rw [counter]
    decide
  obtain ⟨wf, bus, fits, round⟩ := reachable_invariant reachable
  refine ⟨m, reachable, ran, ?_, ?_, ?_, ?_, counter, ?_, wf, bus, fits, round inside⟩
  · rw [standing]
    exact Cpu.v_setV calling.cpu 0 0 42
  · rw [standing]
  · rw [standing]
    rfl
  · rw [standing]
    exact Cpu.stack_pushedAt (calling.cpu.setV 0 42) 0 0 0x204
  · rw [standing]
    rfl

end Chip8
