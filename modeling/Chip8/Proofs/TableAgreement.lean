import Chip8.Proofs.OpcodeTable
import Chip8.Proofs.Execution

/-! The processor and the memory beside a state of the opcode table. They agree when every register,
timer, stack entry, key, pixel and cell has the value that the table gives it. The operations that
the instructions are made of keep the agreement when the table makes the same change. -/

namespace Chip8

structure Cpu.Agrees (cpu : Cpu) (s : OpcodeTable.State) : Prop where
  v : ∀ k : Fin 16, cpu.v.get k = (s.v k).toNat
  i : cpu.i = s.i.toNat
  pc : cpu.pc = s.pc
  sp : cpu.sp = s.sp
  stack : ∀ k : Fin 16, cpu.stack.get k = s.stack k
  dt : cpu.dt = s.dt.toNat
  st : cpu.st = s.st.toNat
  keys : ∀ k : Fin 16, cpu.keys.get k = s.keys k
  pixels : ∀ k : Fin 2048, cpu.display.lit k = s.pixels k
  redraw : cpu.redraw = s.redraw
  random : cpu.random = s.random

def Bus.Holds (bus : Bus) (bytes : Nat → UInt8) : Prop :=
  ∃ memory log, bus = holding memory log ∧ ∀ a < 4096, memory.byte a = bytes a

theorem Bus.Holds.clearLog {bus : Bus} {bytes : Nat → UInt8} (holds : bus.Holds bytes) :
    bus.clearLog.Holds bytes := by
  obtain ⟨memory, log, rfl, held⟩ := holds
  exact ⟨memory, #[], rfl, held⟩

theorem Bus.Holds.unique {first second : Bus} {bytes : Nat → UInt8} (one : first.Holds bytes)
    (two : second.Holds bytes) (logs : first.log = second.log) : first = second := by
  obtain ⟨memory, log, rfl, held⟩ := one
  obtain ⟨memory', log', rfl, held'⟩ := two
  have cells : memory = memory' := by
    apply Vector.ext
    intro a inside
    rw [← Memory.byte_eq_getElem, ← Memory.byte_eq_getElem, held a inside, held' a inside]
  have entries : log = log' := logs
  rw [cells, entries]

structure Core.Agrees (core : Core) (s : OpcodeTable.State) : Prop where
  cpu : core.cpu.Agrees s
  bus : core.bus.Holds s.memory

/-- An action ended well, and its end agrees with a state of the table. -/
def Core.EndsAs (o : Outcome Core Unit) (s : OpcodeTable.State) : Prop :=
  ∃ after, o = .done () after ∧ after.Agrees s

def Core.tableState (core : Core) (memory : Memory) : OpcodeTable.State where
  v k := UInt8.ofNat (core.cpu.v[k]?.getD 0).toNat
  i := UInt16.ofNat core.cpu.i.toNat
  pc := core.cpu.pc.toNat
  sp := core.cpu.sp.toNat
  stack k := (core.cpu.stack[k]?.getD 0).toNat
  dt := UInt8.ofNat core.cpu.dt.toNat
  st := UInt8.ofNat core.cpu.st.toNat
  keys k := core.cpu.keys[k]?.getD false
  pixels k := core.cpu.display.pixels[k]?.getD false
  redraw := core.cpu.redraw
  random := core.cpu.random
  memory := memory.byte

namespace Cpu.Agrees

variable {cpu : Cpu} {s : OpcodeTable.State}

theorem withV (agrees : cpu.Agrees s) {values : Vector Int 16} {bytes : Nat → UInt8}
    (same : ∀ k : Fin 16, values.get k = (bytes k).toNat) :
    { cpu with v := values }.Agrees { s with v := bytes } :=
  { agrees with v := same }

theorem withI (agrees : cpu.Agrees s) {index : Int} {word : UInt16} (same : index = word.toNat) :
    { cpu with i := index }.Agrees { s with i := word } :=
  { agrees with i := same }

theorem withPc (agrees : cpu.Agrees s) {target : Int} {address : Nat} (same : target = address) :
    { cpu with pc := target }.Agrees { s with pc := address } :=
  { agrees with pc := same }

theorem withSp (agrees : cpu.Agrees s) {depth : Int} {entries : Nat} (same : depth = entries) :
    { cpu with sp := depth }.Agrees { s with sp := entries } :=
  { agrees with sp := same }

theorem withRandom (agrees : cpu.Agrees s) {drawn generator : Generator}
    (same : drawn = generator) :
    { cpu with random := drawn }.Agrees { s with random := generator } :=
  { agrees with random := same }

theorem withMemory (agrees : cpu.Agrees s) (bytes : Nat → UInt8) :
    cpu.Agrees { s with memory := bytes } :=
  { agrees with }

theorem jump (agrees : cpu.Agrees s) {target : Int} {address : Nat} (same : target = address)
    (range : address ≤ 0x10FE) : (cpu.jump target).Agrees { s with pc := address } := by
  rw [jump_eq cpu (by omega)]
  exact agrees.withPc same

theorem setV (agrees : cpu.Agrees s) (x : Register) {value : Int} {b : UInt8}
    (same : value = b.toNat) :
    (cpu.setV x value).Agrees { s with v := fun k => if k = x then b else s.v k } := by
  apply agrees.withV
  intro k
  rw [set_eq_setIfInBounds, get_setIfInBounds]
  by_cases chosen : k = x
  · rw [if_pos chosen, if_pos (congrArg Fin.val chosen), same]
  · have other : k.val ≠ x.val := fun e => chosen (Fin.ext e)
    rw [if_neg chosen, if_neg other, agrees.v k]

theorem pushedAt (agrees : cpu.Agrees s) {slot : Fin 16} (top : slot.val = s.sp) {address : Int}
    {target : Nat} (same : address = target) :
    (cpu.pushedAt slot address).Agrees
      { s with stack := fun k => if k = s.sp then target else s.stack k, sp := s.sp + 1 } := by
  have depth : cpu.sp = s.sp := agrees.sp
  have deeper : cpu.sp + 1 = ((s.sp + 1 : Nat) : Int) := by omega
  refine { agrees with stack := ?_, sp := deeper }
  intro k
  rw [stack_pushedAt]
  by_cases chosen : k = slot
  · have first : k.val = s.sp := by omega
    simp only [if_pos chosen, if_pos first, same]
  · have other : k.val ≠ s.sp := by omega
    simp only [if_neg chosen, if_neg other, agrees.stack k]

theorem skipIf (agrees : cpu.Agrees s.advance) (fetched : cpu.Fetched) {condition holds : Bool}
    (same : condition = holds) : (cpu.skipIf condition).Agrees (s.skipIf holds) := by
  have behind := fetched.behind
  have length : (instructionLength : Int) = 2 := rfl
  have pc : cpu.pc = ((s.pc + 2 : Nat) : Int) := agrees.pc
  subst same
  cases condition with
  | false => exact agrees
  | true =>
    have past : cpu.pc + instructionLength = ((s.pc + 4 : Nat) : Int) := by omega
    have skipped := agrees.jump past (by omega)
    exact skipped

/-- A state of the table leaves no field of the processor open. -/
theorem unique {first second : Cpu} (one : first.Agrees s) (two : second.Agrees s) :
    first = second := by
  have v : first.v = second.v := by
    apply Vector.ext
    intro k inside
    exact (one.v ⟨k, inside⟩).trans (two.v ⟨k, inside⟩).symm
  have stack : first.stack = second.stack := by
    apply Vector.ext
    intro k inside
    exact (one.stack ⟨k, inside⟩).trans (two.stack ⟨k, inside⟩).symm
  have keys : first.keys = second.keys := by
    apply Vector.ext
    intro k inside
    exact (one.keys ⟨k, inside⟩).trans (two.keys ⟨k, inside⟩).symm
  have pixels : first.display.pixels = second.display.pixels := by
    apply Vector.ext
    intro k inside
    exact (one.pixels ⟨k, inside⟩).trans (two.pixels ⟨k, inside⟩).symm
  have display : first.display = second.display := congrArg Display.mk pixels
  cases first
  cases second
  simp only [Cpu.mk.injEq]
  exact ⟨v, one.i.trans two.i.symm, one.pc.trans two.pc.symm, one.sp.trans two.sp.symm,
    one.dt.trans two.dt.symm, one.st.trans two.st.symm, stack, keys, display,
    one.redraw.trans two.redraw.symm, one.random.trans two.random.symm⟩

end Cpu.Agrees

namespace Core

/-- Nothing but the log of the bus is left open. -/
theorem Agrees.unique {first second : Core} {s : OpcodeTable.State} (one : first.Agrees s)
    (two : second.Agrees s) (logs : first.bus.log = second.bus.log) : first = second := by
  cases first
  cases second
  rw [Core.mk.injEq]
  exact ⟨one.cpu.unique two.cpu, one.bus.unique two.bus logs⟩

theorem agrees_tableState {core : Core} (wf : core.cpu.WellFormed) {memory : Memory}
    {log : Array Access} (bus : core.bus = .holding memory log) :
    core.Agrees (core.tableState memory) where
  cpu :=
    { v := by
        intro k
        obtain ⟨low, high⟩ := wf.v k
        have value : core.cpu.v[k.val]?.getD 0 = core.cpu.v.get k := by
          simp [← getElem_eq_get]
        simp only [tableState, value, UInt8.toNat_ofNat']
        omega
      i := by
        obtain ⟨low, high⟩ := wf.i
        simp only [tableState, UInt16.toNat_ofNat']
        omega
      pc := (Int.toNat_of_nonneg wf.pc.1).symm
      sp := (Int.toNat_of_nonneg wf.sp.1).symm
      stack := by
        intro k
        have value : core.cpu.stack[k.val]?.getD 0 = core.cpu.stack.get k := by
          simp [← getElem_eq_get]
        simp only [tableState, value]
        exact (Int.toNat_of_nonneg (wf.stack k).1).symm
      dt := by
        obtain ⟨low, high⟩ := wf.dt
        simp only [tableState, UInt8.toNat_ofNat']
        omega
      st := by
        obtain ⟨low, high⟩ := wf.st
        simp only [tableState, UInt8.toNat_ofNat']
        omega
      keys := by simp [tableState, ← getElem_eq_get]
      pixels := by simp [tableState, Display.lit]
      redraw := rfl
      random := rfl }
  bus := ⟨memory, log, bus, fun _ _ => rfl⟩

end Core

end Chip8
