import Chip8.Instruction.Execute

/-! Well-formed processors. The numbers of a processor have no width of their own; a processor is
well-formed when they have the widths of the architecture. The program counter stays below the end
of the words that it could hold, because a return address is the address of a call that was
fetched. Every operation that the instructions are made of keeps the predicate. -/

namespace Chip8

structure Cpu.WellFormed (cpu : Cpu) : Prop where
  v : ∀ k : Fin 16, IsByte (cpu.v.get k)
  i : 0 ≤ cpu.i ∧ cpu.i ≤ 0xFFFF
  /-- The highest address is reached by a jump to 0xFFF plus 0xFF. -/
  pc : 0 ≤ cpu.pc ∧ cpu.pc ≤ 0x10FE
  sp : 0 ≤ cpu.sp ∧ cpu.sp ≤ 16
  /-- The bound holds of the stale entries too. -/
  stack : ∀ k : Fin 16, 0 ≤ cpu.stack.get k ∧ cpu.stack.get k ≤ 0xFFE
  dt : IsByte cpu.dt
  st : IsByte cpu.st

/-- A well-formed processor whose program counter stands behind an instruction in memory. -/
structure Cpu.Fetched (cpu : Cpu) : Prop extends cpu.WellFormed where
  behind : 2 ≤ cpu.pc ∧ cpu.pc ≤ 0x1000

theorem isByte_natCast {n : Nat} (h : n < 256) : IsByte n := by
  simp only [IsByte]
  omega

theorem isByte_toNat (b : UInt8) : IsByte b.toNat :=
  isByte_natCast b.toNat_lt

theorem isByte_mod (n : Int) : IsByte (n % 256) := by
  simp only [IsByte]
  omega

theorem isByte_flag (flag : Bool) : IsByte (if flag then 1 else 0) := by
  cases flag <;> decide

theorem IsByte.exists_nat {n : Int} (h : IsByte n) : ∃ m : Nat, m < 256 ∧ n = m := by
  obtain ⟨low, high⟩ := h
  exact ⟨n.toNat, by omega, by omega⟩

theorem isByte_either {a b : Int} (ha : IsByte a) (hb : IsByte b) :
    IsByte (Bitwise.either a b) := by
  obtain ⟨m, hm, rfl⟩ := ha.exists_nat
  obtain ⟨n, hn, rfl⟩ := hb.exists_nat
  rw [Bitwise.either_natCast]
  exact isByte_natCast (Nat.or_lt_two_pow (n := 8) hm hn)

theorem isByte_both {a b : Int} (ha : IsByte a) (hb : IsByte b) : IsByte (Bitwise.both a b) := by
  obtain ⟨m, hm, rfl⟩ := ha.exists_nat
  obtain ⟨n, hn, rfl⟩ := hb.exists_nat
  rw [Bitwise.both_natCast]
  exact isByte_natCast (Nat.and_lt_two_pow (n := 8) m hn)

theorem isByte_differ {a b : Int} (ha : IsByte a) (hb : IsByte b) :
    IsByte (Bitwise.differ a b) := by
  obtain ⟨m, hm, rfl⟩ := ha.exists_nat
  obtain ⟨n, hn, rfl⟩ := hb.exists_nat
  rw [Bitwise.differ_natCast]
  exact isByte_natCast (Nat.xor_lt_two_pow (n := 8) hm hn)

section Slots

variable {α : Type} {n : Nat}

theorem getElem_eq_get (values : Vector α n) (k : Fin n) : values[k] = values.get k := rfl

theorem get_ofFn (f : Fin n → α) (k : Fin n) : (Vector.ofFn f).get k = f k :=
  Vector.getElem_ofFn k.isLt

theorem get_replicate (value : α) (k : Fin n) : (Vector.replicate n value).get k = value :=
  Vector.getElem_replicate k.isLt

theorem get_setIfInBounds (values : Vector α n) (slot k : Fin n) (value : α) :
    (values.setIfInBounds slot.val value).get k = if k = slot then value else values.get k := by
  have cell : (values.setIfInBounds slot.val value)[k.val]
      = if slot.val = k.val then value else values[k.val] := Vector.getElem_setIfInBounds k.isLt
  by_cases same : k = slot
  · rw [if_pos (congrArg Fin.val same).symm] at cell
    rw [if_pos same]
    exact cell
  · have other : slot.val ≠ k.val := fun e => same (Fin.ext e.symm)
    rw [if_neg other] at cell
    rw [if_neg same]
    exact cell

theorem set_eq_setIfInBounds (values : Vector α n) (slot : Fin n) (value : α) :
    values.set slot value = values.setIfInBounds slot.val value := by
  apply Vector.ext
  intro k inside
  rw [Vector.getElem_set slot.isLt inside, Vector.getElem_setIfInBounds inside]

end Slots

namespace Cpu

variable {cpu : Cpu}

def pushedAt (cpu : Cpu) (slot : Fin 16) (address : Int) : Cpu :=
  { cpu with stack := cpu.stack.setIfInBounds slot.val address, sp := cpu.sp + 1 }

theorem v_setV (cpu : Cpu) (x k : Register) (value : Int) :
    (cpu.setV x value).v.get k = if k = x then value else cpu.v.get k := by
  rw [setV, set_eq_setIfInBounds, get_setIfInBounds]

theorem stack_pushedAt (cpu : Cpu) (slot k : Fin 16) (address : Int) :
    (cpu.pushedAt slot address).stack.get k = if k = slot then address else cpu.stack.get k :=
  get_setIfInBounds cpu.stack slot k address

/-- The addresses that the instructions compute are far below the words' end, where a jump would
come round. -/
theorem jump_eq (cpu : Cpu) {target : Int} (range : 0 ≤ target ∧ target ≤ 0x10FE) :
    cpu.jump target = { cpu with pc := target } := by
  have same : target % 0x10000 = target := by omega
  rw [jump, same]

theorem exists_slot {n : Int} (range : 0 ≤ n ∧ n < 16) : ∃ slot : Fin 16, n = slot.val :=
  ⟨⟨n.toNat, by omega⟩, (Int.toNat_of_nonneg range.1).symm⟩

theorem stackSlot?_eq {n : Int} (slot : Fin 16) (h : n = slot.val) : stackSlot? n = some slot := by
  have range : 0 ≤ n ∧ n < 16 := by omega
  have index : n.toNat = slot.val := by omega
  simp [stackSlot?, range, index]

theorem push_eq (slot : Fin 16) (room : cpu.sp = slot.val) (value : Int) :
    cpu.push value = .ok (cpu.pushedAt slot (value % 0x10000)) := by
  have free : ¬ (stackDepth : Int) ≤ cpu.sp := by
    have depth : stackDepth = 16 := rfl
    omega
  rw [push, if_neg free, stackSlot?_eq slot room]
  simp only [set_eq_setIfInBounds]
  rfl

theorem pop_eq (slot : Fin 16) (entry : cpu.sp = slot.val + 1) :
    cpu.pop = .done (cpu.stack.get slot) { cpu with sp := slot.val } := by
  have filled : ¬ cpu.sp ≤ 0 := by omega
  have lowered : cpu.sp - 1 = slot.val := by omega
  simp only [pop, if_neg filled, lowered]
  rw [stackSlot?_eq slot rfl]
  rfl

theorem key?_eq {key : Int} (k : Fin 16) (h : key = k.val) : key? key = some k := by
  have range : 0 ≤ key ∧ key < 16 := by omega
  have index : key.toNat = k.val := by omega
  simp [key?, range, index]

theorem keyHeld_eq (k : Fin 16) {key : Int} (h : key = k.val) :
    cpu.keyHeld key = .ok (cpu.keys.get k) := by
  rw [keyHeld, key?_eq k h]
  rfl

theorem keyHeld_fault {key : Int} (beyond : 15 < key) : cpu.keyHeld key = .error (.keypad key) := by
  have none : ¬ (0 ≤ key ∧ key < 16) := by omega
  simp [keyHeld, key?, none]

theorem initial_wellFormed (random : Generator) : (initial random).WellFormed where
  v := by
    intro k
    have zero : (initial random).v.get k = 0 := get_replicate 0 k
    rw [zero]
    decide
  i := by simp [initial]
  pc := by simp [initial, programStart]
  sp := by simp [initial]
  stack := by
    intro k
    have zero : (initial random).stack.get k = 0 := get_replicate 0 k
    rw [zero]
    decide
  dt := by simp [initial, IsByte]
  st := by simp [initial, IsByte]

namespace WellFormed

theorem exists_key (wf : cpu.WellFormed) (x : Register) (key : ¬ 15 < cpu.v.get x) :
    ∃ k : Fin 16, cpu.v.get x = k.val :=
  exists_slot ⟨(wf.v x).1, by omega⟩

theorem withV (wf : cpu.WellFormed) {values : Vector Int 16}
    (bytes : ∀ k : Fin 16, IsByte (values.get k)) : { cpu with v := values }.WellFormed :=
  { wf with v := bytes }

theorem setV (wf : cpu.WellFormed) (x : Register) {value : Int} (byte : IsByte value) :
    (cpu.setV x value).WellFormed := by
  apply wf.withV
  intro k
  change IsByte ((cpu.setV x value).v.get k)
  rw [v_setV]
  split
  · exact byte
  · exact wf.v k

theorem setWithFlag (wf : cpu.WellFormed) (x : Register) (result : Int) (flag : Bool) :
    (cpu.setWithFlag x result flag).WellFormed :=
  (wf.setV x (isByte_mod result)).setV 15 (isByte_flag flag)

theorem withPc (wf : cpu.WellFormed) {target : Int} (range : 0 ≤ target ∧ target ≤ 0x10FE) :
    { cpu with pc := target }.WellFormed :=
  { wf with pc := range }

theorem withI (wf : cpu.WellFormed) {index : Int} (range : 0 ≤ index ∧ index ≤ 0xFFFF) :
    { cpu with i := index }.WellFormed :=
  { wf with i := range }

theorem withSp (wf : cpu.WellFormed) {depth : Int} (range : 0 ≤ depth ∧ depth ≤ 16) :
    { cpu with sp := depth }.WellFormed :=
  { wf with sp := range }

theorem jump (wf : cpu.WellFormed) {target : Int} (range : 0 ≤ target ∧ target ≤ 0x10FE) :
    (cpu.jump target).WellFormed := by
  rw [jump_eq cpu range]
  exact wf.withPc range

/-- Fetching is possible up to 0xFFE, so the counter behind an instruction is at most 0x1000. -/
theorem fetched (wf : cpu.WellFormed) (inside : cpu.pc ≤ 0xFFE) :
    (cpu.jump (cpu.pc + instructionLength)).Fetched := by
  have low := wf.pc.1
  have length : (instructionLength : Int) = 2 := rfl
  have range : 0 ≤ cpu.pc + instructionLength ∧ cpu.pc + instructionLength ≤ 0x10FE := by omega
  refine { wf.jump range with behind := ?_ }
  rw [jump_eq cpu range]
  change 2 ≤ cpu.pc + instructionLength ∧ cpu.pc + instructionLength ≤ 0x1000
  omega

theorem setRegisters (wf : cpu.WellFormed) (bytes : List UInt8) :
    (cpu.setRegisters bytes).WellFormed := by
  apply wf.withV
  intro k
  rw [get_ofFn]
  cases bytes[k.val]? with
  | none => exact wf.v k
  | some byte => exact isByte_toNat byte

theorem drawSprite (wf : cpu.WellFormed) (x y : Register) (sprite : List UInt8) :
    (cpu.drawSprite x y sprite).WellFormed := by
  have cleared : (cpu.setV Register.flag 0).WellFormed := wf.setV _ (by decide)
  have flagged := cleared.setV Register.flag
    (isByte_flag ((cpu.setV Register.flag 0).display.draw ((cpu.setV Register.flag 0).v.get x)
      ((cpu.setV Register.flag 0).v.get y) sprite).2)
  exact { flagged with }

theorem tick (wf : cpu.WellFormed) : cpu.tick.WellFormed := by
  have lowered {n : Int} (byte : IsByte n) : IsByte (if 0 < n then n - 1 else n) := by
    obtain ⟨low, high⟩ := byte
    simp only [IsByte]
    split <;> omega
  exact { wf with dt := lowered wf.dt, st := lowered wf.st }

theorem setKey? (wf : cpu.WellFormed) {key : Int} {held : Bool} {after : Cpu}
    (pressed : cpu.setKey? key held = some after) : after.WellFormed := by
  obtain ⟨k, _, rfl⟩ := Option.map_eq_some_iff.mp pressed
  exact { wf with }

theorem takeFrame (wf : cpu.WellFormed) : cpu.takeFrame.2.WellFormed := by
  unfold Cpu.takeFrame
  split
  · exact { wf with }
  · exact wf

end WellFormed

namespace Fetched

theorem skipIf (fetched : cpu.Fetched) (condition : Bool) : (cpu.skipIf condition).WellFormed := by
  have behind := fetched.behind
  have length : (instructionLength : Int) = 2 := rfl
  unfold Cpu.skipIf
  split
  · exact fetched.jump (by omega)
  · exact fetched.toWellFormed

/-- A call leaves its own address, which was fetched, on the stack. -/
theorem push_eq (fetched : cpu.Fetched) (slot : Fin 16) (room : cpu.sp = slot.val) :
    cpu.push (cpu.pc - instructionLength)
      = .ok (cpu.pushedAt slot (cpu.pc - instructionLength)) := by
  have behind := fetched.behind
  have length : (instructionLength : Int) = 2 := rfl
  have same : (cpu.pc - instructionLength) % 0x10000 = cpu.pc - instructionLength := by omega
  rw [Cpu.push_eq slot room, same]

theorem pushed (fetched : cpu.Fetched) (slot : Fin 16) (room : cpu.sp = slot.val) :
    (cpu.pushedAt slot (cpu.pc - instructionLength)).WellFormed := by
  have behind := fetched.behind
  have length : (instructionLength : Int) = 2 := rfl
  have range : 0 ≤ cpu.sp + 1 ∧ cpu.sp + 1 ≤ 16 := by omega
  refine { fetched.toWellFormed with stack := ?_, sp := range }
  intro k
  rw [stack_pushedAt]
  split
  · omega
  · exact fetched.stack k

theorem waitForKey (fetched : cpu.Fetched) (x : Register) : (cpu.waitForKey x).WellFormed := by
  have behind := fetched.behind
  have length : (instructionLength : Int) = 2 := rfl
  unfold Cpu.waitForKey
  split
  · rename_i key _
    exact fetched.setV x (isByte_natCast (by omega))
  · exact fetched.jump (by omega)

end Fetched

end Cpu

end Chip8
