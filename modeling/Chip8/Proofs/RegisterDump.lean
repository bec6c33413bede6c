import Chip8.Proofs.Drawing

/-! Registers dumped to memory and loaded from it. A dump puts the bytes of the registers up to one of
them into the cells from the index on, and a load takes as many cells into the registers; neither
moves the index. So a load takes back what a dump has put away, and a dump puts back what a load has
taken. -/

namespace Chip8

namespace Opcode

/-- The word FX55. -/
def dumping (x : Register) : Opcode :=
  ((0xF055 + 0x100 * x.val : Nat) : Int)

/-- The word FX65. -/
def loading (x : Register) : Opcode :=
  ((0xF065 + 0x100 * x.val : Nat) : Int)

theorem decode_dumping : ∀ x : Register, (dumping x).decode = .store x := by
  decide +kernel

theorem decode_loading : ∀ x : Register, (loading x).decode = .load x := by
  decide +kernel

end Opcode

namespace Cpu

variable {cpu : Cpu} {x k : Register}

theorem getElem?_registersUpTo (cpu : Cpu) (within : k.val ≤ x.val) :
    (cpu.registersUpTo x)[k.val]? = some (cpu.v.get k) := by
  have inside : k.val < x.val + 1 := by omega
  simp [registersUpTo, inside, ← getElem_eq_get]

variable {bytes : List UInt8} (same : cpu.registersUpTo x = byteValues bytes)
include same

theorem length_of_registersUpTo : bytes.length = x.val + 1 := by
  rw [← length_byteValues, ← same, Core.length_registersUpTo]

/-- A dump leaves the value of each register in a cell. -/
theorem value_of_dumped (memory : Memory) {index : Nat} (inRange : index + x.val ≤ 0xFFF)
    (within : k.val ≤ x.val) :
    (((memory.putAll index bytes).byte (index + k.val)).toNat : Int) = cpu.v.get k := by
  have length := length_of_registersUpTo same
  have value := cpu.getElem?_registersUpTo within
  rw [same, byteValues, List.getElem?_map] at value
  obtain ⟨b, found, named⟩ := Option.map_eq_some_iff.mp value
  rw [Memory.byte_putAll _ _ _ (by omega), if_pos (by omega), Nat.add_sub_cancel_left, found]
  exact named

omit same

theorem i_setRegisters (cpu : Cpu) (bytes : List UInt8) : (cpu.setRegisters bytes).i = cpu.i := by
  simp only [setRegisters]

theorem v_setRegisters (cpu : Cpu) (memory : Memory) (a count : Nat) (k : Register) :
    (cpu.setRegisters (memory.slice a count)).v.get k =
      if k.val < count then ((memory.byte (a + k.val)).toNat : Int) else cpu.v.get k := by
  rw [setRegisters, get_ofFn]
  by_cases loaded : k.val < count <;> simp [loaded]

theorem registersUpTo_setRegisters (cpu : Cpu) (memory : Memory) (a : Nat) (x : Register) :
    (cpu.setRegisters (memory.slice a (x.val + 1))).registersUpTo x =
      byteValues (memory.slice a (x.val + 1)) := by
  apply List.ext_getElem
  · simp [Core.length_registersUpTo]
  · intro k inside within
    have below : k < x.val + 1 := by simpa using within
    have value := (cpu.setRegisters (memory.slice a (x.val + 1))).getElem?_registersUpTo
      (k := ⟨k, by omega⟩) (show k ≤ x.val by omega)
    simp only [v_setRegisters, below, if_true, List.getElem?_eq_getElem inside,
      Option.some.injEq] at value
    simp [value, byteValues]

end Cpu

namespace Core

variable {cpu : Cpu} (memory : Memory) (log : Array Access) {index : Nat} {x : Register}

theorem execute_dumping (standing : cpu.i = index) (inRange : index + x.val ≤ 0xFFF)
    {bytes : List UInt8} (same : cpu.registersUpTo x = byteValues bytes) :
    (Opcode.dumping x).decode.execute (holding cpu memory log) =
      .done () (holding cpu (memory.putAll index bytes)
        (log ++ (Memory.writeLog index bytes).toArray)) := by
  have length := Cpu.length_of_registersUpTo same
  have within : blockFault? index bytes.length = none := by
    apply if_neg
    omega
  have written := Bus.writeBlock_holding memory log index bytes within
  rw [Opcode.decode_dumping, Instruction.execute, storeAtIndex]
  simp only [holding, standing, same, written]
  rfl

theorem execute_loading (standing : cpu.i = index) (inRange : index + x.val ≤ 0xFFF) :
    (Opcode.loading x).decode.execute (holding cpu memory log) =
      .done () (holding (cpu.setRegisters (memory.slice index (x.val + 1))) memory
        (log ++ (memory.readLog index (x.val + 1)).toArray)) := by
  have within : blockFault? index (x.val + 1 : Nat) = none := by
    apply if_neg
    omega
  have read := Bus.readBlock_holding memory log index (x.val + 1) within
  rw [Opcode.decode_loading, Instruction.execute, loadAtIndex]
  simp only [holding, standing, read]
  rfl

/-- FX55 writes to the cells from the index to X behind it and nothing else, the index included.
Whatever the registers hold after it, FZ65 with Z up to X takes back the first of them up to Z and
leaves the others, the memory and the rest of the processor. FX55 after FX65 leaves the whole memory
as it is. -/
theorem load_takes_back_dump (cpu : Cpu) (wf : cpu.WellFormed) (memory : Memory)
    (log : Array Access) (x : Register) (inRange : cpu.i + x.val ≤ 0xFFF) :
    (∃ dumped log', (Opcode.dumping x).decode.execute (holding cpu memory log) =
        .done () (holding cpu dumped log') ∧
      (∀ a : Nat, ¬ (cpu.i ≤ a ∧ a ≤ cpu.i + x.val) → dumped.byte a = memory.byte a) ∧
      ∀ (z : Register) (values : Vector Int 16), z.val ≤ x.val → ∃ restored log'',
        (Opcode.loading z).decode.execute (holding { cpu with v := values } dumped log') =
          .done () (holding { cpu with v := restored } dumped log'') ∧
        (∀ k : Register, k.val ≤ z.val → restored.get k = cpu.v.get k) ∧
        ∀ k : Register, z.val < k.val → restored.get k = values.get k) ∧
    ∃ loaded log' log'', (Opcode.loading x).decode.execute (holding cpu memory log) =
        .done () (holding loaded memory log') ∧
      (Opcode.dumping x).decode.execute (holding loaded memory log') =
        .done () (holding loaded memory log'') := by
  obtain ⟨index, standing⟩ := Int.eq_ofNat_of_zero_le wf.i.1
  obtain ⟨bytes, same⟩ := exists_byteValues (isByte_registersUpTo wf.v x)
  have length := Cpu.length_of_registersUpTo same.symm
  have fits : index + x.val ≤ 0xFFF := by omega
  constructor
  · refine ⟨_, _, execute_dumping memory log standing fits same.symm, ?_, ?_⟩
    · intro a outside
      rw [Memory.byte_putAll _ _ _ (by omega), if_neg (by omega)]
    · intro z values within
      have cells := Cpu.v_setRegisters { cpu with v := values } (memory.putAll index bytes) index
        (z.val + 1)
      refine ⟨_, _, execute_loading _ _ standing (by omega), ?_, ?_⟩
      · intro k loaded
        apply (cells k).trans
        rw [if_pos (by omega)]
        exact Cpu.value_of_dumped same.symm memory fits (by omega)
      · intro k kept
        exact (cells k).trans (if_neg (by omega))
  · have loaded := execute_loading memory log standing fits
    have stays := (cpu.i_setRegisters (memory.slice index (x.val + 1))).trans standing
    have taken := Cpu.registersUpTo_setRegisters cpu memory index x
    have back := execute_dumping memory (log ++ (memory.readLog index (x.val + 1)).toArray)
      stays fits taken
    rw [Memory.putAll_slice] at back
    exact ⟨_, _, _, loaded, back⟩

/-- All registers in the last cells of the memory. Then every register is set to 9, and those up to
V3 are taken back. -/
theorem load_takes_back_dump_top :
    ∃ (cpu : Cpu) (memory dumped : Memory) (log log' log'' : Array Access) (x z other : Register)
      (values restored : Vector Int 16),
      cpu.WellFormed ∧ cpu.i = 0xFF0 ∧ x.val = 15 ∧ z.val = 3 ∧ other.val = 4 ∧
      cpu.v.get z = 7 ∧ values = Vector.replicate 16 9 ∧
      (Opcode.dumping x).decode.execute (holding cpu memory log) =
        .done () (holding cpu dumped log') ∧
      dumped.byte 0xFEF = memory.byte 0xFEF ∧
      (Opcode.loading z).decode.execute (holding { cpu with v := values } dumped log') =
        .done () (holding { cpu with v := restored } dumped log'') ∧
      restored.get z = 7 ∧ restored.get other = 9 := by
  let z : Register := ⟨3, by decide⟩
  let other : Register := ⟨4, by decide⟩
  let cpu : Cpu := { (Cpu.initial (.ofSeed 0)).setV z 7 with i := 0xFF0 }
  have wf : cpu.WellFormed :=
    ((Cpu.initial_wellFormed _).setV z (by decide)).withI (by decide)
  have seven : cpu.v.get z = 7 := by
    rw [Cpu.v_setV, if_pos rfl]
  obtain ⟨⟨dumped, log', executed, outside, back⟩, _⟩ :=
    load_takes_back_dump cpu wf .zero #[] Register.flag (by decide)
  obtain ⟨restored, log'', loaded, taken, kept⟩ := back z (Vector.replicate 16 9) (by decide)
  refine ⟨cpu, .zero, dumped, #[], log', log'', Register.flag, z, other, _, restored, wf, rfl, rfl,
    rfl, rfl, seven, rfl, executed, outside 0xFEF (by decide), loaded, ?_, ?_⟩
  · exact (taken z (by decide)).trans seven
  · exact (kept other (by decide)).trans (get_replicate 9 other)

end Core

end Chip8
