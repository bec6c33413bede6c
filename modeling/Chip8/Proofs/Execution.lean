import Chip8.Proofs.Memory
import Chip8.Proofs.WellFormed

/-! What the execution of an instruction can do. On a well-formed core it meets the fault that
`Instruction.fault?` names and leaves the core as it was, or it ends with a well-formed core. -/

namespace Chip8

/-- The fault that an instruction meets on a processor, if it meets one. -/
def Instruction.fault? (cpu : Cpu) : Instruction → Option Fault
  | call _ => if cpu.sp = 16 then some (.stackOverflow 16) else none
  | ret => if cpu.sp = 0 then some .stackUnderflow else none
  | skipPressed x | skipReleased x =>
    if 15 < cpu.v.get x then some (.keypad (cpu.v.get x)) else none
  | draw _ _ height => blockFault? cpu.i height.val
  | decimal _ => blockFault? cpu.i 3
  | store x | load x => blockFault? cpu.i (x.val + 1)
  | sys _ | cls | jump _ | jumpOffset _ | skipEqualByte _ _ | skipUnequalByte _ _ | skipEqual _ _
  | skipUnequal _ _ | setByte _ _ | addByte _ _ | copy _ _ | or _ _ | and _ _ | xor _ _ | add _ _
  | sub _ _ | subReverse _ _ | shiftRight _ | shiftLeft _ | setIndex _ | random _ _ | readDelay _
  | waitKey _ | setDelay _ | setSound _ | addIndex _ | glyph _ | unknown _ => none

/-- A bus that maps one memory to the addresses 0x000 to 0xFFF. -/
def Bus.IsStandard (bus : Bus) : Prop :=
  ∃ memory log, bus = holding memory log

/-- A well-formed processor on a standard bus. -/
structure Core.WellFormed (core : Core) : Prop where
  cpu : core.cpu.WellFormed
  bus : core.bus.IsStandard

theorem not_of_guard {p : Prop} [Decidable p] {f : Fault}
    (passed : (if p then some f else none) = none) : ¬ p := by
  intro holds
  rw [if_pos holds] at passed
  contradiction

theorem Instruction.isBounds_of_fault? {cpu : Cpu} {i : Instruction} {f : Fault}
    (h : i.fault? cpu = some f) : f.isBounds = true := by
  have conditional {p : Prop} [Decidable p] {g : Fault} (bounds : g.isBounds = true)
      (found : (if p then some g else none) = some f) : f.isBounds = true := by
    cases (Option.ite_none_right_eq_some.mp found).2
    exact bounds
  cases i <;> simp only [fault?, blockFault?, reduceCtorEq] at h
  all_goals exact conditional rfl h

/-- An action ended well, with a well-formed core. -/
def Core.Ends (o : Outcome Core Unit) : Prop :=
  ∃ after, o = .done () after ∧ after.WellFormed

namespace Core

variable {core : Core}

theorem ends_become (bus : core.bus.IsStandard) {cpu : Cpu} (wf : cpu.WellFormed) :
    Ends (core.become cpu) :=
  ⟨core.withCpu cpu, rfl, ⟨wf, bus⟩⟩

theorem length_registersUpTo (cpu : Cpu) (x : Register) :
    (cpu.registersUpTo x).length = x.val + 1 := by
  have available : x.val + 1 ≤ 16 := by omega
  simp [Cpu.registersUpTo, available]

theorem exists_byteValues {values : List Int} (bytes : ∀ value ∈ values, IsByte value) :
    ∃ cells, byteValues cells = values := by
  induction values with
  | nil => exact ⟨[], rfl⟩
  | cons value rest ih =>
    obtain ⟨cells, same⟩ := ih fun other member => bytes other (List.mem_cons_of_mem _ member)
    obtain ⟨n, small, rfl⟩ := (bytes value List.mem_cons_self).exists_nat
    refine ⟨UInt8.ofNat n :: cells, ?_⟩
    have value : (UInt8.ofNat n).toNat = n := by simp; omega
    rw [byteValues_cons, same, value]

theorem isByte_registersUpTo {cpu : Cpu} (bytes : ∀ k : Fin 16, IsByte (cpu.v.get k))
    (x : Register) : ∀ value ∈ cpu.registersUpTo x, IsByte value := by
  intro value member
  obtain ⟨k, h, rfl⟩ := List.mem_iff_getElem.mp (List.mem_of_mem_take member)
  rw [Vector.length_toList] at h
  exact bytes ⟨k, h⟩

theorem isByte_decimalDigits {n : Int} (byte : IsByte n) : ∀ d ∈ decimalDigits n, IsByte d := by
  obtain ⟨low, high⟩ := byte
  intro d member
  simp only [decimalDigits, List.mem_cons, List.not_mem_nil, or_false] at member
  simp only [IsByte]
  obtain rfl | rfl | rfl := member <;> omega

theorem storeAtIndex_fault (wf : core.cpu.WellFormed) {values : List Int} {f : Fault}
    (outside : blockFault? core.cpu.i values.length = some f) :
    core.storeAtIndex values = .fault f core := by
  rw [storeAtIndex, Bus.writeBlock_fault wf.i.1 outside]
  rfl

theorem loadAtIndex_fault (wf : core.cpu.WellFormed) {count : Nat} {use : List UInt8 → Cpu}
    {f : Fault} (outside : blockFault? core.cpu.i count = some f) :
    core.loadAtIndex count use = .fault f core := by
  rw [loadAtIndex, Bus.readBlock_fault wf.i.1 outside]
  rfl

theorem storeAtIndex_ends (wf : core.WellFormed) {values : List Int}
    (bytes : ∀ value ∈ values, IsByte value)
    (within : blockFault? core.cpu.i values.length = none) : Ends (core.storeAtIndex values) := by
  obtain ⟨memory, log, bus⟩ := wf.bus
  obtain ⟨cells, rfl⟩ := exists_byteValues bytes
  obtain ⟨a, index⟩ := Int.eq_ofNat_of_zero_le wf.cpu.i.1
  rw [index, length_byteValues] at within
  rw [storeAtIndex, bus, index, Bus.writeBlock_holding memory log a cells within]
  exact ⟨_, rfl, wf.cpu, _, _, rfl⟩

theorem loadAtIndex_ends (wf : core.WellFormed) {count : Nat} {use : List UInt8 → Cpu}
    (keeps : ∀ bytes, (use bytes).WellFormed)
    (within : blockFault? core.cpu.i count = none) : Ends (core.loadAtIndex count use) := by
  obtain ⟨memory, log, bus⟩ := wf.bus
  obtain ⟨a, index⟩ := Int.eq_ofNat_of_zero_le wf.cpu.i.1
  rw [index] at within
  rw [loadAtIndex, bus, index, Bus.readBlock_holding memory log a count within]
  exact ⟨_, rfl, keeps _, _, _, rfl⟩

end Core

namespace Instruction

variable {core : Core}

/-- A fault is met before the first change: the processor, the memory and the log stay. -/
theorem execute_fault (wf : core.cpu.WellFormed) {i : Instruction} {f : Fault}
    (h : i.fault? core.cpu = some f) : i.execute core = .fault f core := by
  cases i with
  | call target =>
    obtain ⟨full, found⟩ := Option.ite_none_right_eq_some.mp h
    cases found
    simp [execute, Cpu.push, stackDepth, full]
  | ret =>
    obtain ⟨empty, found⟩ := Option.ite_none_right_eq_some.mp h
    cases found
    simp [execute, Cpu.pop, empty, Core.withCpu]
  | skipPressed x =>
    obtain ⟨beyond, found⟩ := Option.ite_none_right_eq_some.mp h
    cases found
    simp only [execute, Cpu.keyHeld_fault beyond]
  | skipReleased x =>
    obtain ⟨beyond, found⟩ := Option.ite_none_right_eq_some.mp h
    cases found
    simp only [execute, Cpu.keyHeld_fault beyond]
  | draw x y height => exact Core.loadAtIndex_fault wf h
  | decimal x => exact Core.storeAtIndex_fault wf h
  | store x =>
    apply Core.storeAtIndex_fault wf
    rw [Core.length_registersUpTo]
    exact h
  | load x => exact Core.loadAtIndex_fault wf h
  | _ => contradiction

theorem execute_ret (slot : Fin 16) (filled : core.cpu.sp = slot.val + 1) :
    ret.execute core = core.become
      ({ core.cpu with sp := slot.val }.jump (core.cpu.stack.get slot + instructionLength)) := by
  rw [execute, Cpu.pop_eq slot filled]
  rfl

theorem execute_call (fetched : core.cpu.Fetched) (slot : Fin 16) (room : core.cpu.sp = slot.val)
    (target : Fin 4096) :
    (call target).execute core = core.become
      { core.cpu.pushedAt slot (core.cpu.pc - instructionLength) with pc := target.val } := by
  rw [execute, fetched.push_eq slot room]

theorem execute_skipPressed (x : Register) (k : Fin 16) (key : core.cpu.v.get x = k.val) :
    (skipPressed x).execute core = core.become (core.cpu.skipIf (core.cpu.keys.get k)) := by
  simp only [execute, Cpu.keyHeld_eq k key]

theorem execute_skipReleased (x : Register) (k : Fin 16) (key : core.cpu.v.get x = k.val) :
    (skipReleased x).execute core = core.become (core.cpu.skipIf (!core.cpu.keys.get k)) := by
  simp only [execute, Cpu.keyHeld_eq k key]

/-- Without a fault the instruction ends, and what it leaves is well-formed again. -/
theorem execute_ends (wf : core.WellFormed) (fetched : core.cpu.Fetched) {i : Instruction}
    (h : i.fault? core.cpu = none) : Core.Ends (i.execute core) := by
  have stays : core.cpu.WellFormed := wf.cpu
  have become {cpu : Cpu} (kept : cpu.WellFormed) : Core.Ends (core.become cpu) :=
    Core.ends_become wf.bus kept
  cases i with
  | sys target => exact ⟨core, rfl, wf⟩
  | unknown opcode => exact ⟨core, rfl, wf⟩
  | cls => exact become { stays with }
  | ret =>
    have filled : core.cpu.sp ≠ 0 := not_of_guard h
    obtain ⟨low, high⟩ := stays.sp
    obtain ⟨slot, entry⟩ := Cpu.exists_slot (n := core.cpu.sp - 1) (by omega)
    have depth : core.cpu.sp = slot.val + 1 := by omega
    have bound := stays.stack slot
    have length : (instructionLength : Int) = 2 := rfl
    have lowered := stays.withSp (show 0 ≤ (slot.val : Int) ∧ (slot.val : Int) ≤ 16 by omega)
    rw [execute_ret slot depth]
    exact become (lowered.jump (by omega))
  | call target =>
    have room : core.cpu.sp ≠ 16 := not_of_guard h
    obtain ⟨low, high⟩ := stays.sp
    obtain ⟨slot, free⟩ := Cpu.exists_slot (n := core.cpu.sp) (by omega)
    rw [execute_call fetched slot free target]
    exact become ((fetched.pushed slot free).withPc (by omega))
  | jump target => exact become (stays.withPc (by omega))
  | jumpOffset target =>
    have offset : IsByte core.cpu.v[0] := stays.v 0
    obtain ⟨low, high⟩ := offset
    exact become (stays.jump (by omega))
  | skipEqualByte x byte => exact become (fetched.skipIf _)
  | skipUnequalByte x byte => exact become (fetched.skipIf _)
  | skipEqual x y => exact become (fetched.skipIf _)
  | skipUnequal x y => exact become (fetched.skipIf _)
  | skipPressed x =>
    obtain ⟨k, same⟩ := stays.exists_key x (not_of_guard h)
    rw [execute_skipPressed x k same]
    exact become (fetched.skipIf _)
  | skipReleased x =>
    obtain ⟨k, same⟩ := stays.exists_key x (not_of_guard h)
    rw [execute_skipReleased x k same]
    exact become (fetched.skipIf _)
  | setByte x byte => exact become (stays.setV x (isByte_natCast byte.isLt))
  | addByte x byte => exact become (stays.setV x (isByte_mod _))
  | copy x y => exact become (stays.setV x (stays.v y))
  | or x y => exact become (stays.setV x (isByte_either (stays.v x) (stays.v y)))
  | and x y => exact become (stays.setV x (isByte_both (stays.v x) (stays.v y)))
  | xor x y => exact become (stays.setV x (isByte_differ (stays.v x) (stays.v y)))
  | add x y => exact become (stays.setWithFlag x _ _)
  | sub x y => exact become (stays.setWithFlag x _ _)
  | subReverse x y => exact become (stays.setWithFlag x _ _)
  | shiftRight x => exact become (stays.setWithFlag x _ _)
  | shiftLeft x => exact become (stays.setWithFlag x _ _)
  | setIndex target => exact become (stays.withI (by omega))
  | addIndex x => exact become (stays.withI (by omega))
  | glyph x => exact become (stays.withI (by omega))
  | random x mask =>
    have masked : core.cpu.random.byte.1.toNat &&& mask.val < 256 :=
      Nat.and_lt_two_pow (n := 8) _ mask.isLt
    have drawn : { core.cpu with random := core.cpu.random.byte.2 }.WellFormed := { stays with }
    exact become (drawn.setV x (isByte_natCast masked))
  | draw x y height => exact Core.loadAtIndex_ends wf (fun bytes => stays.drawSprite x y bytes) h
  | readDelay x => exact become (stays.setV x stays.dt)
  | waitKey x => exact become (fetched.waitForKey x)
  | setDelay x => exact become { stays with dt := stays.v x }
  | setSound x => exact become { stays with st := stays.v x }
  | decimal x => exact Core.storeAtIndex_ends wf (Core.isByte_decimalDigits (stays.v x)) h
  | store x =>
    apply Core.storeAtIndex_ends wf (Core.isByte_registersUpTo stays.v x)
    rw [Core.length_registersUpTo]
    exact h
  | load x => exact Core.loadAtIndex_ends wf (fun bytes => stays.setRegisters bytes) h

end Instruction

end Chip8
