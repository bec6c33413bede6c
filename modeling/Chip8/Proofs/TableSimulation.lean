import Mathlib.Data.Nat.Bitwise
import Chip8.Proofs.Decoding
import Chip8.Proofs.TableAgreement

/-! The instructions follow the opcode table. Executed behind its fetch, the instruction of a word
ends with the core that the row of the word's digits gives. -/

namespace Chip8

theorem natCast_toNat_add (a b : UInt8) : ((a + b).toNat : Int) = (a.toNat + b.toNat) % 256 := by
  rw [UInt8.toNat_add]
  omega

theorem natCast_toNat_sub (a b : UInt8) :
    ((a - b).toNat : Int) = ((a.toNat : Int) - b.toNat) % 256 := by
  have small := b.toNat_lt
  rw [UInt8.toNat_sub]
  omega

theorem natCast_toNat_half (a : UInt8) : ((a >>> 1).toNat : Int) = a.toNat / 2 := by
  have places : (1 : UInt8).toNat % 8 = 1 := rfl
  rw [UInt8.toNat_shiftRight, places, Nat.shiftRight_eq_div_pow]
  omega

theorem natCast_toNat_double (a : UInt8) : ((a <<< 1).toNat : Int) = a.toNat * 2 % 256 := by
  have places : (1 : UInt8).toNat % 8 = 1 := rfl
  rw [UInt8.toNat_shiftLeft, places, Nat.shiftLeft_eq]
  omega

theorem and_bit_ne_zero {b bit : UInt8} {k : Nat} (single : bit.toNat = 2 ^ k) :
    b &&& bit ≠ 0 ↔ b.toNat / 2 ^ k % 2 = 1 := by
  have positive := Nat.two_pow_pos k
  rw [ne_eq, ← UInt8.toNat_inj, UInt8.toNat_and, single, Nat.and_two_pow,
    Nat.testBit_eq_decide_div_mod_eq]
  by_cases set : b.toNat / 2 ^ k % 2 = 1
  · simp [set]
  · simp [set]

namespace Core.Agrees

open OpcodeTable

variable {core : Core} {s : State}

theorem become (agrees : core.Agrees s) {cpu : Cpu} {t : State} (kept : cpu.Agrees t)
    (frame : t.memory = s.memory) : EndsAs (core.become cpu) t := by
  refine ⟨core.withCpu cpu, rfl, kept, ?_⟩
  rw [frame]
  exact agrees.bus

theorem skipIf (agrees : core.Agrees s.advance) (fetched : core.cpu.Fetched)
    {condition holds : Bool} (same : condition = holds) :
    EndsAs (core.become (core.cpu.skipIf condition)) (s.skipIf holds) :=
  agrees.become (agrees.cpu.skipIf fetched same) rfl

theorem setV (agrees : core.Agrees s.advance) (x : Register) {value : Int} {b : UInt8}
    (same : value = b.toNat) : EndsAs (core.become (core.cpu.setV x value)) (s.setV x b) :=
  agrees.become (agrees.cpu.setV x same) rfl

theorem setFlagged (agrees : core.Agrees s.advance) (x : Register) {result : Int} {b : UInt8}
    (same : result % 256 = b.toNat) {condition flag : Bool} (carried : condition = flag) :
    EndsAs (core.become (core.cpu.setWithFlag x result condition)) (s.setFlagged x b flag) := by
  have bit : (if condition then 1 else 0 : Int) = (if flag then 1 else 0 : UInt8).toNat := by
    rw [carried]
    cases flag <;> rfl
  -- The flag is written last, so it stands in VF also when `x` is VF.
  exact agrees.become ((agrees.cpu.setV x same).setV 15 bit) rfl

theorem storeAtIndex (agrees : core.Agrees s.advance) {cells : List UInt8} {count : Nat}
    {bytes : Nat → UInt8} (length : cells.length = count) (some : 0 < count)
    (same : ∀ k < count, cells[k]?.getD 0 = bytes k)
    (within : blockFault? core.cpu.i count = none) :
    EndsAs (core.storeAtIndex (byteValues cells)) (s.store count bytes) := by
  subst length
  obtain ⟨memory, log, bus, held⟩ := agrees.bus
  have index : core.cpu.i = s.i.toNat := agrees.cpu.i
  rw [index] at within
  have fits := fits_of_blockFault? some within
  rw [Core.storeAtIndex, bus, index, Bus.writeBlock_holding memory log s.i.toNat cells within]
  refine ⟨_, rfl, agrees.cpu.withMemory _, _, _, rfl, ?_⟩
  intro a inside
  rw [Memory.byte_putAll memory s.i.toNat cells fits, held a inside, State.store]
  by_cases written : s.i.toNat ≤ a ∧ a < s.i.toNat + cells.length
  · simp only [if_pos written]
    exact same (a - s.i.toNat) (by omega)
  · simp only [if_neg written]
    rfl

theorem loadRegisters (agrees : core.Agrees s.advance) (x : Register)
    (within : blockFault? core.cpu.i (x.val + 1 : Nat) = none) :
    EndsAs (core.loadAtIndex (x.val + 1) core.cpu.setRegisters)
      { s.advance with v := fun k => if k ≤ x then s.memory (s.i.toNat + k) else s.v k } := by
  obtain ⟨memory, log, bus, held⟩ := agrees.bus
  have index : core.cpu.i = s.i.toNat := agrees.cpu.i
  rw [index] at within
  have fits := fits_of_blockFault? (by omega) within
  rw [Core.loadAtIndex, bus, index, Bus.readBlock_holding memory log s.i.toNat (x.val + 1) within]
  refine ⟨_, rfl, agrees.cpu.withV ?_, _, _, rfl, held⟩
  intro k
  rw [get_ofFn]
  by_cases loaded : k.val ≤ x.val
  · have cell : k.val < x.val + 1 := by omega
    rw [Memory.getElem?_slice memory _ _ cell, if_pos loaded,
      held (s.i.toNat + k.val) (by omega)]
    rfl
  · have beyond : (memory.slice s.i.toNat (x.val + 1))[k.val]? = none := by
      rw [List.getElem?_eq_none_iff, Memory.length_slice]
      omega
    rw [beyond, if_neg loaded]
    exact agrees.cpu.v k

theorem ret (agrees : core.Agrees s.advance) (wf : core.cpu.WellFormed)
    (filled : core.cpu.sp ≠ 0) : EndsAs (Instruction.ret.execute core) (s.row 0x0 0x0 0xE 0xE) := by
  have depth : core.cpu.sp = s.sp := agrees.cpu.sp
  obtain ⟨low, high⟩ := wf.sp
  obtain ⟨slot, entry⟩ := Cpu.exists_slot (n := core.cpu.sp - 1) (by omega)
  have index : slot.val = s.sp - 1 := by omega
  have address : core.cpu.stack.get slot = s.stack (s.sp - 1) := by
    rw [← index]
    exact agrees.cpu.stack slot
  -- The address of a call that was fetched: two more stay in memory, and nothing comes round.
  have range := wf.stack slot
  have length : (instructionLength : Int) = 2 := rfl
  have popped := agrees.cpu.withSp (congrArg Nat.cast index)
  have next : core.cpu.stack.get slot + instructionLength
      = ((s.stack (s.sp - 1) + 2 : Nat) : Int) := by omega
  rw [Instruction.execute_ret slot (by omega)]
  exact agrees.become (popped.jump next (by omega)) rfl

theorem call (agrees : core.Agrees s.advance) (fetched : core.cpu.Fetched)
    (room : core.cpu.sp ≠ 16) (target : Fin 4096) {x y n : Nat}
    (operand : target.val = 256 * x + 16 * y + n) :
    EndsAs ((Instruction.call target).execute core) (s.row 0x2 x y n) := by
  have depth : core.cpu.sp = s.sp := agrees.cpu.sp
  have pc : core.cpu.pc = ((s.pc + 2 : Nat) : Int) := agrees.cpu.pc
  have length : (instructionLength : Int) = 2 := rfl
  obtain ⟨low, high⟩ := fetched.sp
  obtain ⟨slot, free⟩ := Cpu.exists_slot (n := core.cpu.sp) (by omega)
  have index : slot.val = s.sp := by omega
  have own : core.cpu.pc - instructionLength = s.pc := by omega
  rw [Instruction.execute_call fetched slot free target]
  exact agrees.become
    ((agrees.cpu.pushedAt index own).withPc (congrArg Nat.cast operand)) rfl

theorem jumpOffset (agrees : core.Agrees s.advance) (target : Fin 4096) {x y n : Nat}
    (operand : target.val = 256 * x + 16 * y + n) :
    EndsAs ((Instruction.jumpOffset target).execute core) (s.row 0xB x y n) := by
  have first : core.cpu.v[0] = (s.v 0).toNat := agrees.cpu.v 0
  have small := (s.v 0).toNat_lt
  have sum : core.cpu.v[0] + target.val
      = (((s.v 0).toNat + (256 * x + 16 * y + n) : Nat) : Int) := by omega
  exact agrees.become (agrees.cpu.jump sum (by omega)) rfl

theorem leastHeldKey? (agrees : core.Agrees s.advance) :
    s.leastHeldKey? = core.cpu.leastHeldKey?.map Fin.val := by
  have all : List.range 16 = (List.finRange 16).map Fin.val := rfl
  have same : s.keys ∘ Fin.val = fun k : Fin 16 => core.cpu.keys.get k :=
    funext fun k => (agrees.cpu.keys k).symm
  rw [State.leastHeldKey?, all, List.find?_map, same]
  rfl

theorem waitKey (agrees : core.Agrees s.advance) (fetched : core.cpu.Fetched) (x : Register) :
    EndsAs ((Instruction.waitKey x).execute core) (s.row 0xF x 0x0 0xA) := by
  have pc : core.cpu.pc = ((s.pc + 2 : Nat) : Int) := agrees.cpu.pc
  have behind := fetched.behind
  have length : (instructionLength : Int) = 2 := rfl
  have least := agrees.leastHeldKey?
  rw [Instruction.execute, Cpu.waitForKey]
  cases found : core.cpu.leastHeldKey? with
  | none =>
    rw [found] at least
    have row : s.row 0xF x 0x0 0xA = { s.advance with pc := s.pc } := by
      simp only [State.row, least]
      rfl
    have back : core.cpu.pc - instructionLength = ((s.pc : Nat) : Int) := by omega
    rw [row]
    exact agrees.become (agrees.cpu.jump back (by omega)) rfl
  | some key =>
    rw [found] at least
    have row : s.row 0xF x 0x0 0xA = s.setV x (UInt8.ofNat key.val) := by
      simp only [State.row, least]
      rfl
    have small : ((key.val : Nat) : Int) = (UInt8.ofNat key.val).toNat := by
      rw [UInt8.toNat_ofNat']
      omega
    rw [row]
    exact agrees.setV x small

theorem decimal (agrees : core.Agrees s.advance) (x : Register)
    (within : blockFault? core.cpu.i 3 = none) :
    EndsAs ((Instruction.decimal x).execute core) (s.row 0xF x 0x3 0x3) := by
  have value : core.cpu.v.get x = (s.v x).toNat := agrees.cpu.v x
  have digits : decimalDigits (core.cpu.v.get x)
      = byteValues [s.v x / 100, s.v x / 10 % 10, s.v x % 10] := by
    simp [decimalDigits, value, byteValues]
  rw [Instruction.execute, digits]
  change EndsAs _ (s.store 3 fun k =>
    if k = 0 then s.v x / 100 else if k = 1 then s.v x / 10 % 10 else s.v x % 10)
  refine agrees.storeAtIndex rfl (by decide) ?_ within
  intro k inside
  obtain rfl | rfl | rfl : k = 0 ∨ k = 1 ∨ k = 2 := by omega
  · rfl
  · rfl
  · rfl

theorem registersUpTo (agrees : core.Agrees s.advance) (x : Register) :
    core.cpu.registersUpTo x = byteValues ((List.range (x.val + 1)).map s.v) := by
  apply List.ext_getElem
  · simp [Core.length_registersUpTo]
  · intro k inside _
    rw [Core.length_registersUpTo] at inside
    have value : core.cpu.v.get ⟨k, by omega⟩ = (s.v k).toNat := agrees.cpu.v _
    simpa [Cpu.registersUpTo, byteValues, ← getElem_eq_get] using value

theorem store (agrees : core.Agrees s.advance) (x : Register)
    (within : blockFault? core.cpu.i (x.val + 1 : Nat) = none) :
    EndsAs ((Instruction.store x).execute core) (s.row 0xF x 0x5 0x5) := by
  rw [Instruction.execute, agrees.registersUpTo x]
  change EndsAs _ (s.store (x.val + 1) s.v)
  refine agrees.storeAtIndex (by simp) (by omega) ?_ within
  intro k inside
  simp [inside]

theorem exists_key (agrees : core.Agrees s.advance) (wf : core.cpu.WellFormed) (x : Register)
    (key : ¬ 15 < core.cpu.v.get x) :
    ∃ k : Fin 16, core.cpu.v.get x = k.val ∧ core.cpu.keys.get k = s.keys (s.v x).toNat := by
  have value : core.cpu.v.get x = (s.v x).toNat := agrees.cpu.v x
  obtain ⟨k, number⟩ := wf.exists_key x key
  have same : (s.v x).toNat = k.val := by omega
  refine ⟨k, number, ?_⟩
  rw [same]
  exact agrees.cpu.keys k

theorem skipPressed (agrees : core.Agrees s.advance) (fetched : core.cpu.Fetched) (x : Register)
    (key : ¬ 15 < core.cpu.v.get x) :
    EndsAs ((Instruction.skipPressed x).execute core) (s.row 0xE x 0x9 0xE) := by
  obtain ⟨k, number, held⟩ := agrees.exists_key fetched.toWellFormed x key
  rw [Instruction.execute_skipPressed x k number]
  exact agrees.skipIf fetched held

theorem skipReleased (agrees : core.Agrees s.advance) (fetched : core.cpu.Fetched) (x : Register)
    (key : ¬ 15 < core.cpu.v.get x) :
    EndsAs ((Instruction.skipReleased x).execute core) (s.row 0xE x 0xA 0x1) := by
  obtain ⟨k, number, held⟩ := agrees.exists_key fetched.toWellFormed x key
  rw [Instruction.execute_skipReleased x k number]
  exact agrees.skipIf fetched (congrArg not held)

end Core.Agrees

namespace OpcodeTable.State

theorem row_machineCall (s : State) {x y n : Nat} (third : y ≠ 0xE) :
    s.row 0x0 x y n = s.advance := by
  unfold State.row
  split <;> first | rfl | omega

/-- The digits of every row of the table but the last one are covered by a pattern. -/
theorem row_unlisted (s : State) {a x y n : Fin 16}
    (unlisted : ∀ row ∈ Form.table, ¬ row.1.Covers a x y n) : s.row a x y n = s.advance := by
  simp only [Form.table, Pattern.Covers, List.forall_mem_cons, List.not_mem_nil] at unlisted
  unfold State.row
  split <;> first | rfl | simp_all

end OpcodeTable.State

namespace Core.Agrees

open OpcodeTable Opcode

variable {core : Core} {s : State} {a x y n : Fin 16} {f : Form}

theorem operand_byte (a x y n : Fin 16) :
    ((ofDigits a x y n).kk.val : Int) = (UInt8.ofNat (16 * y.val + n.val)).toNat := by
  rw [kk_ofDigits, UInt8.toNat_ofNat']
  omega

theorem decide_eq_byte {i j : Int} {b c : UInt8} (first : i = b.toNat) (second : j = c.toNat) :
    decide (i = j) = decide (b = c) := by
  rw [first, second, decide_eq_decide, Int.natCast_inj, UInt8.toNat_inj]

theorem decide_ne_byte {i j : Int} {b c : UInt8} (first : i = b.toNat) (second : j = c.toNat) :
    decide (i ≠ j) = decide (b ≠ c) := by
  rw [first, second, decide_eq_decide, ne_eq, Int.natCast_inj, UInt8.toNat_inj]

theorem decide_le_byte {i j : Int} {b c : UInt8} (first : i = b.toNat) (second : j = c.toNat) :
    decide (j ≤ i) = decide (¬ b < c) := by
  rw [first, second, decide_eq_decide, UInt8.lt_iff_toNat_lt]
  omega

theorem control (agrees : core.Agrees s.advance) (fetched : core.cpu.Fetched)
    (form : (ofDigits a x y n).form = f) (group : f ∈ [.cls, .ret, .jump, .call, .jumpOffset])
    (harmless : (f.instruction (ofDigits a x y n)).fault? core.cpu = none) :
    EndsAs ((f.instruction (ofDigits a x y n)).execute core) (s.row a x y n) := by
  have target := nnn_ofDigits a x y n
  cases f with
  | cls =>
    have word : 0x1000 * a.val + 0x100 * x.val + 0x10 * y.val + n.val = 0x00E0 :=
      covers_of_form (.whole 0x00E0) (by decide) (by decide) form
    obtain ⟨rfl, rfl, rfl, rfl⟩ : a = 0 ∧ x = 0 ∧ y = 0xE ∧ n = 0 := by omega
    have dark : ∀ k : Fin 2048, Display.blank.lit k = false := by
      intro k
      simp [Display.lit, Display.blank]
    exact agrees.become { agrees.cpu with pixels := dark, redraw := rfl } rfl
  | ret =>
    have word : 0x1000 * a.val + 0x100 * x.val + 0x10 * y.val + n.val = 0x00EE :=
      covers_of_form (.whole 0x00EE) (by decide) (by decide) form
    obtain ⟨rfl, rfl, rfl, rfl⟩ : a = 0 ∧ x = 0 ∧ y = 0xE ∧ n = 0xE := by omega
    exact agrees.ret fetched.toWellFormed (not_of_guard harmless)
  | jump =>
    have first : a.val = 0x1 := covers_of_form (.group 0x1) (by decide) (by decide) form
    rw [first]
    exact agrees.become (agrees.cpu.withPc (congrArg Nat.cast target)) rfl
  | call =>
    have first : a.val = 0x2 := covers_of_form (.group 0x2) (by decide) (by decide) form
    rw [first]
    exact agrees.call fetched (not_of_guard harmless) _ target
  | jumpOffset =>
    have first : a.val = 0xB := covers_of_form (.group 0xB) (by decide) (by decide) form
    rw [first]
    exact agrees.jumpOffset _ target
  | _ => exact absurd group (by decide)

theorem skips (agrees : core.Agrees s.advance) (fetched : core.cpu.Fetched)
    (form : (ofDigits a x y n).form = f)
    (group : f ∈ [.skipEqualByte, .skipUnequalByte, .skipEqual, .skipUnequal, .skipPressed,
      .skipReleased])
    (harmless : (f.instruction (ofDigits a x y n)).fault? core.cpu = none) :
    EndsAs ((f.instruction (ofDigits a x y n)).execute core) (s.row a x y n) := by
  have vx : core.cpu.v.get x = (s.v x).toNat := agrees.cpu.v x
  have vy : core.cpu.v.get y = (s.v y).toNat := agrees.cpu.v y
  have byte := operand_byte a x y n
  cases f with
  | skipEqualByte =>
    have first : a.val = 0x3 := covers_of_form (.group 0x3) (by decide) (by decide) form
    rw [first, Form.instruction, x_ofDigits]
    exact agrees.skipIf fetched (decide_eq_byte vx byte)
  | skipUnequalByte =>
    have first : a.val = 0x4 := covers_of_form (.group 0x4) (by decide) (by decide) form
    rw [first, Form.instruction, x_ofDigits]
    exact agrees.skipIf fetched (decide_ne_byte vx byte)
  | skipEqual =>
    obtain ⟨first, last⟩ := covers_of_form (.groupLast 0x5 0x0) (by decide) (by decide) form
    rw [first, last, Form.instruction, x_ofDigits, y_ofDigits]
    exact agrees.skipIf fetched (decide_eq_byte vx vy)
  | skipUnequal =>
    obtain ⟨first, last⟩ := covers_of_form (.groupLast 0x9 0x0) (by decide) (by decide) form
    rw [first, last, Form.instruction, x_ofDigits, y_ofDigits]
    exact agrees.skipIf fetched (decide_ne_byte vx vy)
  | skipPressed =>
    obtain ⟨first, rest⟩ := covers_of_form (.groupByte 0xE 0x9E) (by decide) (by decide) form
    obtain ⟨third, last⟩ : y.val = 0x9 ∧ n.val = 0xE := by omega
    rw [Form.instruction, x_ofDigits] at harmless ⊢
    rw [first, third, last]
    exact agrees.skipPressed fetched x (not_of_guard harmless)
  | skipReleased =>
    obtain ⟨first, rest⟩ := covers_of_form (.groupByte 0xE 0xA1) (by decide) (by decide) form
    obtain ⟨third, last⟩ : y.val = 0xA ∧ n.val = 0x1 := by omega
    rw [Form.instruction, x_ofDigits] at harmless ⊢
    rw [first, third, last]
    exact agrees.skipReleased fetched x (not_of_guard harmless)
  | _ => exact absurd group (by decide)

theorem arithmetic (agrees : core.Agrees s.advance) (form : (ofDigits a x y n).form = f)
    (group : f ∈ [.copy, .or, .and, .xor, .add, .sub, .shiftRight, .subReverse, .shiftLeft]) :
    EndsAs ((f.instruction (ofDigits a x y n)).execute core) (s.row a x y n) := by
  have vx : core.cpu.v.get x = (s.v x).toNat := agrees.cpu.v x
  have vy : core.cpu.v.get y = (s.v y).toNat := agrees.cpu.v y
  cases f with
  | copy =>
    obtain ⟨first, last⟩ := covers_of_form (.groupLast 0x8 0x0) (by decide) (by decide) form
    rw [first, last, Form.instruction, x_ofDigits, y_ofDigits]
    exact agrees.setV x vy
  | or =>
    obtain ⟨first, last⟩ := covers_of_form (.groupLast 0x8 0x1) (by decide) (by decide) form
    rw [first, last, Form.instruction, x_ofDigits, y_ofDigits]
    refine agrees.setV x ?_
    rw [vx, vy, Bitwise.either_natCast, UInt8.toNat_or]
  | and =>
    obtain ⟨first, last⟩ := covers_of_form (.groupLast 0x8 0x2) (by decide) (by decide) form
    rw [first, last, Form.instruction, x_ofDigits, y_ofDigits]
    refine agrees.setV x ?_
    rw [vx, vy, Bitwise.both_natCast, UInt8.toNat_and]
  | xor =>
    obtain ⟨first, last⟩ := covers_of_form (.groupLast 0x8 0x3) (by decide) (by decide) form
    rw [first, last, Form.instruction, x_ofDigits, y_ofDigits]
    refine agrees.setV x ?_
    rw [vx, vy, Bitwise.differ_natCast, UInt8.toNat_xor]
  | add =>
    obtain ⟨first, last⟩ := covers_of_form (.groupLast 0x8 0x4) (by decide) (by decide) form
    rw [first, last, Form.instruction, x_ofDigits, y_ofDigits]
    refine agrees.setFlagged x ?_ ?_
    · rw [vx, vy, natCast_toNat_add]
    · rw [vx, vy, decide_eq_decide]
      omega
  | sub =>
    obtain ⟨first, last⟩ := covers_of_form (.groupLast 0x8 0x5) (by decide) (by decide) form
    rw [first, last, Form.instruction, x_ofDigits, y_ofDigits]
    refine agrees.setFlagged x ?_ (decide_le_byte vx vy)
    rw [vx, vy, natCast_toNat_sub]
  | shiftRight =>
    obtain ⟨first, last⟩ := covers_of_form (.groupLast 0x8 0x6) (by decide) (by decide) form
    rw [first, last, Form.instruction, x_ofDigits]
    refine agrees.setFlagged x ?_ ?_
    · have small := (s.v x).toNat_lt
      rw [vx, natCast_toNat_half]
      omega
    · rw [vx, decide_eq_decide, and_bit_ne_zero (k := 0) rfl]
      omega
  | subReverse =>
    obtain ⟨first, last⟩ := covers_of_form (.groupLast 0x8 0x7) (by decide) (by decide) form
    rw [first, last, Form.instruction, x_ofDigits, y_ofDigits]
    refine agrees.setFlagged x ?_ (decide_le_byte vy vx)
    rw [vx, vy, natCast_toNat_sub]
  | shiftLeft =>
    obtain ⟨first, last⟩ := covers_of_form (.groupLast 0x8 0xE) (by decide) (by decide) form
    rw [first, last, Form.instruction, x_ofDigits]
    refine agrees.setFlagged x ?_ ?_
    · rw [vx, natCast_toNat_double]
    · rw [vx, decide_eq_decide, and_bit_ne_zero (k := 7) rfl]
      omega
  | _ => exact absurd group (by decide)

theorem registers (agrees : core.Agrees s.advance) (fetched : core.cpu.Fetched)
    (form : (ofDigits a x y n).form = f)
    (group : f ∈ [.setByte, .addByte, .random, .readDelay, .waitKey, .setDelay, .setSound]) :
    EndsAs ((f.instruction (ofDigits a x y n)).execute core) (s.row a x y n) := by
  have vx : core.cpu.v.get x = (s.v x).toNat := agrees.cpu.v x
  have byte := operand_byte a x y n
  cases f with
  | setByte =>
    have first : a.val = 0x6 := covers_of_form (.group 0x6) (by decide) (by decide) form
    rw [first, Form.instruction, x_ofDigits]
    exact agrees.setV x byte
  | addByte =>
    have first : a.val = 0x7 := covers_of_form (.group 0x7) (by decide) (by decide) form
    rw [first, Form.instruction, x_ofDigits]
    refine agrees.setV x ?_
    rw [vx, byte, natCast_toNat_add]
  | random =>
    have first : a.val = 0xC := covers_of_form (.group 0xC) (by decide) (by decide) form
    have same : core.cpu.random = s.random := agrees.cpu.random
    have next : core.cpu.random.byte.2 = s.random.byte.2 := by rw [same]
    have masked : ((core.cpu.random.byte.1.toNat &&& (ofDigits a x y n).kk.val : Nat) : Int)
        = (s.random.byte.1 &&& UInt8.ofNat (16 * y.val + n.val)).toNat := by
      rw [same, UInt8.toNat_and, Int.natCast_inj.mp byte]
    rw [first, Form.instruction, x_ofDigits]
    exact agrees.become ((agrees.cpu.withRandom next).setV x masked) rfl
  | readDelay =>
    obtain ⟨first, rest⟩ := covers_of_form (.groupByte 0xF 0x07) (by decide) (by decide) form
    obtain ⟨third, last⟩ : y.val = 0x0 ∧ n.val = 0x7 := by omega
    rw [first, third, last, Form.instruction, x_ofDigits]
    exact agrees.setV x agrees.cpu.dt
  | waitKey =>
    obtain ⟨first, rest⟩ := covers_of_form (.groupByte 0xF 0x0A) (by decide) (by decide) form
    obtain ⟨third, last⟩ : y.val = 0x0 ∧ n.val = 0xA := by omega
    rw [first, third, last, Form.instruction, x_ofDigits]
    exact agrees.waitKey fetched x
  | setDelay =>
    obtain ⟨first, rest⟩ := covers_of_form (.groupByte 0xF 0x15) (by decide) (by decide) form
    obtain ⟨third, last⟩ : y.val = 0x1 ∧ n.val = 0x5 := by omega
    rw [first, third, last, Form.instruction, x_ofDigits]
    exact agrees.become { agrees.cpu with dt := vx } rfl
  | setSound =>
    obtain ⟨first, rest⟩ := covers_of_form (.groupByte 0xF 0x18) (by decide) (by decide) form
    obtain ⟨third, last⟩ : y.val = 0x1 ∧ n.val = 0x8 := by omega
    rw [first, third, last, Form.instruction, x_ofDigits]
    exact agrees.become { agrees.cpu with st := vx } rfl
  | _ => exact absurd group (by decide)

theorem index (agrees : core.Agrees s.advance) (form : (ofDigits a x y n).form = f)
    (group : f ∈ [.setIndex, .addIndex, .glyph]) :
    EndsAs ((f.instruction (ofDigits a x y n)).execute core) (s.row a x y n) := by
  have vx : core.cpu.v.get x = (s.v x).toNat := agrees.cpu.v x
  have i : core.cpu.i = s.i.toNat := agrees.cpu.i
  cases f with
  | setIndex =>
    have first : a.val = 0xA := covers_of_form (.group 0xA) (by decide) (by decide) form
    have target : ((ofDigits a x y n).nnn.val : Int)
        = (UInt16.ofNat (256 * x.val + 16 * y.val + n.val)).toNat := by
      rw [nnn_ofDigits, UInt16.toNat_ofNat']
      omega
    rw [first]
    exact agrees.become (agrees.cpu.withI target) rfl
  | addIndex =>
    obtain ⟨first, rest⟩ := covers_of_form (.groupByte 0xF 0x1E) (by decide) (by decide) form
    obtain ⟨third, last⟩ : y.val = 0x1 ∧ n.val = 0xE := by omega
    have total : (core.cpu.i + core.cpu.v.get x) % 0x10000 = (s.i + (s.v x).toUInt16).toNat := by
      rw [i, vx, UInt16.toNat_add, UInt8.toNat_toUInt16]
      omega
    rw [first, third, last, Form.instruction, x_ofDigits]
    exact agrees.become (agrees.cpu.withI total) rfl
  | glyph =>
    obtain ⟨first, rest⟩ := covers_of_form (.groupByte 0xF 0x29) (by decide) (by decide) form
    obtain ⟨third, last⟩ : y.val = 0x2 ∧ n.val = 0x9 := by omega
    have start : core.cpu.v.get x * glyphHeight % 0x10000 = ((s.v x).toUInt16 * 5).toNat := by
      have height : (glyphHeight : Int) = 5 := rfl
      have factor : (5 : UInt16).toNat = 5 := rfl
      rw [vx, height, UInt16.toNat_mul, UInt8.toNat_toUInt16, factor]
      omega
    rw [first, third, last, Form.instruction, x_ofDigits]
    exact agrees.become (agrees.cpu.withI start) rfl
  | _ => exact absurd group (by decide)

theorem blocks (agrees : core.Agrees s.advance) (form : (ofDigits a x y n).form = f)
    (group : f ∈ [.decimal, .store, .load])
    (harmless : (f.instruction (ofDigits a x y n)).fault? core.cpu = none) :
    EndsAs ((f.instruction (ofDigits a x y n)).execute core) (s.row a x y n) := by
  cases f with
  | decimal =>
    obtain ⟨first, rest⟩ := covers_of_form (.groupByte 0xF 0x33) (by decide) (by decide) form
    obtain ⟨third, last⟩ : y.val = 0x3 ∧ n.val = 0x3 := by omega
    rw [Form.instruction, x_ofDigits] at harmless ⊢
    rw [first, third, last]
    exact agrees.decimal x harmless
  | store =>
    obtain ⟨first, rest⟩ := covers_of_form (.groupByte 0xF 0x55) (by decide) (by decide) form
    obtain ⟨third, last⟩ : y.val = 0x5 ∧ n.val = 0x5 := by omega
    rw [Form.instruction, x_ofDigits] at harmless ⊢
    rw [first, third, last]
    exact agrees.store x harmless
  | load =>
    obtain ⟨first, rest⟩ := covers_of_form (.groupByte 0xF 0x65) (by decide) (by decide) form
    obtain ⟨third, last⟩ : y.val = 0x6 ∧ n.val = 0x5 := by omega
    rw [Form.instruction, x_ofDigits] at harmless ⊢
    rw [first, third, last]
    exact agrees.loadRegisters x harmless
  | _ => exact absurd group (by decide)

theorem passedOver (agrees : core.Agrees s.advance) (form : (ofDigits a x y n).form = f)
    (group : f ∈ [.sys, .unknown]) :
    EndsAs ((f.instruction (ofDigits a x y n)).execute core) (s.row a x y n) := by
  cases f with
  | sys =>
    obtain ⟨first, third⟩ := covers_of_form .machineCall (by decide) (by decide) form
    rw [first, State.row_machineCall s third]
    exact ⟨core, rfl, agrees⟩
  | unknown =>
    -- No pattern covers the digits, so no row but the last one takes them.
    rw [State.row_unlisted s (not_covers_of_unknown form)]
    exact ⟨core, rfl, agrees⟩
  | _ => exact absurd group (by decide)

/-- Behind its fetch, an instruction that meets no fault and does not draw does what the row of its
word says. -/
theorem execute (agrees : core.Agrees s.advance) (fetched : core.cpu.Fetched)
    (harmless : (ofDigits a x y n).decode.fault? core.cpu = none)
    (notDraw : (ofDigits a x y n).form ≠ .draw) :
    EndsAs ((ofDigits a x y n).decode.execute core) (s.row a x y n) := by
  rw [decode] at harmless ⊢
  generalize form : (ofDigits a x y n).form = f at harmless notDraw ⊢
  cases f with
  | cls | ret | jump | call | jumpOffset =>
    exact agrees.control fetched form (by decide) harmless
  | skipEqualByte | skipUnequalByte | skipEqual | skipUnequal | skipPressed | skipReleased =>
    exact agrees.skips fetched form (by decide) harmless
  | copy | or | and | xor | add | sub | shiftRight | subReverse | shiftLeft =>
    exact agrees.arithmetic form (by decide)
  | setByte | addByte | random | readDelay | waitKey | setDelay | setSound =>
    exact agrees.registers fetched form (by decide)
  | setIndex | addIndex | glyph => exact agrees.index form (by decide)
  | decimal | store | load => exact agrees.blocks form (by decide) harmless
  | sys | unknown => exact agrees.passedOver form (by decide)
  | draw => exact absurd rfl notDraw

end Core.Agrees

end Chip8
