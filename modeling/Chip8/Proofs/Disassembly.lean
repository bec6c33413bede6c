import Chip8.Proofs.HexText
import Chip8.Proofs.Layout
import Chip8.Proofs.Runs

/-! Assembly text, read back. Many instructions share a mnemonic, and the kinds of their operands
tell them apart. So the mnemonic and the operand texts belong to one instruction, and the text of a
line can be cut into them again. -/

namespace Chip8

/-- A text is cut in one way before the first place of a character. -/
theorem Text.cut_at_first {c : Char} {l l' rest rest' : List Char} (out : c ∉ l) (out' : c ∉ l')
    (marked : ∀ b ∈ rest.head?, b = c) (marked' : ∀ b ∈ rest'.head?, b = c)
    (same : l ++ rest = l' ++ rest') : l = l' ∧ rest = rest' := by
  induction l generalizing l' with
  | nil =>
    cases l' with
    | nil => exact ⟨rfl, same⟩
    | cons b l' =>
      have first : b = c := marked b (by simp [show rest = _ from same])
      simp [first] at out'
  | cons b l ih =>
    cases l' with
    | nil =>
      have first : b = c := marked' b (by simp [show rest' = _ from same.symm])
      simp [first] at out
    | cons b' l' =>
      obtain ⟨rfl, tails⟩ := List.cons.inj same
      obtain ⟨rfl, rests⟩ := ih (List.not_mem_of_not_mem_cons out)
        (List.not_mem_of_not_mem_cons out') tails
      exact ⟨rfl, rests⟩

/-- An operand as it is read from its text. -/
inductive Operand where
  | register (n : Int)
  | byte (n : Int)
  | address (n : Int)
  | word (s : String)
deriving DecidableEq

def Operand.read (s : String) : Operand :=
  match s.toList with
  | 'V' :: digits => register (Text.Hex.read digits)
  | '#' :: '$' :: digits => byte (Text.Hex.read digits)
  | '$' :: digits => address (Text.Hex.read digits)
  | _ => word s

namespace Operand

theorem read_registerText (n : Int) : read (registerText n) = .register n := by
  have written : (registerText n).toList = 'V' :: (Text.Hex.upper 1 n).toList := by
    simp [registerText]
  simp only [read, written, Text.Hex.read_upper]

theorem read_byteText (n : Int) : read (byteText n) = .byte n := by
  have written : (byteText n).toList = '#' :: '$' :: (Text.Hex.upper 2 n).toList := by
    simp [byteText]
  simp only [read, written, Text.Hex.read_upper]

theorem read_address (width : Nat) (n : Int) :
    read ("$" ++ Text.Hex.upper width n) = .address n := by
  have written : ("$" ++ Text.Hex.upper width n).toList
      = '$' :: (Text.Hex.upper width n).toList := by
    simp
  simp only [read, written, Text.Hex.read_upper]

theorem read_height : ∀ n : Fin 16, read (toString n.val) = .word (toString n.val) := by
  decide

end Operand

namespace Opcode

theorem n_val (x : Fin 16) : n (x.val : Int) = x := by
  rw [Fin.ext_iff, val_n, Nat.mod_eq_of_lt x.isLt]

theorem kk_val (byte : Fin 256) : kk (byte.val : Int) = byte := by
  rw [Fin.ext_iff, val_kk, Nat.mod_eq_of_lt byte.isLt]

theorem nnn_val (target : Fin 4096) : nnn (target.val : Int) = target := by
  rw [Fin.ext_iff, val_nnn, Nat.mod_eq_of_lt target.isLt]

end Opcode

namespace Instruction

/-- The operands, as reading their texts gives them. -/
def arguments : Instruction → List Operand
  | cls | ret => []
  | sys t | jump t | call t => [.address t.val]
  | skipEqualByte x b | skipUnequalByte x b | setByte x b | addByte x b | random x b =>
    [.register x.val, .byte b.val]
  | skipEqual x y | copy x y | or x y | and x y | xor x y | add x y | sub x y | subReverse x y
  | skipUnequal x y => [.register x.val, .register y.val]
  | shiftRight x | shiftLeft x | skipPressed x | skipReleased x => [.register x.val]
  | setIndex t => [.word "I", .address t.val]
  | jumpOffset t => [.register 0, .address t.val]
  | draw x y n => [.register x.val, .register y.val, .word (toString n.val)]
  | readDelay x => [.register x.val, .word "DT"]
  | waitKey x => [.register x.val, .word "K"]
  | setDelay x => [.word "DT", .register x.val]
  | setSound x => [.word "ST", .register x.val]
  | addIndex x => [.word "I", .register x.val]
  | glyph x => [.word "F", .register x.val]
  | decimal x => [.word "B", .register x.val]
  | store x => [.word "[I]", .register x.val]
  | load x => [.register x.val, .word "[I]"]
  | unknown op => [.address op]

/-- The instruction that a mnemonic and operands write. The kinds of the operands come first, for a
mnemonic may stand for several forms; numbers are cut to the width of their fields. -/
def assemble? (mnemonic : String) : List Operand → Option Instruction
  | [] => match mnemonic with
    | "CLS" => some cls
    | "RET" => some ret
    | _ => none
  | [.address t] => match mnemonic with
    | "SYS" => some (sys (Opcode.nnn t))
    | "JP" => some (jump (Opcode.nnn t))
    | "CALL" => some (call (Opcode.nnn t))
    | "UNKNOWN" => some (unknown t)
    | _ => none
  | [.register x] => match mnemonic with
    | "SHR" => some (shiftRight (Opcode.n x))
    | "SHL" => some (shiftLeft (Opcode.n x))
    | "SKP" => some (skipPressed (Opcode.n x))
    | "SKNP" => some (skipReleased (Opcode.n x))
    | _ => none
  | [.register x, .byte b] => match mnemonic with
    | "SE" => some (skipEqualByte (Opcode.n x) (Opcode.kk b))
    | "SNE" => some (skipUnequalByte (Opcode.n x) (Opcode.kk b))
    | "LD" => some (setByte (Opcode.n x) (Opcode.kk b))
    | "ADD" => some (addByte (Opcode.n x) (Opcode.kk b))
    | "RND" => some (random (Opcode.n x) (Opcode.kk b))
    | _ => none
  | [.register x, .register y] => match mnemonic with
    | "SE" => some (skipEqual (Opcode.n x) (Opcode.n y))
    | "SNE" => some (skipUnequal (Opcode.n x) (Opcode.n y))
    | "LD" => some (copy (Opcode.n x) (Opcode.n y))
    | "OR" => some (or (Opcode.n x) (Opcode.n y))
    | "AND" => some (and (Opcode.n x) (Opcode.n y))
    | "XOR" => some (xor (Opcode.n x) (Opcode.n y))
    | "ADD" => some (add (Opcode.n x) (Opcode.n y))
    | "SUB" => some (sub (Opcode.n x) (Opcode.n y))
    | "SUBN" => some (subReverse (Opcode.n x) (Opcode.n y))
    | _ => none
  | [.register _, .address t] => some (jumpOffset (Opcode.nnn t))
  | [.register x, .word s] => match s with
    | "DT" => some (readDelay (Opcode.n x))
    | "K" => some (waitKey (Opcode.n x))
    | "[I]" => some (load (Opcode.n x))
    | _ => none
  | [.word _, .address t] => some (setIndex (Opcode.nnn t))
  | [.word s, .register x] => match s with
    | "DT" => some (setDelay (Opcode.n x))
    | "ST" => some (setSound (Opcode.n x))
    | "I" => some (addIndex (Opcode.n x))
    | "F" => some (glyph (Opcode.n x))
    | "B" => some (decimal (Opcode.n x))
    | "[I]" => some (store (Opcode.n x))
    | _ => none
  | [.register x, .register y, .word s] =>
    ((List.finRange 16).find? fun n => toString n.val = s).map (draw (Opcode.n x) (Opcode.n y))
  | _ => none

theorem assemble?_arguments (i : Instruction) : assemble? i.mnemonic i.arguments = some i := by
  have height : ∀ n : Fin 16,
      ((List.finRange 16).find? fun k => toString k.val = toString n.val) = some n := by
    decide
  cases i <;>
    simp only [mnemonic, form, Form.mnemonic, arguments, assemble?, Opcode.n_val, Opcode.kk_val,
      Opcode.nnn_val, height, Option.map_some]

theorem read_operands (i : Instruction) : i.operands.map Operand.read = i.arguments := by
  have names : ∀ s ∈ ["I", "DT", "ST", "K", "F", "B", "[I]"], Operand.read s = .word s := by decide
  have first : Operand.read "V0" = .register 0 := by decide
  cases i <;>
    simp (disch := decide) only [operands, arguments, List.map_cons, List.map_nil, addressText,
      Operand.read_registerText, Operand.read_byteText, Operand.read_address, Operand.read_height,
      first, names]

variable {i j : Instruction}

/-- The mnemonic and the operand texts belong to one instruction. -/
theorem eq_of_texts (mnemonics : i.mnemonic = j.mnemonic) (operands : i.operands = j.operands) :
    i = j := by
  have arguments : i.arguments = j.arguments := by
    rw [← read_operands, operands, read_operands]
  have written := i.assemble?_arguments
  rw [mnemonics, arguments, j.assemble?_arguments] at written
  exact (Option.some.inj written).symm

/-- Operands as they stand in a line behind another one. -/
def behindComma (operands : List String) : List Char :=
  operands.flatMap fun s => ',' :: ' ' :: s.toList

/-- Operands as they stand in a line behind the mnemonic. -/
def behindBlank : List String → List Char
  | [] => []
  | s :: rest => ' ' :: (s.toList ++ behindComma rest)

theorem toList_text (i : Instruction) :
    i.text.toList = i.mnemonic.toList ++ behindBlank i.operands := by
  have joined (s : String) (rest : List String) :
      (", ".intercalate (s :: rest)).toList = s.toList ++ behindComma rest := by
    induction rest generalizing s with
    | nil => simp [behindComma]
    | cons t rest ih =>
      rw [String.intercalate_cons_cons, String.toList_append, ih]
      simp [behindComma]
  rw [text]
  cases i.operands with
  | nil => simp [behindBlank]
  | cons s rest => simp [behindBlank, joined]

theorem blank_notMem_mnemonic (form : Form) : ' ' ∉ form.mnemonic.toList := by
  cases form <;> decide

theorem comma_notMem_operands (i : Instruction) : ∀ s ∈ i.operands, ',' ∉ s.toList := by
  have hex := Text.Hex.not_mem_upper (c := ',') (by decide)
  have register (n : Int) : ',' ∉ (registerText n).toList := by simp [registerText, hex]
  have byte (n : Int) : ',' ∉ (byteText n).toList := by simp [byteText, hex]
  have address (width : Nat) (n : Int) : ',' ∉ ("$" ++ Text.Hex.upper width n).toList := by
    simp [hex]
  have height : ∀ n : Fin 16, ',' ∉ (toString n.val).toList := by decide
  have names : ∀ s ∈ ["I", "V0", "DT", "ST", "K", "F", "B", "[I]"], ',' ∉ s.toList := by decide
  cases i <;>
    simp (disch := decide) only [operands, addressText, List.forall_mem_cons, List.not_mem_nil,
      false_implies, implies_true, not_false_eq_true, and_self, register, byte, address, height,
      names]

theorem behindComma_injective {operands operands' : List String}
    (free : ∀ s ∈ operands, ',' ∉ s.toList) (free' : ∀ s ∈ operands', ',' ∉ s.toList)
    (same : behindComma operands = behindComma operands') : operands = operands' := by
  have marked (rest : List String) : ∀ c ∈ (behindComma rest).head?, c = ',' := by
    cases rest <;> simp [behindComma]
  -- Each operand ends at the comma of the next one.
  induction operands generalizing operands' with
  | nil =>
    cases operands' with
    | nil => rfl
    | cons s' rest' => cases same
  | cons s rest ih =>
    cases operands' with
    | nil => cases same
    | cons s' rest' =>
      have lines : s.toList ++ behindComma rest = s'.toList ++ behindComma rest' := by
        simpa [behindComma] using same
      obtain ⟨heads, rests⟩ := Text.cut_at_first (free s List.mem_cons_self)
        (free' s' List.mem_cons_self) (marked rest) (marked rest') lines
      rw [String.toList_inj.mp heads, ih (List.forall_mem_of_forall_mem_cons free)
        (List.forall_mem_of_forall_mem_cons free') rests]

/-- The comma before the first operand says nothing. -/
theorem behindComma_of_behindBlank {operands operands' : List String}
    (same : behindBlank operands = behindBlank operands') :
    behindComma operands = behindComma operands' := by
  cases operands with
  | nil =>
    cases operands' with
    | nil => rfl
    | cons s' rest' => cases same
  | cons s rest =>
    cases operands' with
    | nil => cases same
    | cons s' rest' => exact congrArg (',' :: ·) same

/-- A line belongs to one instruction: no mnemonic has a blank and no operand a comma. -/
theorem text_injective (same : i.text = j.text) : i = j := by
  have marked (operands : List String) : ∀ c ∈ (behindBlank operands).head?, c = ' ' := by
    cases operands <;> simp [behindBlank]
  have lines := congrArg String.toList same
  rw [toList_text, toList_text] at lines
  obtain ⟨mnemonics, rests⟩ := Text.cut_at_first (blank_notMem_mnemonic i.form)
    (blank_notMem_mnemonic j.form) (marked _) (marked _) lines
  exact eq_of_texts (String.toList_inj.mp mnemonics) (behindComma_injective
    (comma_notMem_operands i) (comma_notMem_operands j) (behindComma_of_behindBlank rests))

end Instruction

namespace Snapshot

variable {s t : Snapshot}

theorem eq_of_symbol (same : s.symbol = t.symbol) :
    s.address = t.address ∧ s.instruction = t.instruction := by
  have colon := Text.Hex.not_mem_upper (c := ':') (by decide) 3
  have lines := congrArg String.toList same
  simp only [symbol, String.toList_append, List.append_assoc] at lines
  obtain ⟨addresses, rests⟩ := Text.cut_at_first (colon s.address) (colon t.address)
    (by simp) (by simp) lines
  constructor
  · rw [← Text.Hex.read_upper 3 s.address, addresses, Text.Hex.read_upper]
  · exact Instruction.text_injective (String.toList_inj.mp (List.append_cancel_left rests))

end Snapshot

/-- A step that ended, as a fetch and an execution: had the word `op` been fetched, the step would
have ended on the same machine. -/
structure Machine.Performs (m : Machine) (op : Opcode) (snapshot : Snapshot) (last : Machine)
    (fetched core : Core) : Prop where
  fetch : (m.toCore.withBus m.bus.clearLog).fetch = .done snapshot.opcode fetched
  executed : fetched.executeFetched op = .done () core
  cpu : snapshot.cpu = core.cpu
  accesses : snapshot.accesses = core.bus.log
  last : last = { m with cpu := core.cpu, bus := core.bus.clearLog, cycles := m.cycles + 1 }

namespace Machine

variable {m last : Machine} {snapshot : Snapshot}

theorem address_of_step (ended : m.step = .done snapshot last) : snapshot.address = m.cpu.pc := by
  obtain ⟨opcode, between, stepped, kept⟩ := Outcome.exists_of_andThen ended
  cases kept
  rfl

theorem performs_of_step (ended : m.step = .done snapshot last) :
    ∃ fetched core, m.Performs snapshot.opcode snapshot last fetched core := by
  obtain ⟨opcode, between, stepped, kept⟩ := Outcome.exists_of_andThen ended
  obtain ⟨core, ran, rfl⟩ := Outcome.exists_of_onState stepped
  obtain ⟨op, fetched, fetch, later⟩ := Outcome.exists_of_andThen ran
  obtain ⟨_, behind, executed, done⟩ := Outcome.exists_of_andThen later
  cases done
  cases kept
  exact ⟨fetched, core, fetch, executed, rfl, rfl, rfl⟩

end Machine

/-- Two words with the same mnemonic and the same operand texts have one form, agree in their low 16
bits, but for the third digit of shifts, and do and report the same from every core. Two snapshots
with the same symbol have one address, and the step behind either did what the word of the other one
does. -/
theorem text_determines_effect :
    (∀ a b : Nat, (Opcode.decode a).mnemonic = (Opcode.decode b).mnemonic →
      (Opcode.decode a).operands = (Opcode.decode b).operands →
      Opcode.form a = Opcode.form b ∧ Opcode.Agree a b ∧
      (∀ core, (Opcode.decode a).execute core = (Opcode.decode b).execute core) ∧
      ∀ pc, (Opcode.decode a).notice? pc = (Opcode.decode b).notice? pc) ∧
    (∀ s t : Snapshot, s.symbol = t.symbol → s.address = t.address ∧
      ∀ core : Core, core.executeFetched s.opcode = core.executeFetched t.opcode) ∧
    (∀ (m last : Machine) (s t : Snapshot), m.step = .done s last → s.symbol = t.symbol →
      m.cpu.pc = t.address ∧ s.notice? = t.instruction.notice? s.cpu.pc ∧
      ∃ fetched core, m.Performs t.opcode s last fetched core) := by
  have effects {s t : Snapshot} (same : s.instruction = t.instruction) (core : Core) :
      core.executeFetched s.opcode = core.executeFetched t.opcode := by
    have decoded : s.opcode.decode = t.opcode.decode := same
    rw [Core.executeFetched, Core.executeFetched, decoded]
  refine ⟨?_, ?_, ?_⟩
  · intro a b mnemonics operands
    have same := Instruction.eq_of_texts mnemonics operands
    obtain ⟨forms, agree⟩ := Opcode.agree_of_decode same
    refine ⟨forms, agree, ?_, ?_⟩
    · intro core
      rw [same]
    · intro pc
      rw [same]
  · intro s t symbols
    obtain ⟨addresses, same⟩ := Snapshot.eq_of_symbol symbols
    exact ⟨addresses, effects same⟩
  · intro m last s t ended symbols
    obtain ⟨addresses, same⟩ := Snapshot.eq_of_symbol symbols
    obtain ⟨fetched, core, step⟩ := Machine.performs_of_step ended
    have executed := step.executed
    rw [effects same] at executed
    refine ⟨(Machine.address_of_step ended).symm.trans addresses, ?_, fetched, core,
      { step with executed }⟩
    rw [Snapshot.notice?, same]

/-- Two machines shift V0 with words that differ in their third digit. A third word, which differs
above 16 bits as well, reads the same. -/
theorem text_determines_effect_shift :
    ∃ (m last n last' : Machine) (s t : Snapshot), m.step = .done s last ∧ n.step = .done t last' ∧
      s.opcode = 0x8016 ∧ t.opcode = 0x8026 ∧ s.symbol = t.symbol ∧
      (∃ fetched core, m.Performs t.opcode s last fetched core) ∧
      (Opcode.decode 0x18016).text = (Opcode.decode 0x8026).text ∧
      Opcode.Agree 0x18016 0x8026 := by
  have stepped (lo : UInt8) (op : Opcode) (bytes : .ofBytes 0x80 lo = op)
      (decoded : op.decode = .shiftRight 0) : ∃ (m last : Machine) (s : Snapshot),
        m.step = .done s last ∧ s.opcode = op ∧ s.address = 0x200 ∧
          s.instruction = .shiftRight 0 := by
    have fits : ([0x80, lo] : Program).length ≤ maxProgramSize := by
      change 2 ≤ 0xE00
      decide
    have wf := Machine.ofBus_wellFormed (Memory.image [0x80, lo]) #[] (some 0)
    obtain ⟨s, last, core, ended, shift, done⟩ :=
      Machine.exists_executed_of_image wf fits rfl (k := 0) rfl (by simp) decoded bytes rfl
    have opcode : s.opcode = op := by rw [done.opcode, Machine.word_ofBus fits, bytes]
    exact ⟨_, last, s, ended, opcode, done.address, shift⟩
  obtain ⟨m, last, s, ended, first, address, shift⟩ := stepped 0x16 0x8016 (by decide) (by decide)
  obtain ⟨n, last', t, ended', second, address', shift'⟩ :=
    stepped 0x26 0x8026 (by decide) (by decide)
  have symbols : s.symbol = t.symbol := by
    rw [Snapshot.symbol, Snapshot.symbol, address, address', shift, shift']
  obtain ⟨words, _, steps⟩ := text_determines_effect
  have high : Opcode.decode 0x18016 = .shiftRight 0 := by decide
  have low : Opcode.decode 0x8026 = .shiftRight 0 := by decide
  have same : Opcode.decode 0x18016 = Opcode.decode 0x8026 := high.trans low.symm
  obtain ⟨_, agree, _⟩ := words 0x18016 0x8026 (congrArg Instruction.mnemonic same)
    (congrArg Instruction.operands same)
  obtain ⟨_, _, performed⟩ := steps m last s t ended symbols
  exact ⟨m, last, n, last', s, t, ended, ended', first, second, symbols, performed,
    congrArg Instruction.text same, agree⟩

end Chip8
