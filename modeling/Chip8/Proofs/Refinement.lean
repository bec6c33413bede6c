import Chip8.Proofs.Reachable
import Chip8.Proofs.TableSimulation

/-! Steps refine the opcode table. Whatever the cells hold, a step of a reachable machine that ends
well and does not draw ends in the state that the table gives for the word at the program
counter. -/

namespace Chip8

open OpcodeTable Opcode

def Machine.withMemory (m : Machine) (memory : Memory) : Machine :=
  m.withBus (.holding memory m.bus.log)

theorem Opcode.exists_digits {word : Nat} (bound : word < 0x10000) :
    ∃ a x y n : Fin 16, (word : Int) = ofDigits a x y n ∧ a.val = word / 0x1000 ∧
      x.val = word / 0x100 % 16 ∧ y.val = word / 0x10 % 16 ∧ n.val = word % 16 := by
  refine ⟨⟨word / 0x1000, by omega⟩, ⟨word / 0x100 % 16, by omega⟩, ⟨word / 0x10 % 16, by omega⟩,
    ⟨word % 16, by omega⟩, ?_, rfl, rfl, rfl, rfl⟩
  simp only [ofDigits]
  omega

theorem OpcodeTable.State.word_lt (s : State) : s.word < 0x10000 := by
  have high := (s.memory s.pc).toNat_lt
  have low := (s.memory (s.pc + 1)).toNat_lt
  unfold State.word
  omega

namespace Core

variable {core : Core} {s : State}

theorem Agrees.word_eq (agrees : core.Agrees s) (inside : core.cpu.pc ≤ 0xFFE) :
    core.word = ((s.word : Nat) : Int) := by
  obtain ⟨memory, log, bus, held⟩ := agrees.bus
  have pc : core.cpu.pc = s.pc := agrees.cpu.pc
  have next : core.cpu.pc + 1 = ((s.pc + 1 : Nat) : Int) := by omega
  rw [word, bus, next, pc, Bus.byteAt_holding memory log (by omega),
    Bus.byteAt_holding memory log (by omega), held s.pc (by omega), held (s.pc + 1) (by omega)]
  have weighed (hi lo : UInt8) :
      (hi.toNat * 256 + lo.toNat : Int) = ((256 * hi.toNat + lo.toNat : Nat) : Int) := by omega
  exact weighed _ _

theorem Agrees.behind (agrees : core.Agrees s) (inside : core.cpu.pc ≤ 0xFFE) :
    core.behind.Agrees s.advance := by
  obtain ⟨memory, log, bus, held⟩ := agrees.bus
  have pc : core.cpu.pc = s.pc := agrees.cpu.pc
  have length : (instructionLength : Int) = 2 := rfl
  have next : core.cpu.pc + instructionLength = ((s.pc + 2 : Nat) : Int) := by omega
  refine ⟨agrees.cpu.jump next (by omega), memory, core.fetchLog, ?_, held⟩
  change { core.bus with log := core.fetchLog } = _
  rw [bus]
  rfl

/-- Behind its fetch, the instruction of a well-formed core follows the row of its word. -/
theorem Agrees.follow (agrees : core.Agrees s) (wf : core.WellFormed)
    (harmless : core.fault? = none) (notDraw : core.word.form ≠ .draw) :
    ∃ t, s.next? = some t ∧ EndsAs (core.word.decode.execute core.behind) t := by
  obtain ⟨inside, passed⟩ := fault?_eq_none_iff.mp harmless
  obtain ⟨a, x, y, n, digits, first, second, third, fourth⟩ := exists_digits s.word_lt
  have word : core.word = ofDigits a x y n := (agrees.word_eq inside).trans digits
  rw [← fault?_behind] at passed
  rw [word] at passed notDraw ⊢
  have other : s.word / 0x1000 ≠ 0xD := by
    rw [← first]
    exact fun draws => notDraw (draw_of_first draws)
  refine ⟨s.row a x y n, ?_, ?_⟩
  · rw [State.next?, if_neg other, first, second, third, fourth]
  · exact (agrees.behind inside).execute (behind_wellFormed wf inside).2 passed notDraw

end Core

namespace Machine

theorem withMemory_ofBus (memory : Memory) (log : Array Access) (seed : Option Int) :
    (ofBus (.holding memory log) seed).withMemory memory = ofBus (.holding memory log) seed := rfl

theorem withMemory_wellFormed {m : Machine} (wf : m.toCore.WellFormed) (memory : Memory) :
    (m.withMemory memory).toCore.WellFormed :=
  ⟨wf.cpu, memory, m.bus.log, rfl⟩

/-- Whatever its cells hold, a reachable machine has a state in the table's terms, and a step that
ends well and does not draw takes every such state to the one that the table gives. -/
theorem step_follows_table {m : Machine} (reachable : m.Reachable) (memory : Memory)
    {snapshot : Snapshot} {after : Machine}
    (ended : (m.withMemory memory).step = .done snapshot after)
    (notDraw : snapshot.instruction.form ≠ .draw) :
    (∃ s, (m.withMemory memory).toCore.Agrees s) ∧
      ∀ s, (m.withMemory memory).toCore.Agrees s →
        ∃ t, s.next? = some t ∧ after.toCore.Agrees t := by
  have wf := withMemory_wellFormed reachable.wellFormed memory
  have own : (m.withMemory memory).toCore.Agrees _ := Core.agrees_tableState wf.cpu rfl
  refine ⟨⟨_, own⟩, ?_⟩
  intro s agrees
  cases fault : (m.withMemory memory).toCore.fault? with
  | some f =>
    rw [step_fault wf fault] at ended
    cases congrArg Outcome.result ended
  | none =>
    obtain ⟨last, executed, _, done⟩ := step_done wf fault
    rw [done] at ended
    cases ended
    rw [Snapshot.instruction, form_decode] at notDraw
    obtain ⟨t, next, same, executed', agrees'⟩ := agrees.follow wf fault notDraw
    rw [executed] at executed'
    cases executed'
    exact ⟨t, next, agrees'.cpu, agrees'.bus.clearLog⟩

/-- The first step of a program that adds VF to itself. -/
theorem step_follows_table_doubling :
    ∃ (m : Machine) (memory : Memory) (snapshot : Snapshot) (after : Machine), m.Reachable ∧
      (m.withMemory memory).step = .done snapshot after ∧ snapshot.instruction = .add 15 15 ∧
      (∃ s, (m.withMemory memory).toCore.Agrees s) ∧
        ∀ s, (m.withMemory memory).toCore.Agrees s →
          ∃ t, s.next? = some t ∧ after.toCore.Agrees t := by
  have fits : ([0x8F, 0xF4] : Program).length ≤ maxProgramSize := by decide
  have reachable := reachable_ofBus fits 0
  have word := word_ofBus fits (some 0)
  have bytes : Opcode.ofBytes 0x8F 0xF4 = 0x8FF4 := by decide
  have decoded : Opcode.decode 0x8FF4 = .add 15 15 := by decide
  have harmless : Core.fault? (ofBus (.holding (Memory.image [0x8F, 0xF4]) #[]) (some 0)).toCore
      = none := by
    have inside : (programStart : Int) ≤ 0xFFE := by decide
    rw [Core.fault?_eq_none_iff, word, bytes, decoded]
    exact ⟨inside, rfl⟩
  obtain ⟨snapshot, after, done, executed⟩ := exists_snapshot reachable.wellFormed harmless
  rw [word, bytes, decoded] at executed
  have notDraw : snapshot.instruction.form ≠ .draw := by
    rw [executed]
    decide
  rw [← withMemory_ofBus] at done
  exact ⟨_, _, snapshot, after, reachable, done, executed,
    step_follows_table reachable _ done notDraw⟩

end Machine

end Chip8
