import Chip8.Proofs.Reachable

/-! Failed steps. A step of a reachable machine fails exactly with the fault that the program
counter, the word there and the registers determine, always a bounds fault, and it fails as a
whole: nothing but the log of the bus tells that it was tried. -/

namespace Chip8

theorem Core.isBounds_of_fault? {core : Core} {f : Fault} (h : core.fault? = some f) :
    f.isBounds = true := by
  unfold fault? at h
  split at h
  · cases h
    rfl
  · exact Instruction.isBounds_of_fault? h

/-- A sprite without rows reads no cell, wherever the index register points. -/
theorem Instruction.fault?_draw_zero (cpu : Cpu) (x y : Register) :
    (draw x y 0).fault? cpu = none := by
  have empty : ¬ ((0 : Int) < ((0 : Fin 16).val : Int) ∧
      (0x1000 : Int) < cpu.i + ((0 : Fin 16).val : Int)) := by
    intro rows
    exact absurd rows.1 (by decide)
  rw [fault?, blockFault?, if_neg empty]

namespace Machine

variable {m : Machine}

theorem result_step_error_iff (wf : m.toCore.WellFormed) (f : Fault) :
    m.step.result = .error f ↔ m.toCore.fault? = some f := by
  constructor
  · intro failed
    cases fault : m.toCore.fault? with
    | some g =>
      rw [step_fault wf fault] at failed
      cases failed
      rfl
    | none =>
      obtain ⟨snapshot, after, done, _⟩ := exists_snapshot wf fault
      rw [done] at failed
      cases failed
  · intro fault
    rw [step_fault wf fault]
    rfl

/-- A failed step rolls back everything. What it leaves in the log are the two reads of its fetch,
or nothing if the word does not lie in memory. -/
theorem step_rollback (reachable : m.Reachable) {f : Fault} (failed : m.step.result = .error f) :
    m.step.state = m.withBus { m.bus with log := m.toCore.fetchLog } := by
  have wf := reachable.wellFormed
  rw [step_fault wf ((result_step_error_iff wf f).mp failed)]
  rfl

/-- A program that starts with a return. -/
theorem step_rollback_underflow :
    ∃ m : Machine, m.Reachable ∧ m.step.result = .error .stackUnderflow ∧
      m.step.state = m.withBus { m.bus with log := m.toCore.fetchLog } := by
  have fits : ([0x00, 0xEE] : Program).length ≤ maxProgramSize := by decide
  have reachable := reachable_ofBus fits 0
  have word := word_ofBus fits (some 0)
  have bytes : Opcode.ofBytes 0x00 0xEE = 0x00EE := by decide
  have decoded : Opcode.decode 0x00EE = .ret := by decide
  have start : ¬ (0xFFE : Int) < programStart := by decide
  have failed := (result_step_error_iff reachable.wellFormed .stackUnderflow).mpr (by
    rw [Core.fault?, word, bytes, decoded]
    exact if_neg start)
  exact ⟨_, reachable, failed, step_rollback reachable failed⟩

/-- A program that takes the index register beyond memory and draws a sprite without rows there. -/
def rowlessProgram : Program :=
  [0x60, 0xFF, 0xAF, 0xFF, 0xF0, 0x1E, 0xD0, 0x10]

/-- The machine at this program. -/
def rowless : Machine :=
  ofBus (.holding (Memory.image rowlessProgram) #[]) (some 0)

theorem reachable_rowless : rowless.Reachable :=
  reachable_ofBus (by decide) 0

theorem rowless_at_draw :
    ((rowless.after .step).after .step).after .step = { rowless with
      cpu := { rowless.cpu.setV 0 255 with i := 0x10FE, pc := 0x206 }, cycles := 3 } := by
  have fits : rowlessProgram.length ≤ maxProgramSize := by decide
  have set : Opcode.decode 0x60FF = .setByte 0 255 := by decide
  have sets : Opcode.ofBytes 0x60 0xFF = 0x60FF := by decide
  have point : Opcode.decode 0xAFFF = .setIndex 0xFFF := by decide
  have points : Opcode.ofBytes 0xAF 0xFF = 0xAFFF := by decide
  have add : Opcode.decode 0xF01E = .addIndex 0 := by decide
  have adds : Opcode.ofBytes 0xF0 0x1E = 0xF01E := by decide
  have wf := reachable_rowless.wellFormed
  have first : rowless.after .step = { rowless with
      cpu := { rowless.cpu.setV 0 255 with pc := 0x202 }, cycles := 1 } :=
    after_step_of_image wf fits rfl (k := 0) rfl (by decide) set sets rfl
  have wf' := after_wellFormed wf .step
  rw [first] at wf'
  have second : after _ .step = { rowless with
      cpu := { rowless.cpu.setV 0 255 with i := 0xFFF, pc := 0x204 }, cycles := 2 } :=
    after_step_of_image wf' fits rfl (k := 2) rfl (by decide) point points rfl
  have wf'' := after_wellFormed wf' .step
  rw [second] at wf''
  rw [first, second]
  exact after_step_of_image wf'' fits rfl (k := 4) rfl (by decide) add adds rfl

/-- A step answers a snapshot or fails with a bounds fault, the one that `Core.fault?` names. A
sprite without rows is drawn at any index. -/
theorem step_snapshot_or_bounds (reachable : m.Reachable) :
    ((∃ snapshot, m.step.result = .ok snapshot) ∨
        ∃ f, m.step.result = .error f ∧ f.isBounds = true) ∧
      (∀ f, m.step.result = .error f ↔ m.toCore.fault? = some f) ∧
      ∀ x y, m.cpu.pc ≤ 0xFFE → m.toCore.word.decode = .draw x y 0 →
        ∃ snapshot, m.step.result = .ok snapshot := by
  have wf := reachable.wellFormed
  have ended (harmless : m.toCore.fault? = none) : ∃ snapshot, m.step.result = .ok snapshot := by
    obtain ⟨snapshot, after, done, _⟩ := exists_snapshot wf harmless
    exact ⟨snapshot, congrArg Outcome.result done⟩
  refine ⟨?_, result_step_error_iff wf, ?_⟩
  · cases fault : m.toCore.fault? with
    | some f =>
      exact .inr ⟨f, (result_step_error_iff wf f).mpr fault, Core.isBounds_of_fault? fault⟩
    | none => exact .inl (ended fault)
  · intro x y inside decoded
    apply ended
    rw [Core.fault?_eq_none_iff, decoded]
    exact ⟨inside, Instruction.fault?_draw_zero m.cpu x y⟩

/-- A sprite with a row would fail there. -/
theorem step_snapshot_or_bounds_rowless :
    ∃ m : Machine, m.Reachable ∧ m.cpu.i = 0x10FE ∧
      (Instruction.draw 0 1 1).fault? m.cpu = some (.memory 0x10FE 0x1000) ∧
      m.toCore.word.decode = .draw 0 1 0 ∧ ∃ snapshot, m.step.result = .ok snapshot := by
  have fits : rowlessProgram.length ≤ maxProgramSize := by decide
  have bytes : Opcode.ofBytes 0xD0 0x10 = 0xD010 := by decide
  have draw : Opcode.decode 0xD010 = .draw 0 1 0 := by decide
  have reachable : Reachable _ := .after .step (.after .step (.after .step reachable_rowless))
  rw [rowless_at_draw] at reachable
  have inside : (0x206 : Int) ≤ 0xFFE := by decide
  have decoded := decode_of_image (m := { rowless with
      cpu := { rowless.cpu.setV 0 255 with i := 0x10FE, pc := 0x206 }, cycles := 3 })
    fits rfl (k := 6) rfl (by decide) draw bytes
  exact ⟨_, reachable, rfl, rfl, decoded,
    (step_snapshot_or_bounds reachable).2.2 0 1 inside decoded⟩

end Machine

end Chip8
