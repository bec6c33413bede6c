import Chip8.Proofs.Execution

/-! What instructions leave alone. Of the processor most instructions change nothing but the
registers, the index and the program counter, and most never touch the bus. The frame of a form
names, field by field, the forms that reach further. -/

namespace Chip8

/-- At most the registers, the index and the program counter differ. -/
structure Cpu.Beside (before after : Cpu) : Prop where
  sp : after.sp = before.sp
  stack : after.stack = before.stack
  dt : after.dt = before.dt
  st : after.st = before.st
  keys : after.keys = before.keys
  display : after.display = before.display
  redraw : after.redraw = before.redraw
  random : after.random = before.random

/-- What an instruction of a form leaves of a processor as it was. -/
structure Cpu.Spares (form : Form) (before after : Cpu) : Prop where
  sp : form ≠ .call → form ≠ .ret → after.sp = before.sp
  stack : form ≠ .call → after.stack = before.stack
  dt : form ≠ .setDelay → after.dt = before.dt
  st : form ≠ .setSound → after.st = before.st
  keys : after.keys = before.keys
  display : form ≠ .cls → form ≠ .draw → after.display = before.display
  redraw : form ≠ .cls → form ≠ .draw → after.redraw = before.redraw
  random : form ≠ .random → after.random = before.random

structure Core.Spares (form : Form) (before after : Core) : Prop where
  cpu : before.cpu.Spares form after.cpu
  bus : form ≠ .draw → form ≠ .decimal → form ≠ .store → form ≠ .load → after.bus = before.bus

namespace Cpu

namespace Beside

theorem refl (cpu : Cpu) : cpu.Beside cpu := by
  constructor <;> rfl

theorem jump (cpu : Cpu) (target : Int) : cpu.Beside (cpu.jump target) := by
  constructor <;> rfl

theorem withV (cpu : Cpu) (v : Vector Int 16) : cpu.Beside { cpu with v } := by
  constructor <;> rfl

theorem withI (cpu : Cpu) (i : Int) : cpu.Beside { cpu with i } := by
  constructor <;> rfl

theorem setV (cpu : Cpu) (x : Register) (value : Int) : cpu.Beside (cpu.setV x value) :=
  withV cpu _

theorem setWithFlag (cpu : Cpu) (x : Register) (result : Int) (flag : Bool) :
    cpu.Beside (cpu.setWithFlag x result flag) :=
  withV cpu _

theorem setRegisters (cpu : Cpu) (bytes : List UInt8) : cpu.Beside (cpu.setRegisters bytes) :=
  withV cpu _

theorem skipIf (cpu : Cpu) (condition : Bool) : cpu.Beside (cpu.skipIf condition) := by
  cases condition with
  | false => exact refl cpu
  | true => exact jump cpu _

theorem waitForKey (cpu : Cpu) (x : Register) : cpu.Beside (cpu.waitForKey x) := by
  unfold Cpu.waitForKey
  split
  · exact setV cpu x _
  · exact jump cpu _

end Beside

theorem Spares.of_beside {before after : Cpu} (form : Form) (beside : before.Beside after) :
    before.Spares form after where
  sp _ _ := beside.sp
  stack _ := beside.stack
  dt _ := beside.dt
  st _ := beside.st
  keys := beside.keys
  display _ _ := beside.display
  redraw _ _ := beside.redraw
  random _ := beside.random

theorem spares_drawSprite (cpu : Cpu) (x y : Register) (sprite : List UInt8) :
    cpu.Spares .draw (cpu.drawSprite x y sprite) := by
  constructor <;> intros <;> first | rfl | contradiction

theorem spares_push {cpu pushed : Cpu} {value : Int} (room : cpu.push value = .ok pushed)
    (target : Int) : cpu.Spares .call { pushed with pc := target } := by
  unfold push at room
  split at room
  · contradiction
  · split at room
    · contradiction
    · cases room
      constructor <;> intros <;> first | rfl | contradiction

theorem spares_pop {cpu popped : Cpu} {value : Int} (filled : cpu.pop = .done value popped)
    (target : Int) : cpu.Spares .ret (popped.jump target) := by
  unfold pop at filled
  split at filled
  · cases congrArg Outcome.result filled
  · dsimp only at filled
    split at filled
    · cases congrArg Outcome.result filled
    · cases filled
      constructor <;> intros <;> first | rfl | contradiction

end Cpu

namespace Core

variable {core after : Core}

theorem spares_become {form : Form} {cpu : Cpu} (spared : core.cpu.Spares form cpu)
    (ended : core.become cpu = .done () after) : core.Spares form after := by
  cases congrArg Outcome.state ended
  exact ⟨spared, fun _ _ _ _ => rfl⟩

theorem beside_become {form : Form} {cpu : Cpu} (beside : core.cpu.Beside cpu)
    (ended : core.become cpu = .done () after) : core.Spares form after :=
  spares_become (.of_beside form beside) ended

theorem cpu_of_storeAtIndex {values : List Int}
    (ended : core.storeAtIndex values = .done () after) : after.cpu = core.cpu := by
  obtain ⟨bus, _, rfl⟩ := Outcome.exists_of_onState ended
  rfl

theorem cpu_of_loadAtIndex {count : Nat} {use : List UInt8 → Cpu}
    (ended : core.loadAtIndex count use = .done () after) : ∃ bytes, after.cpu = use bytes := by
  obtain ⟨bytes, read, _, become⟩ := Outcome.exists_of_andThen ended
  exact ⟨bytes, congrArg (fun o => o.state.cpu) become.symm⟩

/-- An instruction that ended has spared what its form spares. -/
theorem spares_of_execute {i : Instruction} (ended : i.execute core = .done () after) :
    core.Spares i.form after := by
  cases i with
  | sys target | unknown opcode =>
    cases ended
    exact ⟨.of_beside _ (.refl _), fun _ _ _ _ => rfl⟩
  | cls | setDelay x | setSound x | random x mask =>
    refine spares_become ?_ ended
    constructor <;> intros <;> first | rfl | contradiction
  | ret =>
    obtain ⟨cpu, returned, rfl⟩ := Outcome.exists_of_onState ended
    obtain ⟨target, lowered, popped, jumped⟩ := Outcome.exists_of_andThen returned
    cases jumped
    exact ⟨Cpu.spares_pop popped _, fun _ _ _ _ => rfl⟩
  | call target =>
    simp only [Instruction.execute] at ended
    split at ended
    · cases congrArg Outcome.result ended
    · rename_i pushed room
      exact spares_become (Cpu.spares_push room _) ended
  | jump target => exact beside_become (by constructor <;> rfl) ended
  | setIndex target | addIndex x | glyph x => exact beside_become (.withI _ _) ended
  | jumpOffset target => exact beside_become (.jump _ _) ended
  | skipEqualByte x byte | skipUnequalByte x byte | skipEqual x y | skipUnequal x y =>
    exact beside_become (.skipIf _ _) ended
  | skipPressed x | skipReleased x =>
    simp only [Instruction.execute] at ended
    split at ended
    · cases congrArg Outcome.result ended
    · exact beside_become (.skipIf _ _) ended
  | setByte x byte | addByte x byte | copy x y | or x y | and x y | xor x y | readDelay x =>
    exact beside_become (.setV _ _ _) ended
  | add x y | sub x y | subReverse x y | shiftRight x | shiftLeft x =>
    exact beside_become (.setWithFlag _ _ _ _) ended
  | waitKey x => exact beside_become (.waitForKey _ _) ended
  | draw x y height =>
    obtain ⟨sprite, drawn⟩ := cpu_of_loadAtIndex ended
    refine ⟨?_, fun other => absurd rfl other⟩
    rw [drawn]
    exact Cpu.spares_drawSprite _ x y sprite
  | load x =>
    obtain ⟨bytes, loaded⟩ := cpu_of_loadAtIndex ended
    refine ⟨?_, fun _ _ _ other => absurd rfl other⟩
    rw [loaded]
    exact .of_beside _ (.setRegisters _ bytes)
  | decimal x =>
    refine ⟨?_, fun _ other => absurd rfl other⟩
    rw [cpu_of_storeAtIndex ended]
    exact .of_beside _ (.refl _)
  | store x =>
    refine ⟨?_, fun _ _ other => absurd rfl other⟩
    rw [cpu_of_storeAtIndex ended]
    exact .of_beside _ (.refl _)

end Core

end Chip8
