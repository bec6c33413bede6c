import Chip8.Proofs.Picture

/-! Random bytes. A generator yields a stream of bytes, and a machine stands at a position of it.
Every random instruction takes the byte at the position, whatever its mask is, and goes on by one.
No other event moves the position, and a reset goes back to the start of the stream. -/

namespace Chip8

namespace Generator

/-- The generator behind a number of bytes. -/
def advance (g : Generator) : Nat → Generator
  | 0 => g
  | n + 1 => g.byte.2.advance n

/-- The byte that comes after `n` others. -/
def stream (g : Generator) (n : Nat) : UInt8 :=
  (g.advance n).byte.1

end Generator

/-- A random instruction that was executed, and what its register holds after it. -/
structure Roll where
  register : Register
  mask : Fin 256
  value : Int

def Instruction.rolls? : Instruction → Option (Register × Fin 256)
  | random x mask => some (x, mask)
  | _ => none

namespace Instruction

variable {i : Instruction}

theorem eq_random_of_rolls? {x : Register} {mask : Fin 256} (rolls : i.rolls? = some (x, mask)) :
    i = .random x mask := by
  cases i with
  | random y other =>
    cases rolls
    rfl
  | _ => cases rolls

theorem form_ne_random (still : i.rolls? = none) : i.form ≠ .random := by
  cases i with
  | random x mask => cases still
  | _ => nofun

theorem cpu_of_random {x : Register} {mask : Fin 256} {core after : Core}
    (ended : (random x mask).execute core = .done () after) :
    after.cpu = { core.cpu with random := core.cpu.random.byte.2 }.setV x
      (core.cpu.random.byte.1.toNat &&& mask.val : Nat) :=
  (congrArg (fun o => o.state.cpu) ended).symm

theorem random_of_execute {x : Register} {mask : Fin 256} {core after : Core}
    (ended : (random x mask).execute core = .done () after) :
    after.cpu.random = core.cpu.random.byte.2 ∧
      after.cpu.v.get x = (core.cpu.random.byte.1.toNat &&& mask.val : Nat) := by
  rw [cpu_of_random ended, Cpu.v_setV, if_pos rfl]
  exact ⟨rfl, rfl⟩

end Instruction

namespace Machine

/-- The random instruction that an event executes. -/
def roll? (m : Machine) : Event → Option Roll
  | .step =>
    match m.step.result with
    | .ok snapshot =>
      snapshot.instruction.rolls?.map fun (x, mask) => ⟨x, mask, m.step.state.cpu.v.get x⟩
    | .error _ => none
  | .tick | .setKey _ _ | .takeFrame | .reset _ | .load _ _ | .write _ _ => none

/-- The random instructions that events, one after another, execute. -/
def rolls (m : Machine) : List Event → List Roll
  | [] => []
  | event :: rest => (m.roll? event).toList ++ (m.after event).rolls rest

variable {m start : Machine} {events : List Event}

/-- The event executes no random instruction and keeps the generator, or it takes one byte. -/
theorem rolls_or_keeps (wf : m.toCore.WellFormed) {event : Event}
    (noReset : event.isReset = false) :
    (m.roll? event = none ∧ (m.after event).cpu.random = m.cpu.random) ∨
      ∃ roll, m.roll? event = some roll ∧ (m.after event).cpu.random = m.cpu.random.byte.2 ∧
        roll.value = (m.cpu.random.byte.1.toNat &&& roll.mask.val : Nat) := by
  by_cases step : event = .step
  · subst step
    rcases step_ends_or_faults wf with ⟨snapshot, last, ended, spared⟩ | ⟨f, _, stopped⟩
    · cases rolls : snapshot.instruction.rolls? with
      | none =>
        left
        simp only [roll?, after, ended, Outcome.done, rolls]
        exact ⟨rfl, spared.random (Instruction.form_ne_random rolls)⟩
      | some operands =>
        right
        obtain ⟨x, mask⟩ := operands
        obtain ⟨core, done⟩ := exists_executed wf ended
        have executed := done.executed
        rw [Instruction.eq_random_of_rolls? rolls] at executed
        obtain ⟨random, value⟩ := Instruction.random_of_execute executed
        have cpu : last.cpu = core.cpu := by rw [done.last]
        simp only [roll?, after, ended, Outcome.done, rolls, cpu]
        exact ⟨_, rfl, random, value⟩
    · left
      rw [roll?, after, stopped]
      exact ⟨rfl, rfl⟩
  · left
    have kept := (undisturbed_after (m := m) step noReset).random
    cases event with
    | step => contradiction
    | _ => exact ⟨rfl, kept⟩

/-- From any machine on, the random instructions of a run take the bytes of its stream in order. -/
theorem rolls_in_order (wf : m.toCore.WellFormed)
    (noReset : ∀ event ∈ events, event.isReset = false) :
    (m.afterAll events).cpu.random = m.cpu.random.advance (m.rolls events).length ∧
      ∀ (k : Nat) (roll : Roll), (m.rolls events)[k]? = some roll →
        roll.value = ((m.cpu.random.stream k).toNat &&& roll.mask.val : Nat) := by
  induction events generalizing m with
  | nil => exact ⟨rfl, by simp [rolls]⟩
  | cons event rest ih =>
    obtain ⟨now, others⟩ := List.forall_mem_cons.mp noReset
    obtain ⟨position, bytes⟩ := ih (after_wellFormed wf event) others
    rcases rolls_or_keeps wf now with ⟨none, kept⟩ | ⟨roll, some, taken, value⟩
    · rw [kept] at position bytes
      simp only [rolls, none, Option.toList_none, List.nil_append]
      exact ⟨position, bytes⟩
    · rw [taken] at position bytes
      simp only [rolls, some, Option.toList_some, List.singleton_append]
      refine ⟨position, ?_⟩
      intro k other found
      cases k with
      | zero =>
        cases found
        exact value
      | succ k => exact bytes k other found

theorem Fresh.random_of_seed (fresh : start.Fresh) {seed : Int} (seeded : start.seed = some seed) :
    start.cpu.random = .ofSeed seed := by
  have initial {m : Machine} {random : Generator}
      (own : m.cpu.random = .ofSeed (m.seed.getD 0))
      (seeded : (m.given random).seed = some seed) : (m.given random).cpu.random = .ofSeed seed := by
    cases known : m.seed with
    | none =>
      rw [given, known] at seeded
      cases known.symm.trans seeded
    | some s =>
      rw [given_of_seed known] at seeded ⊢
      rw [own, seeded]
      rfl
  cases fresh with
  | built random accepted =>
    obtain ⟨program, rfl⟩ := Config.result_buildWith accepted
    exact initial rfl seeded
  | reset random reachable => exact initial rfl seeded

/-- Each random instruction takes exactly one byte of the stream that starts with the machine's
seed, and nothing else takes any. Since the machine was built or reset, the random instruction that
comes after `k` others sets its register to the byte that comes after `k` others, as far as its mask
keeps it, and the generator has advanced by the number of them. -/
theorem rolls_take_stream (fresh : start.Fresh)
    (noReset : ∀ event ∈ events, event.isReset = false) :
    (∀ seed, start.seed = some seed → start.cpu.random = .ofSeed seed) ∧
      (start.afterAll events).cpu.random
        = start.cpu.random.advance (start.rolls events).length ∧
      ∀ (k : Nat) (roll : Roll), (start.rolls events)[k]? = some roll →
        roll.value = ((start.cpu.random.stream k).toNat &&& roll.mask.val : Nat) :=
  ⟨fun _ seeded => fresh.random_of_seed seeded, rolls_in_order fresh.reachable.wellFormed noReset⟩

/-- A machine with seed 7 that executes a random instruction with an empty mask and then one with a
full mask. The second one gets the second byte. -/
theorem rolls_take_stream_masked :
    ∃ (start : Machine) (events : List Event) (first second : Roll), start.Fresh ∧
      (∀ event ∈ events, event.isReset = false) ∧ start.rolls events = [first, second] ∧
      first.mask = 0 ∧ second.mask = 0xFF ∧ start.cpu.random = .ofSeed 7 ∧
      (start.afterAll events).cpu.random = (Generator.ofSeed 7).advance 2 ∧
      second.value = (((Generator.ofSeed 7).stream 1).toNat &&& 0xFF : Nat) := by
  have fits : ([0xC0, 0x00, 0xC1, 0xFF] : Program).length ≤ maxProgramSize := by decide
  have blind : Opcode.decode 0xC000 = .random 0 0 := by decide
  have blinds : Opcode.ofBytes 0xC0 0x00 = 0xC000 := by decide
  have full : Opcode.decode 0xC1FF = .random 1 0xFF := by decide
  have fulls : Opcode.ofBytes 0xC1 0xFF = 0xC1FF := by decide
  -- The generator stays a variable, so that none of its bytes is computed.
  obtain ⟨start, fresh, seeded, bus, random, initial⟩ : ∃ start : Machine, start.Fresh ∧
      start.seed = some 7 ∧
      start.bus = .holding (Memory.image [0xC0, 0x00, 0xC1, 0xFF]) #[] ∧
      ∃ random, start.cpu = .initial random :=
    ⟨_, .built (.ofSeed 7) (built_ofBus fits 7), rfl, rfl, _, rfl⟩
  have wf := fresh.reachable.wellFormed
  obtain ⟨one, next, core, ended, isBlind, done⟩ :=
    exists_executed_of_image wf fits bus (k := 0) (by rw [initial]; rfl) (by decide) blind blinds
      rfl
  have executed := done.executed
  rw [isBlind] at executed
  have kept : core.bus = start.toCore.behind.bus :=
    (Core.spares_of_execute executed).bus nofun nofun nofun nofun
  have nextBus : next.bus = .holding (Memory.image [0xC0, 0x00, 0xC1, 0xFF]) #[] := by
    rw [done.last, kept]
    exact congrArg Bus.clearLog bus
  have nextPc : next.cpu.pc = ((programStart + 2 : Nat) : Int) := by
    rw [done.last, Instruction.cpu_of_random executed]
    exact (pc_behind wf done.inside).trans (by rw [initial]; rfl)
  obtain ⟨two, last, core', ended', isFull, done'⟩ :=
    exists_executed_of_image (wellFormed_of_step wf ended) fits nextBus (k := 2) nextPc (by decide)
      full fulls rfl
  have rolls : start.rolls [.step, .step]
      = [⟨0, 0, next.cpu.v.get 0⟩, ⟨1, 0xFF, last.cpu.v.get 1⟩] := by
    simp [Machine.rolls, roll?, after, ended, ended', Outcome.done, isBlind, isFull,
      Instruction.rolls?]
  have noReset : ∀ event ∈ [Event.step, .step], event.isReset = false := by simp [Event.isReset]
  obtain ⟨seed, position, bytes⟩ := rolls_take_stream fresh noReset
  rw [seed 7 seeded, rolls] at position bytes
  exact ⟨start, _, _, _, fresh, noReset, rolls, rfl, rfl, seed 7 seeded, position,
    bytes 1 _ rfl⟩

end Machine

end Chip8
