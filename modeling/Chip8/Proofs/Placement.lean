import Chip8.Proofs.Memory
import Chip8.System

/-! Images in memory. On the standard map a program that fits is placed behind the font, with every
other cell and the log as they were; one that is too large changes nothing. So a system that is built
has the font and its program in cells that were zero. -/

namespace Chip8

namespace Memory

/-- The font lies in the first 80 cells and the program in those from 0x200 on. The others hold what
they held before. -/
structure Placed (before : Memory) (program : Program) (placed : Memory) : Prop where
  glyphs (k : Nat) (inside : k < font.length) : placed.byte (fontStart + k) = font[k]
  loaded (k : Nat) (inside : k < program.length) : placed.byte (programStart + k) = program[k]
  kept (a : Nat) (glyph : ¬ (fontStart ≤ a ∧ a < fontStart + font.length))
    (loaded : ¬ (programStart ≤ a ∧ a < programStart + program.length)) :
    placed.byte a = before.byte a

/-- The font ends before the program starts, so that neither is written over. -/
theorem placed_putAll (memory : Memory) {program : Program}
    (fits : program.length ≤ maxProgramSize) :
    memory.Placed program ((memory.putAll fontStart font).putAll programStart program) := by
  have room : maxProgramSize = 0xE00 := rfl
  have start : programStart = 0x200 := rfl
  have first : fontStart = 0 := rfl
  have length : font.length = 80 := rfl
  have low := memory.byte_putAll fontStart font (by omega)
  have high := (memory.putAll fontStart font).byte_putAll programStart program (by omega)
  constructor
  · intro k inside
    have below : ¬ programStart ≤ fontStart + k := by omega
    simp [high, low, below, inside]
  · intro k inside
    simp [high, inside]
  · intro a glyph loaded
    simp only [high, loaded, low, glyph, if_false]

theorem byte_zero (a : Nat) : zero.byte a = 0 := by
  by_cases inside : a < 4096 <;> simp [zero, byte, inside]

def image (program : Program) : Memory :=
  (zero.putAll fontStart font).putAll programStart program

variable {program : Program} (fits : program.length ≤ maxProgramSize) {k : Nat}
include fits

theorem byte_image (inside : k < program.length) :
    (image program).byte (programStart + k) = program[k] :=
  (zero.placed_putAll fits).loaded k inside

theorem byte_image_font (inside : k < font.length) :
    (image program).byte (fontStart + k) = font[k] :=
  (zero.placed_putAll fits).glyphs k inside

end Memory

theorem Bus.install_holding (memory : Memory) (log : Array Access) (program : Program) :
    (holding memory log).install program =
      if program.length ≤ maxProgramSize then
        ⟨.ok (), holding ((memory.putAll fontStart font).putAll programStart program) log⟩
      else ⟨.error (.tooLarge { size := program.length }), holding memory log⟩ := by
  by_cases fits : program.length ≤ maxProgramSize
  · simp [install, loadProgram, fits, loadImage_holding, Outcome.done]
  · simp [install, loadProgram, fits]

namespace Config

theorem machineWith_eq (c : Config) {program : Program}
    (fits : program.length ≤ maxProgramSize) :
    c.machineWith program
      = .ok (.ofBus (.holding (Memory.image program) #[]) c.seed) := by
  rw [machineWith, Bus.loadProgram, if_pos fits, Bus.standard_eq_holding,
    Bus.loadImage_holding _ _ program fits]
  rfl

theorem buildWith_eq {c : Config} {notices : List Notice} (valid : c.validate = .ok notices)
    {program : Program} (fits : program.length ≤ maxProgramSize) :
    (c.buildWith (.ok program)).result
      = .ok (.ofBus (.holding (Memory.image program) #[]) c.seed) := by
  rw [buildWith, valid]
  simp only [c.machineWith_eq fits]

variable {c : Config} {source : Except FileError Program} {m : Machine}

theorem exists_fitting_of_buildWith (built : (c.buildWith source).result = .ok m) :
    ∃ program : Program, program.length ≤ maxProgramSize ∧
      m = .ofBus (.holding (Memory.image program) #[]) c.seed := by
  unfold buildWith at built
  split at built
  · contradiction
  · split at built
    · contradiction
    · rename_i program
      by_cases fits : program.length ≤ maxProgramSize
      · rw [c.machineWith_eq fits] at built
        exact ⟨program, fits, (Except.ok.inj built).symm⟩
      · rw [machineWith, Bus.loadProgram, if_neg fits] at built
        contradiction

theorem result_buildWith (built : (c.buildWith source).result = .ok m) :
    ∃ program : Program, m = .ofBus (.holding (Memory.image program) #[]) c.seed := by
  obtain ⟨program, _, same⟩ := exists_fitting_of_buildWith built
  exact ⟨program, same⟩

end Config

/-- A program is placed if it has at most 3584 bytes, and refused with the cells and the log as they
were if it has more. A system that is built with one that fits, from any configuration that is
accepted, starts with the font and the program in cells of zeros, and with an empty log. -/
theorem Bus.image_placed_or_refused (program : Program) :
    (∀ (memory : Memory) (log : Array Access),
      let installed := (holding memory log).install program
      (installed.result = .ok () ↔ program.length ≤ 3584) ∧
      (installed.result = .ok () →
        ∃ placed, installed.bus = holding placed log ∧ memory.Placed program placed) ∧
      ∀ e, installed.result = .error e →
        e = .tooLarge { size := program.length } ∧ installed.bus = holding memory log) ∧
    ∀ (c : Config) (notices : List Notice), c.validate = .ok notices → program.length ≤ 3584 →
      ∃ placed, (c.buildWith (.ok program)).result
          = .ok (Machine.ofBus (holding placed #[]) c.seed) ∧
        Memory.zero.Placed program placed := by
  have room : maxProgramSize = 3584 := rfl
  rw [← room]
  constructor
  · intro memory log
    rw [install_holding]
    by_cases fits : program.length ≤ maxProgramSize
    · rw [if_pos fits]
      refine ⟨by simp [fits], ?_, ?_⟩
      · intro _
        exact ⟨_, rfl, memory.placed_putAll fits⟩
      · intro e failed
        contradiction
    · rw [if_neg fits]
      refine ⟨by simp [fits], ?_, ?_⟩
      · intro done
        contradiction
      · intro e failed
        exact ⟨(Except.error.inj failed).symm, rfl⟩
  · intro c notices valid fits
    exact ⟨_, Config.buildWith_eq valid fits, Memory.zero.placed_putAll fits⟩

/-- A jump to itself in cells that all held 255, a system that is built with it, and a program that is
one byte too large. -/
theorem Bus.image_placed_or_refused_jump :
    ∃ (memory placed built : Memory) (log : Array Access) (installed refused : Installation),
      memory = Vector.replicate 4096 0xFF ∧ log = #[⟨.write, 0x300, 0xFF⟩] ∧
      installed = (holding memory log).install [0x12, 0x00] ∧
      installed.result = .ok () ∧ installed.bus = holding placed log ∧
      placed.byte 79 = 0x80 ∧ placed.byte 80 = 0xFF ∧ placed.byte 0x201 = 0x00 ∧
      placed.byte 0x202 = 0xFF ∧
      refused = (holding memory log).install (List.replicate 3585 0) ∧
      refused.result = .error (.tooLarge { size := 3585 }) ∧ refused.bus = holding memory log ∧
      (({} : Config).buildWith (.ok [0x12, 0x00])).result
        = .ok (Machine.ofBus (holding built #[]) none) ∧
      built.byte 0x200 = 0x12 ∧ built.byte 0x202 = 0 := by
  let memory : Memory := Vector.replicate 4096 0xFF
  let log : Array Access := #[⟨.write, 0x300, 0xFF⟩]
  have full (a : Nat) (inside : a < 4096) : memory.byte a = 0xFF := by
    simp [memory, Memory.byte, inside]
  obtain ⟨installs, builds⟩ := image_placed_or_refused [0x12, 0x00]
  obtain ⟨fits, places, _⟩ := installs memory log
  have done := fits.mpr (by decide)
  obtain ⟨placed, bus, cells⟩ := places done
  obtain ⟨built, result, zeros⟩ := builds {} [] rfl (by decide)
  have size : (List.replicate 3585 (0 : UInt8)).length = 3585 := List.length_replicate
  obtain ⟨fits', _, refuses⟩ := (image_placed_or_refused (List.replicate 3585 0)).1 memory log
  rw [size] at fits' refuses
  obtain ⟨e, refused⟩ :
      ∃ e, ((holding memory log).install (List.replicate 3585 0)).result = .error e := by
    cases outcome : ((holding memory log).install (List.replicate 3585 0)).result with
    | ok => exact absurd (fits'.mp outcome) (by decide)
    | error e => exact ⟨e, rfl⟩
  obtain ⟨large, same⟩ := refuses e refused
  rw [large] at refused
  refine ⟨memory, placed, built, log, _, _, rfl, rfl, rfl, done, bus, cells.glyphs 79 (by decide),
    ?_, cells.loaded 1 (by decide), ?_, rfl, refused, same, result, zeros.loaded 0 (by decide), ?_⟩
  · exact (cells.kept 80 (by decide) (by decide)).trans (full 80 (by decide))
  · exact (cells.kept 0x202 (by decide) (by decide)).trans (full 0x202 (by decide))
  · exact (zeros.kept 0x202 (by decide) (by decide)).trans (Memory.byte_zero 0x202)

end Chip8
