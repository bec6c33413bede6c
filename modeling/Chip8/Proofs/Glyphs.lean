import Chip8.Proofs.Inputs
import Chip8.Proofs.RegisterDump

/-! The glyphs of the digits. What a run leaves of a cell of the memory is what its logs say: a cell
that no step has written is as it was. So FX29 points at the glyph of its digit as long as no step
has written below the end of the font, and wherever it points, a sprite, three digits or all
registers lie in memory from there on. -/

namespace Chip8

/-- The word FX29. -/
def Opcode.pointing (x : Register) : Opcode :=
  ((0xF029 + 0x100 * x.val : Nat) : Int)

theorem Opcode.decode_pointing : ∀ x : Register, (pointing x).decode = .glyph x := by
  decide +kernel

/-- Whether instructions of a form work on the cells from the index on. -/
def Form.usesIndex : Form → Bool
  | draw | decimal | store | load => true
  | _ => false

theorem Access.replay_of_unwritten {a : Int} (cells : Cells) {log : List Access}
    (unwritten : ∀ access ∈ log, access.kind = .write → access.address ≠ a) :
    replay cells log a = cells a := by
  induction log generalizing cells with
  | nil => rfl
  | cons access rest ih =>
    obtain ⟨now, later⟩ := List.forall_mem_cons.mp unwritten
    have tail := ih (access.applyTo cells) later
    have head : access.applyTo cells a = cells a := by
      unfold applyTo
      cases kind : access.kind with
      | read => rfl
      | write => exact if_neg (now kind).symm
    exact tail.trans head

theorem Core.kind_of_mem_fetchLog {core : Core} {access : Access}
    (member : access ∈ core.fetchLog.toList) : access.kind = .read := by
  unfold fetchLog at member
  split at member
  · obtain rfl | rfl : _ = _ ∨ _ = _ := by simpa using member
    · rfl
    · rfl
  · simp at member

theorem Bus.peekBytes_holding (memory : Memory) (log : Array Access) {a count : Nat}
    (fits : a + count ≤ 4096) :
    (holding memory log).peekBytes a count = .ok (memory.slice a count) := by
  induction count generalizing a with
  | zero => rfl
  | succ count ih =>
    have next : ((a : Int) + 1) = ((a + 1 : Nat) : Int) := by omega
    rw [peekBytes, peek_holding memory log (by omega), next]
    simp only [ih (a := a + 1) (by omega)]
    rfl

namespace Instruction

variable {core : Core} {i : Instruction}

/-- From a low index every block ends in memory. -/
theorem fault?_of_low_index {cpu : Cpu} (uses : i.form.usesIndex = true) (low : cpu.i ≤ 1275) :
    i.fault? cpu = none := by
  cases i with
  | draw x y height | decimal x | store x | load x =>
    apply if_neg
    omega
  | _ => contradiction

/-- An instruction that works on memory does not ask where it was fetched. -/
theorem ends_of_usesIndex (wf : core.WellFormed) (uses : i.form.usesIndex = true)
    (harmless : i.fault? core.cpu = none) : Core.Ends (i.execute core) := by
  cases i with
  | draw x y height =>
    exact Core.loadAtIndex_ends wf (fun bytes => wf.cpu.drawSprite x y bytes) harmless
  | decimal x => exact Core.storeAtIndex_ends wf (Core.isByte_decimalDigits (wf.cpu.v x)) harmless
  | store x =>
    apply Core.storeAtIndex_ends wf (Core.isByte_registersUpTo wf.cpu.v x)
    rw [Core.length_registersUpTo]
    exact harmless
  | load x => exact Core.loadAtIndex_ends wf (fun bytes => wf.cpu.setRegisters bytes) harmless
  | _ => contradiction

end Instruction

namespace Machine

variable {m last : Machine} {a : Int}

/-- What a step logs: in its snapshot, or in the bus if it fails. -/
def stepLog (m : Machine) : List Access :=
  match m.step with
  | ⟨.ok snapshot, _⟩ => snapshot.log
  | ⟨.error _, left⟩ => left.bus.log.toList

/-- A machine executes a word, by itself or as its next step. -/
inductive Executes (m : Machine) (op : Opcode) (last : Machine) : Prop
  | performed : m.perform op = .done () last → Executes m op last
  | stepped {snapshot : Snapshot} :
      m.step = .done snapshot last → snapshot.opcode = op → Executes m op last

/-- Whatever works on the cells from the index on ends, by itself or as the next step, if it can be
fetched. -/
structure Reaches (m : Machine) : Prop where
  performs : ∀ op : Opcode, op.decode.form.usesIndex = true →
    ∃ last, m.perform op = .done () last
  steps : m.cpu.pc ≤ 0xFFE → m.toCore.word.decode.form.usesIndex = true →
    ∃ snapshot last, m.step = .done snapshot last

theorem stepLog_of_done {snapshot : Snapshot} (ended : m.step = .done snapshot last) :
    m.stepLog = snapshot.log := by
  unfold stepLog
  rw [ended]
  rfl

/-- A cell that a step does not write is as it was before the step. -/
theorem cells_after_step (wf : m.toCore.WellFormed)
    (unwritten : ∀ access ∈ m.stepLog, access.kind = .write → access.address ≠ a) :
    (m.after .step).bus.cells a = m.bus.cells a := by
  unfold after
  cases fault : m.toCore.fault? with
  | some f =>
    rw [step_fault wf fault]
    rfl
  | none =>
    obtain ⟨snapshot, next, ended, _⟩ := exists_snapshot wf fault
    rw [stepLog_of_done ended] at unwritten
    rw [ended]
    have replayed := (log_of_step wf ended).2.replayed
    change next.bus.cells a = m.bus.cells a
    rw [← replayed]
    exact Access.replay_of_unwritten m.bus.cells unwritten

theorem cells_after_signal {event : Event} (signal : event.isSignal = true) :
    (m.after event).bus.cells a = m.bus.cells a := by
  rw [after_signal signal]

/-- A cell that no step of a run writes is as it was before the run. -/
theorem cells_afterAll (wf : m.toCore.WellFormed) {events : List Event}
    (routine : ∀ event ∈ events, event.isRoutine = true)
    (unwritten : ∀ before ∈ m.stepping events, ∀ access ∈ before.stepLog,
      access.kind = .write → access.address ≠ a) :
    (m.afterAll events).bus.cells a = m.bus.cells a := by
  induction events generalizing m with
  | nil => rfl
  | cons event rest ih =>
    obtain ⟨now, later⟩ := List.forall_mem_cons.mp routine
    have kept := after_wellFormed wf event
    rcases cases_isRoutine now with rfl | signal
    · rw [stepping_step] at unwritten
      obtain ⟨first, others⟩ := List.forall_mem_cons.mp unwritten
      exact (ih kept later others).trans (cells_after_step wf first)
    · rw [stepping_signal signal] at unwritten
      exact (ih kept later unwritten).trans (cells_after_signal signal)

/-- What FX29 makes of a machine: the index points at a glyph, and no cell has changed. -/
structure Pointed (m last : Machine) (x : Register) : Prop where
  index : last.cpu.i = 5 * m.cpu.v.get x
  memory : last.bus.cells = m.bus.cells
  wellFormed : last.toCore.WellFormed

/-- Five times a byte is far below the words' end. -/
theorem execute_pointing {core : Core} (wf : core.cpu.WellFormed) (x : Register) :
    (Opcode.pointing x).decode.execute core
      = core.become { core.cpu with i := 5 * core.cpu.v.get x } := by
  obtain ⟨low, high⟩ := wf.v x
  have height : (glyphHeight : Int) = 5 := rfl
  have start : core.cpu.v.get x * 5 % 0x10000 = 5 * core.cpu.v.get x := by omega
  rw [Opcode.decode_pointing, Instruction.execute, height, start]

theorem withI_wellFormed (wf : m.cpu.WellFormed) (x : Register) :
    { m.cpu with i := 5 * m.cpu.v.get x }.WellFormed := by
  obtain ⟨low, high⟩ := wf.v x
  exact wf.withI (by omega)

theorem exists_pointed (wf : m.toCore.WellFormed) (x : Register) :
    ∃ last, m.perform (.pointing x) = .done () last ∧ m.Pointed last x := by
  refine ⟨m.withCpu { m.cpu with i := 5 * m.cpu.v.get x }, ?_, ?_⟩
  · rw [perform, execute_pointing wf.cpu]
    rfl
  · exact ⟨rfl, rfl, withI_wellFormed wf.cpu x, wf.bus⟩

theorem pointed_of_executes (wf : m.toCore.WellFormed) {x : Register}
    (executed : m.Executes (.pointing x) last) : m.Pointed last x := by
  cases executed with
  | performed done =>
    obtain ⟨other, same, pointed⟩ := exists_pointed wf x
    rw [done] at same
    cases same
    exact pointed
  | stepped ended word =>
    obtain ⟨core, done⟩ := exists_executed wf ended
    have behind := (Core.behind_wellFormed wf done.inside).1
    have executed := done.executed
    rw [Snapshot.instruction, word, execute_pointing behind.cpu] at executed
    cases executed
    refine ⟨?_, ?_, wellFormed_of_step wf ended⟩
    · rw [done.last]
      rfl
    · rw [done.last]
      rfl

namespace Pointed

variable {x : Register} (pointed : m.Pointed last x)
include pointed

theorem low (wf : m.toCore.WellFormed) : last.cpu.i ≤ 1275 := by
  obtain ⟨low, high⟩ := wf.cpu.v x
  rw [pointed.index]
  omega

theorem reaches (wf : m.toCore.WellFormed) : last.Reaches := by
  have low := pointed.low wf
  constructor
  · intro op uses
    obtain ⟨core, ended, _⟩ : Core.Ends (op.decode.execute last.toCore) :=
      Instruction.ends_of_usesIndex pointed.wellFormed uses
        (Instruction.fault?_of_low_index uses low)
    exact ⟨last.withCore core, by rw [perform, ended]; rfl⟩
  · intro inside uses
    have harmless := Core.fault?_eq_none_iff.mpr
      ⟨inside, Instruction.fault?_of_low_index uses low⟩
    obtain ⟨snapshot, next, ended, _⟩ := exists_snapshot pointed.wellFormed harmless
    exact ⟨snapshot, next, ended⟩

/-- The glyph of a digit lies where the font was placed. -/
theorem glyph (placed : ∀ (k : Nat) (inside : k < font.length), m.bus.cells k = font[k].toNat)
    {d : Fin 16} (digit : m.cpu.v.get x = d.val) :
    last.bus.peekBytes last.cpu.i 5 = .ok ((font.drop (5 * d.val)).take 5) := by
  obtain ⟨memory, log, bus⟩ := pointed.wellFormed.bus
  have length : font.length = 80 := rfl
  have start : last.cpu.i = (5 * d.val : Nat) := by
    rw [pointed.index, digit]
    omega
  rw [bus, start, Bus.peekBytes_holding memory log (by omega)]
  congr 1
  apply List.ext_getElem
  · simp only [Memory.length_slice, List.length_take, List.length_drop]
    omega
  · intro k inside within
    rw [Memory.length_slice] at inside
    have cell : (memory.byte (5 * d.val + k)).toNat = font[5 * d.val + k].toNat := by
      have same := placed (5 * d.val + k) (by omega)
      rw [← pointed.memory, bus, Bus.cells_holding, Memory.cells_natCast] at same
      exact Int.natCast_inj.mp same
    rw [Memory.getElem_slice, List.getElem_take, List.getElem_drop]
    exact UInt8.toNat_inj.mp cell

end Pointed

/-- A run of steps and signals has led to the machine from a system as it was built, and no step of
it has written below the end of the font. -/
def RanBesideFont (m : Machine) : Prop :=
  ∃ (c : Config) (source : Except FileError Program) (built : Machine) (random : Generator)
    (events : List Event),
    (c.buildWith source).result = .ok built ∧
    (∀ event ∈ events, event.isRoutine = true) ∧
    (∀ before ∈ (built.given random).stepping events, ∀ access ∈ before.stepLog,
      access.kind = .write → 80 ≤ access.address) ∧
    m = (built.given random).afterAll events

theorem RanBesideFont.placed (ran : m.RanBesideFont) (k : Nat) (inside : k < font.length) :
    m.bus.cells k = font[k].toNat := by
  obtain ⟨c, source, built, random, events, accepted, routine, beside, rfl⟩ := ran
  have length : font.length = 80 := rfl
  have wf := (Reachable.built random accepted).wellFormed
  have kept : ((built.given random).afterAll events).bus.cells k
      = (built.given random).bus.cells k := by
    apply cells_afterAll wf routine
    intro before member access logged written
    have above := beside before member access logged written
    omega
  obtain ⟨program, fits, rfl⟩ := Config.exists_fitting_of_buildWith accepted
  rw [kept, bus_given]
  have start : fontStart + k = k := Nat.zero_add k
  have image := Memory.byte_image_font fits inside
  rw [start] at image
  change (Bus.holding (Memory.image program) #[]).cells k = font[k].toNat
  rw [Bus.cells_holding, Memory.cells_natCast, image]

/-- FX29 can always be executed. It leaves the index at five times the register, where everything
that works on memory from the index on ends. If the register holds a digit and the run so far has
not written below the end of the font, the five cells there are the rows of its glyph. -/
theorem index_finds_glyph (reachable : m.Reachable) (x : Register) :
    (∃ last, m.perform (.pointing x) = .done () last) ∧
    (m.cpu.pc ≤ 0xFFE → m.toCore.word = .pointing x →
      ∃ snapshot last, m.step = .done snapshot last ∧ snapshot.opcode = .pointing x) ∧
    ∀ last, m.Executes (.pointing x) last →
      last.cpu.i = 5 * m.cpu.v.get x ∧ last.cpu.i ≤ 1275 ∧ last.Reaches ∧
      (m.RanBesideFont → ∀ d : Fin 16, m.cpu.v.get x = d.val →
        last.bus.peekBytes last.cpu.i 5 = .ok ((font.drop (5 * d.val)).take 5)) := by
  have wf := reachable.wellFormed
  refine ⟨?_, ?_, ?_⟩
  · obtain ⟨last, done, _⟩ := exists_pointed wf x
    exact ⟨last, done⟩
  · intro inside word
    have harmless : m.toCore.fault? = none := by
      rw [Core.fault?_eq_none_iff, word, Opcode.decode_pointing]
      exact ⟨inside, rfl⟩
    obtain ⟨last, _, _, ended⟩ := step_done wf harmless
    exact ⟨_, _, ended, word⟩
  · intro last executed
    have pointed := pointed_of_executes wf executed
    exact ⟨pointed.index, pointed.low wf, pointed.reaches wf,
      fun ran _ digit => pointed.glyph ran.placed digit⟩

/-- A program that stores 10 in the first cell behind the font. FX29 points at the glyph of the digit
A then. -/
def storingBehindFont : Program :=
  [0x60, 0x0A, 0xA0, 0x50, 0xF0, 0x55, 0xF0, 0x29]

/-- The word behind a store that does not reach it is that of the image. -/
theorem word_behind_store (bus : m.bus = .holding ((Memory.image storingBehindFont).putAll 80 [10])
    #[]) (counter : m.cpu.pc = 0x206) : m.toCore.word = .pointing 0 := by
  have fits : storingBehindFont.length ≤ maxProgramSize := by decide
  have cell {a : Nat} (inside : a < 4096) (above : 81 ≤ a) :
      m.bus.byteAt a = (Memory.image storingBehindFont).byte a := by
    rw [bus, Bus.byteAt_holding _ _ inside, Memory.byte_putAll _ _ _ (by decide)]
    apply if_neg
    simp only [List.length_singleton]
    omega
  have high : m.bus.byteAt 0x206 = 0xF0 :=
    (cell (a := 0x206) (by decide) (by decide)).trans
      (Memory.byte_image fits (k := 6) (by decide))
  have low : m.bus.byteAt (0x206 + 1) = 0x29 :=
    (cell (a := 0x207) (by decide) (by decide)).trans
      (Memory.byte_image fits (k := 7) (by decide))
  rw [Core.word, counter, high, low]
  decide

/-- The machine at this program. -/
def storing : Machine :=
  ofBus (.holding (Memory.image storingBehindFont) #[]) (some 0)

/-- Its first three steps behind a tick, with the accesses of each. -/
structure Stored (first second m : Machine) : Prop where
  set : (storing.after .tick).after .step = first
  pointed : first.after .step = second
  stored : second.after .step = m
  setLog : (storing.after .tick).stepLog = (storing.after .tick).toCore.fetchLog.toList
  pointedLog : first.stepLog = first.toCore.fetchLog.toList
  storedLog : second.stepLog = second.toCore.fetchLog.toList ++ [⟨.write, 80, 10⟩]
  bus : m.bus = .holding ((Memory.image storingBehindFont).putAll 80 [10]) #[]
  counter : m.cpu.pc = 0x206
  digit : m.cpu.v.get 0 = 10

theorem reachable_storing : storing.Reachable :=
  reachable_ofBus (by decide) 0

theorem exists_stored : ∃ first second m, Stored first second m := by
  have fits : storingBehindFont.length ≤ maxProgramSize := by decide
  have wf : (storing.after .tick).toCore.WellFormed :=
    after_wellFormed reachable_storing.wellFormed .tick
  have set : Opcode.decode 0x600A = .setByte 0 10 := by decide
  have sets : Opcode.ofBytes 0x60 0x0A = 0x600A := by decide
  have point : Opcode.decode 0xA050 = .setIndex 0x50 := by decide
  have points : Opcode.ofBytes 0xA0 0x50 = 0xA050 := by decide
  have store : Opcode.decode 0xF055 = .store 0 := by decide
  have stores : Opcode.ofBytes 0xF0 0x55 = 0xF055 := by decide
  obtain ⟨_, first, ended, _, done⟩ :=
    executed_of_image wf fits rfl (k := 0) rfl (by decide) set sets rfl
  have wf' := wellFormed_of_step wf ended
  obtain ⟨_, second, ended', _, done'⟩ :=
    executed_of_image wf' fits (by rw [done.last]; rfl) (k := 2)
      (by rw [done.last]; decide) (by decide) point points rfl
  have wf'' := wellFormed_of_step wf' ended'
  obtain ⟨three, m, core'', ended'', isStore, done''⟩ :=
    exists_executed_of_image wf'' fits (by rw [done'.last, done.last]; rfl) (k := 4)
      (by rw [done'.last, done.last]; decide) (by decide) store stores
      (by rw [done'.last, done.last]; decide)
  have executed := done''.executed
  have index : second.toCore.behind.cpu.i = (80 : Nat) := by
    rw [done'.last, done.last]
    rfl
  have values : second.toCore.behind.cpu.registersUpTo 0 = byteValues [10] := by
    rw [done'.last, done.last]
    rfl
  have behind : second.toCore.behind = Core.holding second.toCore.behind.cpu
      (Memory.image storingBehindFont) second.toCore.fetchLog := by
    rw [done'.last, done.last]
    rfl
  rw [isStore, ← Opcode.decode_dumping, behind,
    Core.execute_dumping _ _ index (by decide) values] at executed
  cases executed
  exact ⟨first, second, m, {
    set := congrArg Outcome.state ended
    pointed := congrArg Outcome.state ended'
    stored := congrArg Outcome.state ended''
    setLog := by
      rw [stepLog_of_done ended, Snapshot.log, done.accesses]
      rfl
    pointedLog := by
      rw [stepLog_of_done ended', Snapshot.log, done'.accesses]
      rfl
    storedLog := by
      rw [stepLog_of_done ended'', Snapshot.log, done''.accesses]
      exact Array.toList_append
    bus := by
      rw [done''.last]
      rfl
    counter := by
      rw [done''.last, done'.last, done.last]
      decide
    digit := by
      rw [done''.last, done'.last, done.last]
      rfl }⟩

namespace Stored

variable {first second : Machine} (run : Stored first second m)
include run

theorem ran : storing.afterAll [.tick, .step, .step, .step] = m := by
  simp only [afterAll, List.foldl_cons, List.foldl_nil, run.set, run.pointed, run.stored]

theorem stepping :
    storing.stepping [.tick, .step, .step, .step] = [storing.after .tick, first, second] := by
  rw [stepping_signal rfl, stepping_step, run.set, stepping_step, run.pointed,
    stepping_step]
  rfl

theorem ranBesideFont : m.RanBesideFont := by
  refine ⟨{ seed := some 0 }, .ok storingBehindFont, storing, .ofSeed 0, [.tick, .step, .step, .step],
    built_ofBus (by decide) 0, by simp [Event.isRoutine, Event.isSignal], ?_, run.ran.symm⟩
  have reads {core : Core} {access : Access} (member : access ∈ core.fetchLog.toList)
      (written : access.kind = .write) : 80 ≤ access.address := by
    rw [Core.kind_of_mem_fetchLog member] at written
    cases written
  rw [given_of_seed rfl, run.stepping]
  simp only [List.forall_mem_cons, run.setLog, run.pointedLog, run.storedLog,
    List.forall_mem_append]
  exact ⟨fun _ => reads, fun _ => reads, ⟨fun _ => reads, by simp⟩, by simp⟩

theorem peek : m.bus.peek 80 = .ok 10 := by
  have cell := Memory.byte_putAll (Memory.image storingBehindFont) 80 [10] (by decide) 80
  rw [if_pos (by decide)] at cell
  have found := Bus.peek_holding ((Memory.image storingBehindFont).putAll 80 [10]) #[] (a := 80)
    (by decide)
  rw [cell] at found
  rw [run.bus]
  exact found

end Stored

/-- The program runs with a tick before its first step. -/
theorem index_finds_glyph_beside_store :
    ∃ (start m last : Machine) (snapshot : Snapshot), start.Reachable ∧
      m = start.afterAll [.tick, .step, .step, .step] ∧ m.RanBesideFont ∧
      m.bus.peek 80 = .ok 10 ∧ m.step = .done snapshot last ∧ snapshot.opcode = .pointing 0 ∧
      last.cpu.i = 50 ∧ last.Reaches ∧
      last.bus.peekBytes last.cpu.i 5 = .ok [0xF0, 0x90, 0xF0, 0x90, 0x90] := by
  obtain ⟨first, second, m, run⟩ := exists_stored
  obtain ⟨_, steps, found⟩ :=
    index_finds_glyph (run.ran ▸ reachable_storing.afterAll _) 0
  obtain ⟨snapshot, last, pointed, word⟩ := steps (by rw [run.counter]; decide)
    (word_behind_store run.bus run.counter)
  obtain ⟨index, _, reaches, glyph⟩ := found last (.stepped pointed word)
  refine ⟨_, m, last, snapshot, reachable_storing, run.ran.symm, run.ranBesideFont,
    run.peek, pointed, word, ?_, reaches, glyph run.ranBesideFont 10 run.digit⟩
  rw [index, run.digit]
  rfl

end Machine

end Chip8
