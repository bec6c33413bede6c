import Chip8.Proofs.Halting

/-! Waiting for a key. At the waiting instruction a machine takes step after step without moving on,
whatever signals come in between; each step reads the word again and counts a cycle. The first step
that finds keys held takes the least of them and goes on. Neither the order in which keys were
pressed nor a key that was released before makes a difference. -/

namespace Chip8

def Event.takesFrame : Event → Bool
  | takeFrame => true
  | _ => false

namespace Cpu

def NoneHeld (cpu : Cpu) : Prop :=
  ∀ key : Fin 16, cpu.keys.get key = false

structure LeastHeld (cpu : Cpu) (key : Fin 16) : Prop where
  held : cpu.keys.get key = true
  least : ∀ lower < key, cpu.keys.get lower = false

variable {cpu : Cpu}

theorem leastHeldKey?_of_noneHeld (none : cpu.NoneHeld) : cpu.leastHeldKey? = Option.none := by
  rw [leastHeldKey?, List.find?_eq_none]
  intro key _ held
  exact Bool.false_ne_true ((none key).symm.trans held)

theorem leastHeld_of_leastHeldKey? {key : Fin 16} (found : cpu.leastHeldKey? = some key) :
    cpu.LeastHeld key := by
  obtain ⟨held, k, inside, here, before⟩ := List.find?_eq_some_iff_getElem.mp found
  rw [List.getElem_finRange] at here
  refine ⟨held, ?_⟩
  intro lower less
  have same : k = key.val := congrArg Fin.val here
  have passed := before lower.val (by omega)
  rw [List.getElem_finRange, Bool.not_eq_true'] at passed
  exact passed

theorem exists_leastHeld {key : Fin 16} (held : cpu.keys.get key = true) :
    ∃ least, cpu.leastHeldKey? = some least ∧ cpu.LeastHeld least := by
  cases found : cpu.leastHeldKey? with
  | none =>
    have unheld := List.find?_eq_none.mp found key (List.mem_finRange key)
    exact absurd held unheld
  | some least => exact ⟨least, rfl, leastHeld_of_leastHeldKey? found⟩

/-- The steps of the counter forward and back cancel. -/
theorem waitForKey_of_noneHeld (wf : cpu.WellFormed) (inside : cpu.pc ≤ 0xFFE)
    (none : cpu.NoneHeld) (x : Register) :
    (cpu.jump (cpu.pc + instructionLength)).waitForKey x = cpu := by
  have low := wf.pc.1
  have length : (instructionLength : Int) = 2 := rfl
  have unheld : (cpu.jump (cpu.pc + instructionLength)).leastHeldKey? = Option.none :=
    leastHeldKey?_of_noneHeld none
  have back : cpu.pc + instructionLength - instructionLength = cpu.pc := by omega
  have range : 0 ≤ cpu.pc + instructionLength ∧ cpu.pc + instructionLength ≤ 0x10FE := by omega
  rw [waitForKey, unheld]
  dsimp only
  rw [jump_eq cpu range, back, jump_eq _ (by omega)]

theorem waitForKey_of_held (wf : cpu.WellFormed) (inside : cpu.pc ≤ 0xFFE) {key : Fin 16}
    (least : cpu.leastHeldKey? = some key) (x : Register) :
    (cpu.jump (cpu.pc + instructionLength)).waitForKey x
      = { cpu.setV x key.val with pc := cpu.pc + 2 } := by
  have low := wf.pc.1
  have length : (instructionLength : Int) = 2 := rfl
  have range : 0 ≤ cpu.pc + instructionLength ∧ cpu.pc + instructionLength ≤ 0x10FE := by omega
  have held : (cpu.jump (cpu.pc + instructionLength)).leastHeldKey? = some key := least
  rw [waitForKey, held]
  dsimp only
  rw [jump_eq cpu range]
  rfl

end Cpu

/-- A word whose low byte is not zero lies in memory as a whole. -/
theorem Core.inside_of_word {core : Core} (wf : core.WellFormed) (low : core.word % 256 ≠ 0) :
    core.cpu.pc ≤ 0xFFE := by
  obtain ⟨memory, log, bus⟩ := wf.bus
  apply Int.not_lt.mp
  intro beyond
  have outside : ¬ (0 ≤ core.cpu.pc + 1 ∧ core.cpu.pc + 1 < 4096) := by omega
  apply low
  rw [word, bus, Bus.byteAt_holding_beyond memory log outside, Opcode.ofBytes]
  simp

namespace Machine

/-- The word at the counter is FX0A. -/
def AtWait (m : Machine) (x : Register) : Prop :=
  m.toCore.word = 0xF00A + 0x100 * x.val

/-- The next step reads the word FX0A, counts a cycle and makes `cpu` of the processor. -/
def StepsTo (m : Machine) (x : Register) (cpu : Cpu) : Prop :=
  ∃ snapshot,
    m.step = .done snapshot { m with cpu, bus := m.bus.clearLog, cycles := m.cycles + 1 } ∧
      snapshot.accesses = #[⟨.read, m.cpu.pc, 0xF0 + x.val⟩, ⟨.read, m.cpu.pc + 1, 0x0A⟩]

/-- What steps without a key and signals leave of a machine: what programs compute with, the mark of
the picture up to the first frame, and a cycle for each step. -/
structure Waited (m : Machine) (events : List Event) (last : Machine) : Prop where
  alike : m.Alike last
  cycles : last.cycles = m.cycles + (m.stepping events).length
  redraw : last.cpu.redraw = (m.cpu.redraw && events.all fun event => !event.takesFrame)

variable {m n : Machine} {x : Register}

theorem decode_wait : ∀ x : Register, Opcode.decode (0xF00A + 0x100 * x.val) = .waitKey x := by
  decide +kernel

namespace AtWait

variable (wait : m.AtWait x)
include wait

theorem bytes : ((m.bus.byteAt m.cpu.pc).toNat : Int) = 0xF0 + x.val ∧
    ((m.bus.byteAt (m.cpu.pc + 1)).toNat : Int) = 0x0A := by
  have word : ((m.bus.byteAt m.cpu.pc).toNat : Int) * 256 + (m.bus.byteAt (m.cpu.pc + 1)).toNat
      = 0xF00A + 0x100 * x.val := wait
  have low := (m.bus.byteAt (m.cpu.pc + 1)).toNat_lt
  omega

theorem inside (wf : m.toCore.WellFormed) : m.cpu.pc ≤ 0xFFE := by
  have low : ((0xF00A + 0x100 * x.val : Nat) : Int) % 256 ≠ 0 := by omega
  apply Core.inside_of_word wf
  rw [wait]
  exact low

theorem step (wf : m.toCore.WellFormed) :
    m.StepsTo x ((m.cpu.jump (m.cpu.pc + instructionLength)).waitForKey x) := by
  have inside := wait.inside wf
  have decoded : m.toCore.word.decode = .waitKey x := by
    rw [wait]
    exact decode_wait x
  have harmless : m.toCore.fault? = none := by
    rw [Core.fault?_eq_none_iff, decoded]
    exact ⟨inside, rfl⟩
  obtain ⟨core, executed, _, done⟩ := step_done wf harmless
  rw [decoded] at executed
  cases executed
  obtain ⟨high, low⟩ := wait.bytes
  refine ⟨_, done, ?_⟩
  change m.toCore.fetchLog = _
  rw [Core.fetchLog, if_pos inside, high, low]

theorem step_of_noneHeld (wf : m.toCore.WellFormed) (none : m.cpu.NoneHeld) :
    m.StepsTo x m.cpu := by
  have stepped := wait.step wf
  rw [Cpu.waitForKey_of_noneHeld wf.cpu (wait.inside wf) none] at stepped
  exact stepped

theorem step_of_held (wf : m.toCore.WellFormed) {key : Fin 16}
    (least : m.cpu.leastHeldKey? = some key) :
    m.StepsTo x { m.cpu.setV x key.val with pc := m.cpu.pc + 2 } := by
  have stepped := wait.step wf
  rw [Cpu.waitForKey_of_held wf.cpu (wait.inside wf) least] at stepped
  exact stepped

theorem of_alike (wf : m.toCore.WellFormed) (wf' : n.toCore.WellFormed) (alike : m.Alike n) :
    n.AtWait x :=
  (Core.word_eq_of_like alike.like (alike.bus wf wf')).symm.trans wait

end AtWait

theorem key_after_setKey (m : Machine) (key : Fin 16) (held : Bool) (k : Fin 16) :
    (m.after (.setKey key held)).cpu.keys.get k = if k = key then held else m.cpu.keys.get k := by
  rw [after_setKey]
  exact get_setIfInBounds m.cpu.keys key k held

theorem stepping_cons (m : Machine) (event : Event) (rest : List Event) :
    m.stepping (event :: rest) = m.stepping [event] ++ (m.after event).stepping rest := by
  cases event <;> rfl

theorem Waited.cons {event : Event} {rest : List Event} {last : Machine}
    (first : m.Waited [event] (m.after event)) (later : (m.after event).Waited rest last) :
    m.Waited (event :: rest) last where
  alike := first.alike.trans later.alike
  cycles := by
    rw [stepping_cons, List.length_append, later.cycles, first.cycles, Nat.add_assoc]
  redraw := by
    rw [later.redraw, first.redraw]
    simp [Bool.and_assoc]

theorem waited_of_signal {event : Event} (signal : event.isSignal = true) :
    m.Waited [event] (m.after event) := by
  refine ⟨.after_signal signal, ?_, ?_⟩
  · rw [after_signal signal, stepping_signal signal]
    rfl
  · rw [after_signal signal]
    cases event with
    | tick | setKey key held | takeFrame => simp [Cpu.signalled, Cpu.tick, Event.takesFrame]
    | step | reset given | load address byte | write address byte => contradiction

theorem StepsTo.waited (stays : m.StepsTo x m.cpu) : m.Waited [.step] (m.after .step) := by
  obtain ⟨snapshot, ended, _⟩ := stays
  have state : m.after .step = { m with bus := m.bus.clearLog, cycles := m.cycles + 1 } :=
    congrArg Outcome.state ended
  rw [state]
  refine ⟨?_, rfl, ?_⟩
  · constructor <;> rfl
  · simp [Event.takesFrame]

/-- Until a key is held at a step, the machine stays at the waiting instruction. -/
theorem AtWait.afterAll (wait : m.AtWait x) (wf : m.toCore.WellFormed) {events : List Event}
    (routine : ∀ event ∈ events, event.isRoutine = true)
    (idle : ∀ n ∈ m.stepping events, n.cpu.NoneHeld) :
    m.Waited events (m.afterAll events) ∧ ∀ n ∈ m.stepping events, n.StepsTo x n.cpu := by
  -- The machine after an event is again at the wait, which carries the induction.
  induction events generalizing m with
  | nil => exact ⟨⟨.refl m, rfl, by simp [Machine.afterAll]⟩, by simp [stepping]⟩
  | cons event rest ih =>
    obtain ⟨now, later⟩ := List.forall_mem_cons.mp routine
    rw [stepping_cons, List.forall_mem_append] at idle ⊢
    obtain ⟨here, others⟩ := idle
    obtain ⟨waited, steps⟩ : m.Waited [event] (m.after event) ∧
        ∀ n ∈ m.stepping [event], n.StepsTo x n.cpu := by
      rcases cases_isRoutine now with rfl | signal
      · have stays := wait.step_of_noneHeld wf (here m (List.mem_singleton.mpr rfl))
        refine ⟨stays.waited, ?_⟩
        intro n member
        cases List.mem_singleton.mp member
        exact stays
      · refine ⟨waited_of_signal signal, ?_⟩
        rw [stepping_signal signal]
        simp [stepping]
    have kept := after_wellFormed wf event
    obtain ⟨rested, more⟩ := ih (wait.of_alike wf kept waited.alike) kept later others
    exact ⟨waited.cons rested, steps, more⟩

/-- The wait for a key neither blocks nor loses or invents one. As long as no key is held at a step,
every step ends and leaves the processor and the memory, with a log of its two reads; what programs
compute with stays through all signals, and only frames reach the mark of the picture. The first
step with keys held gives the least of them to the register, moves on, and changes nothing else. -/
theorem wait_takes_least_key (reachable : m.Reachable) (wait : m.AtWait x) {events : List Event}
    (routine : ∀ event ∈ events, event.isRoutine = true)
    (idle : ∀ n ∈ m.stepping events, n.cpu.NoneHeld) :
    let last := m.afterAll events
    (∀ n ∈ m.stepping events, n.StepsTo x n.cpu) ∧ m.Waited events last ∧
      ((∃ key, last.cpu.keys.get key = true) → ∃ least, last.cpu.LeastHeld least ∧
        last.StepsTo x { last.cpu.setV x least.val with pc := last.cpu.pc + 2 }) := by
  have wf := reachable.wellFormed
  have kept := afterAll_wellFormed wf events
  obtain ⟨waited, steps⟩ := wait.afterAll wf routine idle
  refine ⟨steps, waited, ?_⟩
  rintro ⟨key, held⟩
  obtain ⟨least, found, smallest⟩ := Cpu.exists_leastHeld held
  exact ⟨least, smallest, (wait.of_alike wf kept waited.alike).step_of_held kept found⟩

/-- A program that waits for a key. A key that is released before the first step does not end the
wait, and of the two keys that are held at the second step the least is taken, not the first. -/
theorem wait_takes_least_key_released :
    ∃ (m last : Machine) (events : List Event), m.Reachable ∧ m.AtWait 4 ∧
      events = [.setKey 1 true, .setKey 1 false, .step, .setKey 7 true, .tick, .setKey 3 true] ∧
      last = m.afterAll events ∧ m.Waited events last ∧ (m.stepping events).length = 1 ∧
      last.StepsTo 4 { last.cpu.setV 4 3 with pc := last.cpu.pc + 2 } := by
  have fits : ([0xF4, 0x0A] : Program).length ≤ maxProgramSize := by decide
  have reachable := reachable_ofBus fits 0
  generalize start : ofBus (.holding (Memory.image [0xF4, 0x0A]) #[]) (some 0) = m at reachable
  have wait : m.AtWait 4 := by
    rw [AtWait, ← start, word_ofBus fits]
    decide
  have routine : ∀ event ∈ [Event.setKey 1 true, .setKey 1 false, .step, .setKey 7 true, .tick,
      .setKey 3 true], event.isRoutine = true := by
    simp [Event.isRoutine, Event.isSignal]
  have unheld (key : Fin 16) : m.cpu.keys.get key = false := by
    rw [← start]
    exact get_replicate false key
  let released := (m.after (.setKey 1 true)).after (.setKey 1 false)
  have none : released.cpu.NoneHeld := by
    intro key
    rw [key_after_setKey, key_after_setKey, unheld]
    by_cases pressed : key = 1
    · rw [if_pos pressed]
    · rw [if_neg pressed, if_neg pressed]
  obtain ⟨steps, waited, takes⟩ := wait_takes_least_key reachable wait routine (by
    intro n member
    cases List.mem_singleton.mp member
    exact none)
  obtain ⟨snapshot, ended, _⟩ := steps _ (List.mem_singleton.mpr rfl)
  have stepped (key : Fin 16) : (released.after .step).cpu.keys.get key = false :=
    (congrArg (fun o => o.state.cpu.keys.get key) ended).trans (none key)
  obtain ⟨last, all⟩ : ∃ last, last = m.afterAll [.setKey 1 true, .setKey 1 false, .step,
    .setKey 7 true, .tick, .setKey 3 true] := ⟨_, rfl⟩
  have held (key : Fin 16) :
      last.cpu.keys.get key = if key = 3 then true else if key = 7 then true else false := by
    have seventh := key_after_setKey (released.after .step) 7 true key
    rw [stepped] at seventh
    rw [← seventh, all]
    exact key_after_setKey _ 3 true key
  rw [← all] at waited takes
  obtain ⟨least, smallest, taken⟩ := takes ⟨3, held 3⟩
  have same : least = 3 := by
    have on := smallest.held
    rw [held] at on
    by_cases third : least = 3
    · exact third
    · rw [if_neg third] at on
      by_cases seventh : least = 7
      · have off := smallest.least 3 (by rw [seventh]; decide)
        rw [held] at off
        cases off
      · rw [if_neg seventh] at on
        cases on
  rw [same] at taken
  exact ⟨m, last, _, reachable, wait, rfl, all, waited, rfl, taken⟩

end Machine

end Chip8
