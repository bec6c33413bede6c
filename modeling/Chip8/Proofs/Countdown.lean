import Mathlib.Algebra.GroupWithZero.Nat
import Chip8.Proofs.Signals

/-! The timers as countdowns. Each of the two holds the value that was stored in it last, less the
ticks since, and never less than zero. A reset counts as the start. No other event and no other
instruction reaches a timer, and neither timer has a part in what becomes of the other. -/

namespace Chip8

inductive Timer where
  | delay
  | sound

/-- What happens to one timer: a value is stored in it, it is ticked, or a reset clears it. -/
inductive Beat where
  | stored (value : Int)
  | ticked
  | cleared

namespace Beat

def store : Int → Beat → Int
  | _, stored value => value
  | value, ticked => value
  | _, cleared => 0

def count : Nat → Beat → Nat
  | _, stored _ => 0
  | ticks, ticked => ticks + 1
  | _, cleared => 0

/-- The value that was stored last since the timer was cleared, or zero. -/
def lastStored (beats : List Beat) : Int :=
  beats.foldl store 0

/-- The ticks since a value was stored or the timer was cleared. -/
def ticksSince (beats : List Beat) : Nat :=
  beats.foldl count 0

/-- What a beat makes of the value of a timer. -/
def act (value : Int) : Beat → Int
  | stored new => new
  | ticked => if 0 < value then value - 1 else value
  | cleared => 0

theorem lastStored_concat (beats : List Beat) (beat : Beat) :
    lastStored (beats ++ [beat]) = store (lastStored beats) beat := by
  simp [lastStored]

theorem ticksSince_concat (beats : List Beat) (beat : Beat) :
    ticksSince (beats ++ [beat]) = count (ticksSince beats) beat := by
  simp [ticksSince]

end Beat

open Beat

/-- The register whose value an instruction stores in a timer. -/
def Timer.setBy? : Timer → Instruction → Option Register
  | delay, .setDelay x => some x
  | sound, .setSound x => some x
  | _, _ => none

namespace Cpu

def timer (cpu : Cpu) : Timer → Int
  | .delay => cpu.dt
  | .sound => cpu.st

def withTimer (cpu : Cpu) (value : Int) : Timer → Cpu
  | .delay => { cpu with dt := value }
  | .sound => { cpu with st := value }

/-- A timer agrees with what has happened to it. -/
def Counts (cpu : Cpu) (t : Timer) (beats : List Beat) : Prop :=
  cpu.timer t = max 0 (lastStored beats - ticksSince beats)

variable {cpu after : Cpu} {t other : Timer} {value : Int}

theorem counts_initial (random : Generator) (t : Timer) : (Cpu.initial random).Counts t [] := by
  cases t <;> rfl

theorem Counts.beaten {beats : List Beat} (counts : cpu.Counts t beats) {beat : Beat}
    (acted : after.timer t = beat.act (cpu.timer t))
    (bytes : ∀ value, beat = .stored value → IsByte value) : after.Counts t (beats ++ [beat]) := by
  rw [Counts, acted, counts, lastStored_concat, ticksSince_concat]
  cases beat with
  | stored value =>
    obtain ⟨low, _⟩ := bytes value rfl
    simp only [act, store, count]
    omega
  | ticked =>
    simp only [act, store, count]
    split <;> omega
  | cleared => rfl

theorem timer_withTimer (cpu : Cpu) (value : Int) (apart : other ≠ t) :
    (cpu.withTimer value other).timer t = cpu.timer t := by
  cases t <;> cases other <;> first | rfl | contradiction

theorem WellFormed.withTimer (wf : cpu.WellFormed) (byte : IsByte value) (t : Timer) :
    (cpu.withTimer value t).WellFormed := by
  cases t with
  | delay => exact { wf with dt := byte }
  | sound => exact { wf with st := byte }

theorem like_withTimer (cpu : Cpu) (value : Int) (t : Timer) :
    cpu.Like { dt := fun _ _ => True, st := fun _ _ => True } (cpu.withTimer value t) := by
  cases t <;> constructor <;> first | rfl | trivial

end Cpu

/-- An instruction stores the register that it names in its timer and leaves the other one. -/
theorem Instruction.timer_of_execute {i : Instruction} {core after : Core}
    (ended : i.execute core = .done () after) (t : Timer) :
    after.cpu.timer t = ((t.setBy? i).map core.cpu.v.get).getD (core.cpu.timer t) := by
  have spared := (Core.spares_of_execute ended).cpu
  cases i with
  | setDelay x =>
    cases t with
    | delay =>
      cases ended
      rfl
    | sound => exact spared.st nofun
  | setSound x =>
    cases t with
    | delay => exact spared.dt nofun
    | sound =>
      cases ended
      rfl
  | _ =>
    cases t with
    | delay => exact spared.dt nofun
    | sound => exact spared.st nofun

namespace Machine

/-- The value that a step stores in a timer, if its instruction does. -/
def stored? (m : Machine) (t : Timer) : Option Int :=
  match m.step.result with
  | .ok snapshot => (t.setBy? snapshot.instruction).map m.cpu.v.get
  | .error _ => none

def beat? (m : Machine) (t : Timer) : Event → Option Beat
  | .step => (m.stored? t).map .stored
  | .tick => some .ticked
  | .reset _ => some .cleared
  | .setKey _ _ | .takeFrame | .load _ _ | .write _ _ => none

/-- What events, one after another, do to a timer. -/
def beats (m : Machine) (t : Timer) : List Event → List Beat
  | [] => []
  | event :: rest => (m.beat? t event).toList ++ (m.after event).beats t rest

variable {m : Machine} {t other : Timer}

theorem stored?_of_fault {f : Fault} (wf : m.toCore.WellFormed) (fault : m.toCore.fault? = some f)
    (t : Timer) : m.stored? t = none := by
  rw [stored?, step_fault wf fault]
  rfl

theorem stored?_of_step {snapshot : Snapshot} {last : Machine} {i : Instruction}
    (ended : m.step = .done snapshot last) (executed : snapshot.instruction = i) (t : Timer) :
    m.stored? t = (t.setBy? i).map m.cpu.v.get := by
  rw [stored?, ended, ← executed]
  rfl

theorem stored?_of_done (wf : m.toCore.WellFormed) (fault : m.toCore.fault? = none) (t : Timer) :
    m.stored? t = (t.setBy? m.toCore.word.decode).map m.cpu.v.get := by
  obtain ⟨snapshot, last, ended, executed⟩ := exists_snapshot wf fault
  exact stored?_of_step ended executed t

theorem isByte_of_beat? {event : Event} {value : Int} (wf : m.toCore.WellFormed)
    (beat : m.beat? t event = some (.stored value)) : IsByte value := by
  cases event with
  | step =>
    obtain ⟨_, stored, same⟩ := Option.map_eq_some_iff.mp beat
    cases same
    unfold stored? at stored
    split at stored
    · obtain ⟨x, _, rfl⟩ := Option.map_eq_some_iff.mp stored
      exact wf.cpu.v x
    · contradiction
  | tick | setKey | takeFrame | reset | load | write => simp [beat?] at beat

theorem timer_step (wf : m.toCore.WellFormed) (t : Timer) :
    m.step.state.cpu.timer t = (m.stored? t).getD (m.cpu.timer t) := by
  cases fault : m.toCore.fault? with
  | some f =>
    rw [stored?_of_fault wf fault, step_fault wf fault]
    rfl
  | none =>
    obtain ⟨core, executed, _, done⟩ := step_done wf fault
    rw [stored?_of_done wf fault, done]
    exact Instruction.timer_of_execute executed t

theorem timer_given (m : Machine) (random : Generator) (t : Timer) :
    (m.given random).cpu.timer t = m.cpu.timer t := by
  unfold given
  split
  · rfl
  · cases t <;> rfl

/-- An event does to a timer what its beat says, and nothing if it has none. -/
theorem timer_after (wf : m.toCore.WellFormed) (event : Event) (t : Timer) :
    (m.after event).cpu.timer t
      = ((m.beat? t event).map (act (m.cpu.timer t))).getD (m.cpu.timer t) := by
  cases event with
  | step =>
    rw [after, timer_step wf, beat?]
    cases m.stored? t <;> rfl
  | tick => cases t <;> rfl
  | reset random =>
    rw [after, timer_given]
    cases t <;> rfl
  | setKey key held =>
    rw [after_setKey]
    cases t <;> rfl
  | takeFrame =>
    rw [after, takeFrame_eq]
    cases t <;> rfl
  | load address byte | write address byte =>
    rw [after, cpu_accessed]
    rfl

theorem counts_after (wf : m.toCore.WellFormed) (event : Event) {past : List Beat}
    (counts : m.cpu.Counts t past) :
    (m.after event).cpu.Counts t (past ++ (m.beat? t event).toList) := by
  have now := timer_after wf event t
  cases beat : m.beat? t event with
  | none =>
    rw [beat] at now
    rw [Option.toList_none, List.append_nil, Cpu.Counts, now]
    exact counts
  | some hit =>
    rw [beat] at now
    refine counts.beaten now ?_
    rintro value rfl
    exact isByte_of_beat? wf beat

theorem counts_afterAll (wf : m.toCore.WellFormed) (events : List Event) {past : List Beat}
    (counts : m.cpu.Counts t past) :
    (m.afterAll events).cpu.Counts t (past ++ m.beats t events) := by
  induction events generalizing m past with
  | nil =>
    rw [beats, List.append_nil]
    exact counts
  | cons event rest ih =>
    rw [beats, ← List.append_assoc]
    exact ih (after_wellFormed wf event) (counts_after wf event counts)

section Apart

variable {value : Int} (wf : m.toCore.WellFormed) (byte : IsByte value)
include wf byte

theorem withTimer_wellFormed (t : Timer) :
    (m.withCpu (m.cpu.withTimer value t)).toCore.WellFormed :=
  ⟨wf.cpu.withTimer byte t, wf.bus⟩

/-- Whether a step ends, and in which instruction, does not depend on the timers. -/
theorem stored?_withTimer (t other : Timer) :
    (m.withCpu (m.cpu.withTimer value other)).stored? t = m.stored? t := by
  have wf' := withTimer_wellFormed wf byte other
  have like := m.cpu.like_withTimer value other
  have faults : m.toCore.fault? = (m.withCpu (m.cpu.withTimer value other)).toCore.fault? :=
    Core.fault?_eq_of_like like rfl
  have words : m.toCore.word = (m.withCpu (m.cpu.withTimer value other)).toCore.word :=
    Core.word_eq_of_like like rfl
  cases fault : m.toCore.fault? with
  | some f => rw [stored?_of_fault wf fault, stored?_of_fault wf' (faults.symm.trans fault)]
  | none =>
    -- A rewrite by the whole likeness would open the decoder.
    have v : (m.withCpu (m.cpu.withTimer value other)).cpu.v = m.cpu.v := like.v.symm
    rw [stored?_of_done wf fault, stored?_of_done wf' (faults.symm.trans fault), words, v]

/-- What an event makes of a timer does not depend on the other timer. -/
theorem timer_apart (event : Event) (apart : other ≠ t) :
    ((m.withCpu (m.cpu.withTimer value other)).after event).cpu.timer t
      = (m.after event).cpu.timer t := by
  have same : (m.withCpu (m.cpu.withTimer value other)).beat? t event = m.beat? t event := by
    cases event with
    | step => exact congrArg (Option.map Beat.stored) (stored?_withTimer wf byte t other)
    | _ => rfl
  have own : (m.withCpu (m.cpu.withTimer value other)).cpu.timer t = m.cpu.timer t :=
    m.cpu.timer_withTimer value apart
  rw [timer_after wf, timer_after (withTimer_wellFormed wf byte other), same, own]

end Apart

theorem ticks_given (m : Machine) (random : Generator) : (m.given random).ticks = m.ticks := by
  unfold given
  split <;> rfl

/-- Every tick is counted, and nothing else reaches the count, not even a reset. -/
theorem ticks_after (wf : m.toCore.WellFormed) (event : Event) :
    (m.after event).ticks = m.ticks + event.ticks := by
  cases event with
  | step =>
    rcases step_ends_or_faults wf with ⟨snapshot, last, ended, _⟩ | ⟨f, _, stopped⟩
    · rw [after, ended]
      exact ticks_of_step ended
    · rw [after, stopped]
      rfl
  | tick => rfl
  | setKey key held =>
    rw [after_setKey]
    rfl
  | takeFrame =>
    rw [after, takeFrame_eq]
    rfl
  | reset random => exact ticks_given m.reset random
  | load address byte | write address byte =>
    rw [after]
    unfold accessed
    split <;> rfl

theorem ticks_afterAll (wf : m.toCore.WellFormed) (events : List Event) :
    (m.afterAll events).ticks = m.ticks + (events.map Event.ticks).sum := by
  induction events generalizing m with
  | nil => rfl
  | cons event rest ih =>
    have later := ih (after_wellFormed wf event)
    rw [ticks_after wf event, Nat.add_assoc, ← List.sum_cons, ← List.map_cons] at later
    exact later

/-- Each timer counts down from the value that was stored in it last since the start or the last
reset, one for every tick after that, and stops at zero. What the other timer holds makes no
difference to what any event makes of it. The count of ticks is that of all ticks since the
start. -/
theorem timers_count_down {c : Config} {program : Except FileError Program} {built : Machine}
    (accepted : (c.buildWith program).result = .ok built) (random : Generator)
    (events : List Event) :
    let start := built.given random
    let last := start.afterAll events
    last.ticks = (events.map Event.ticks).sum ∧
      ∀ t : Timer,
        last.cpu.timer t
          = max 0 (lastStored (start.beats t events) - ticksSince (start.beats t events)) ∧
        ∀ (other : Timer) (value : Int) (event : Event), other ≠ t → IsByte value →
          ((last.withCpu (last.cpu.withTimer value other)).after event).cpu.timer t
            = (last.after event).cpu.timer t := by
  have fresh : Fresh (built.given random) := .built random accepted
  have wf := fresh.reachable.wellFormed
  have kept := afterAll_wellFormed wf events
  obtain ⟨generator, initial⟩ := fresh.exists_initial
  have none : built.ticks = 0 := by
    obtain ⟨program, rfl⟩ := Config.result_buildWith accepted
    rfl
  refine ⟨?_, fun t => ⟨?_, ?_⟩⟩
  · rw [ticks_afterAll wf, ticks_given, none, Nat.zero_add]
  · have counts : (built.given random).cpu.Counts t [] := by
      rw [initial]
      exact Cpu.counts_initial generator t
    exact counts_afterAll wf events counts
  · intro other value event apart byte
    exact timer_apart kept byte event apart

/-- A program that stores 2 in the delay timer, which stands at zero three ticks later. A value in
it makes no difference to the next tick of the sound timer. -/
theorem timers_count_down_expired :
    ∃ (c : Config) (program : Except FileError Program) (built : Machine) (random : Generator)
      (events : List Event) (last : Machine), (c.buildWith program).result = .ok built ∧
      (built.given random).beats .delay events = [.stored 2, .ticked, .ticked, .ticked] ∧
      last = (built.given random).afterAll events ∧ last.ticks = 3 ∧ last.cpu.timer .delay = 0 ∧
      ((last.withCpu (last.cpu.withTimer 7 .delay)).after .tick).cpu.timer .sound
        = (last.after .tick).cpu.timer .sound := by
  have fits : ([0x60, 0x02, 0xF0, 0x15] : Program).length ≤ maxProgramSize := by decide
  have accepted := built_ofBus fits 0
  have wf := (reachable_ofBus fits 0).wellFormed
  have set : Opcode.decode 0x6002 = .setByte 0 2 := by decide
  have sets : Opcode.ofBytes 0x60 0x02 = 0x6002 := by decide
  have delay : Opcode.decode 0xF015 = .setDelay 0 := by decide
  have delays : Opcode.ofBytes 0xF0 0x15 = 0xF015 := by decide
  obtain ⟨one, next, ended, isSet, done⟩ :=
    executed_of_image wf fits rfl (k := 0) rfl (by decide) set sets rfl
  obtain ⟨two, final, core', ended', isDelay, done'⟩ :=
    exists_executed_of_image (wellFormed_of_step wf ended) fits (by rw [done.last]; rfl) (k := 2)
      (by rw [done.last]; decide) (by decide) delay delays rfl
  have loaded : next.cpu.v.get 0 = 2 := by
    rw [done.last]
    rfl
  have same := given_of_seed (m := ofBus (.holding (Memory.image [0x60, 0x02, 0xF0, 0x15]) #[])
    (some 0)) rfl (.ofSeed 0)
  have beats (start : Machine) (ended : start.step = .done one next) :
      start.beats .delay [.step, .step, .tick, .tick, .tick]
        = [.stored 2, .ticked, .ticked, .ticked] := by
    simp [Machine.beats, beat?, after, stored?_of_step ended isSet, ended, Outcome.done,
      stored?_of_step ended' isDelay, Timer.setBy?, loaded]
  rw [← same] at ended
  obtain ⟨ticks, timers⟩ :=
    timers_count_down accepted (.ofSeed 0) [.step, .step, .tick, .tick, .tick]
  obtain ⟨down, _⟩ := timers .delay
  obtain ⟨_, apart⟩ := timers .sound
  rw [beats _ ended] at down
  exact ⟨_, _, _, _, _, _, accepted, beats _ ended, rfl, ticks, down,
    apart .delay 7 .tick (by intro same; cases same) (by decide)⟩

end Machine

end Chip8
