import Chip8.Proofs.Picture

/-! Processors side by side. Two of them are alike when they have the same registers, index,
counter, depth and display, and their other parts correspond in a given way. An instruction keeps a
likeness if it does not look at parts that differ and sets no part against the correspondence; then
it has the same result on both sides and leaves them alike. -/

namespace Chip8

/-- How the stack entries at a depth, the timers, the keys, the mark of the picture and the
generators of two processors correspond. Parts that are not mentioned are the same. -/
structure Likeness where
  stack : Int → Vector Int 16 → Vector Int 16 → Prop := fun _ => Eq
  dt : Int → Int → Prop := Eq
  st : Int → Int → Prop := Eq
  keys : Vector Bool 16 → Vector Bool 16 → Prop := Eq
  redraw : Bool → Bool → Prop := Eq
  random : Generator → Generator → Prop := Eq

structure Cpu.Like (l : Likeness) (one two : Cpu) : Prop where
  v : one.v = two.v
  i : one.i = two.i
  pc : one.pc = two.pc
  sp : one.sp = two.sp
  display : one.display = two.display
  stack : l.stack one.sp one.stack two.stack
  dt : l.dt one.dt two.dt
  st : l.st one.st two.st
  keys : l.keys one.keys two.keys
  redraw : l.redraw one.redraw two.redraw
  random : l.random one.random two.random

/-- Processors that are alike, on the same bus. -/
structure Core.Like (l : Likeness) (one two : Core) : Prop where
  cpu : one.cpu.Like l two.cpu
  bus : one.bus = two.bus

/-- Whether instructions of a form look at the keys. -/
def Form.looksAtKeys : Form → Bool
  | skipPressed | skipReleased | waitKey => true
  | _ => false

/-- What an instruction needs of a likeness: the parts that it reads are the same, and the parts
that it sets correspond as they are set. -/
structure Likeness.KeptBy (l : Likeness) (i : Instruction) : Prop where
  push : i.form = .call → ∀ depth slot address one two, Cpu.stackSlot? depth = some slot →
    l.stack depth one two →
    l.stack (depth + 1) (one.setIfInBounds slot.val address) (two.setIfInBounds slot.val address)
  pop : i.form = .ret → ∀ depth one two, 0 < depth → l.stack depth one two →
    l.stack (depth - 1) one two ∧
      ∀ slot, Cpu.stackSlot? (depth - 1) = some slot → one.get slot = two.get slot
  readDelay : i.form = .readDelay → ∀ one two, l.dt one two → one = two
  setDelay : i.form = .setDelay → ∀ value, l.dt value value
  setSound : i.form = .setSound → ∀ value, l.st value value
  keys : i.form.looksAtKeys = true → ∀ one two, l.keys one two → one = two
  redraw : i.form.draws = true → l.redraw true true
  random : ∀ x mask, i = .random x mask → ∀ one two, l.random one two →
    l.random one.byte.2 two.byte.2 ∧
      one.byte.1.toNat &&& mask.val = two.byte.1.toNat &&& mask.val

/-- Whatever an instruction reads and sets, processors that are the same stay so. -/
theorem Likeness.equal_keptBy (i : Instruction) : ({} : Likeness).KeptBy i where
  push := by
    rintro - depth slot address one two - rfl
    rfl
  pop := by
    rintro - depth one two - rfl
    exact ⟨rfl, fun slot _ => rfl⟩
  readDelay _ _ _ := id
  setDelay _ _ := rfl
  setSound _ _ := rfl
  keys _ _ _ := id
  redraw _ := rfl
  random := by
    rintro x mask - one two rfl
    exact ⟨rfl, rfl⟩

/-- Two actions have the same result, and their ends are in a relation. -/
structure Outcome.Matches {σ τ α : Type} (ends : σ → τ → Prop) (one : Outcome σ α)
    (two : Outcome τ α) : Prop where
  result : one.result = two.result
  state : ends one.state two.state

theorem Outcome.Matches.andThen {σ τ α β : Type} {ends : σ → τ → Prop} {one : Outcome σ α}
    {two : Outcome τ α} (first : one.Matches ends two) {next : α → σ → Outcome σ β}
    {other : α → τ → Outcome τ β}
    (later : ∀ a s t, ends s t → (next a s).Matches ends (other a t)) :
    (one.andThen next).Matches ends (two.andThen other) := by
  obtain ⟨result, s⟩ := one
  obtain ⟨_, t⟩ := two
  obtain ⟨same, related⟩ := first
  cases same
  cases result with
  | error f => exact ⟨rfl, related⟩
  | ok a => exact later a s t related

namespace Cpu.Like

variable {l : Likeness} {one two : Cpu}

theorem withPc (like : one.Like l two) (target : Int) :
    { one with pc := target }.Like l { two with pc := target } :=
  { like with pc := rfl }

theorem withI (like : one.Like l two) {i j : Int} (same : i = j) :
    { one with i }.Like l { two with i := j } :=
  { like with i := same }

theorem withV (like : one.Like l two) {v w : Vector Int 16} (same : v = w) :
    { one with v }.Like l { two with v := w } :=
  { like with v := same }

theorem jump (like : one.Like l two) {target other : Int} (same : target = other) :
    (one.jump target).Like l (two.jump other) := by
  rw [same]
  exact like.withPc _

theorem skipIf (like : one.Like l two) {condition other : Bool} (same : condition = other) :
    (one.skipIf condition).Like l (two.skipIf other) := by
  subst same
  cases condition with
  | false => exact like
  | true => exact like.jump (by rw [like.pc])

theorem setV (like : one.Like l two) (x : Register) {value other : Int} (same : value = other) :
    (one.setV x value).Like l (two.setV x other) := by
  subst same
  exact like.withV (by rw [like.v])

theorem setWithFlag (like : one.Like l two) (x : Register) {result other : Int} {flag mark : Bool}
    (results : result = other) (flags : flag = mark) :
    (one.setWithFlag x result flag).Like l (two.setWithFlag x other mark) := by
  subst results flags
  exact (like.setV x rfl).setV Register.flag rfl

theorem setRegisters (like : one.Like l two) (bytes : List UInt8) :
    (one.setRegisters bytes).Like l (two.setRegisters bytes) :=
  like.withV (by rw [like.v])

theorem drawSprite (like : one.Like l two) (marked : l.redraw true true) (x y : Register)
    (sprite : List UInt8) : (one.drawSprite x y sprite).Like l (two.drawSprite x y sprite) := by
  have cleared := like.setV Register.flag (rfl : (0 : Int) = 0)
  have drawn : (one.setV Register.flag 0).display.draw ((one.setV Register.flag 0).v.get x)
        ((one.setV Register.flag 0).v.get y) sprite
      = (two.setV Register.flag 0).display.draw ((two.setV Register.flag 0).v.get x)
        ((two.setV Register.flag 0).v.get y) sprite := by
    rw [cleared.v, cleared.display]
  have flagged := cleared.setV Register.flag
    (congrArg (fun d => if d.2 then (1 : Int) else 0) drawn)
  exact { flagged with display := congrArg Prod.fst drawn, redraw := marked }

theorem waitForKey (like : one.Like l two) (keys : one.keys = two.keys) (x : Register) :
    (one.waitForKey x).Like l (two.waitForKey x) := by
  have least : one.leastHeldKey? = two.leastHeldKey? := by
    rw [leastHeldKey?, leastHeldKey?, keys]
  unfold Cpu.waitForKey
  rw [least]
  split
  · exact like.setV x rfl
  · exact like.jump (by rw [like.pc])

/-- Both pushes fail, or both succeed. -/
theorem push (like : one.Like l two) {target : Fin 4096} (kept : l.KeptBy (.call target))
    {value other : Int} (same : value = other) :
    (∃ f, one.push value = .error f ∧ two.push other = .error f) ∨
      ∃ deeper deep, one.push value = .ok deeper ∧ two.push other = .ok deep ∧
        deeper.Like l deep := by
  subst same
  by_cases full : (stackDepth : Int) ≤ two.sp
  · refine .inl ⟨.stackOverflow two.sp, ?_, ?_⟩
    · rw [Cpu.push, like.sp, if_pos full]
    · rw [Cpu.push, if_pos full]
  · rw [Cpu.push, Cpu.push, like.sp, if_neg full, if_neg full]
    cases found : stackSlot? two.sp with
    | none => exact .inl ⟨.noSlot, rfl, rfl⟩
    | some slot =>
      have entries := like.stack
      rw [like.sp] at entries
      have pushed := kept.push rfl two.sp slot (value % 0x10000) _ _ found entries
      rw [← set_eq_setIfInBounds, ← set_eq_setIfInBounds] at pushed
      exact .inr ⟨_, _, rfl, rfl, { like with sp := rfl, stack := pushed }⟩

theorem pop (like : one.Like l two) (kept : l.KeptBy .ret) :
    one.pop.Matches (Cpu.Like l) two.pop := by
  unfold Cpu.pop
  rw [like.sp]
  by_cases empty : two.sp ≤ 0
  · rw [if_pos empty, if_pos empty]
    exact ⟨rfl, like⟩
  · rw [if_neg empty, if_neg empty]
    have entries := like.stack
    rw [like.sp] at entries
    obtain ⟨lower, top⟩ := kept.pop rfl two.sp _ _ (by omega) entries
    have lowered : { one with sp := two.sp - 1 }.Like l { two with sp := two.sp - 1 } :=
      { like with sp := rfl, stack := lower }
    dsimp only
    cases found : stackSlot? (two.sp - 1) with
    | none => exact ⟨rfl, lowered⟩
    | some slot => exact ⟨congrArg Except.ok (top slot found), lowered⟩

theorem keyHeld (keys : one.keys = two.keys) {key other : Int} (same : key = other) :
    one.keyHeld key = two.keyHeld other := by
  rw [Cpu.keyHeld, Cpu.keyHeld, keys, same]

end Cpu.Like

namespace Core

variable {l : Likeness} {one two : Core}

theorem matches_become (like : one.Like l two) {cpu other : Cpu} (cpus : cpu.Like l other) :
    (one.become cpu).Matches (Core.Like l) (two.become other) :=
  ⟨rfl, cpus, like.bus⟩

theorem matches_call (like : one.Like l two) {target : Fin 4096}
    (kept : l.KeptBy (.call target)) :
    ((Instruction.call target).execute one).Matches (Core.Like l)
      ((Instruction.call target).execute two) := by
  have own : one.cpu.pc - instructionLength = two.cpu.pc - instructionLength := by
    rw [like.cpu.pc]
  simp only [Instruction.execute]
  cases like.cpu.push kept own with
  | inl full =>
    obtain ⟨f, refused, refuses⟩ := full
    rw [refused, refuses]
    exact ⟨rfl, like⟩
  | inr room =>
    obtain ⟨deeper, deep, pushed, pushes, cpus⟩ := room
    rw [pushed, pushes]
    exact matches_become like (cpus.withPc _)

theorem matches_ret (like : one.Like l two) (kept : l.KeptBy .ret) :
    (Instruction.ret.execute one).Matches (Core.Like l) (Instruction.ret.execute two) := by
  have popped := like.cpu.pop kept
  simp only [Instruction.execute]
  cases first : one.cpu.pop with
  | mk result cpu =>
    cases second : two.cpu.pop with
    | mk other deeper =>
      rw [first, second] at popped
      obtain ⟨same, cpus⟩ := popped
      dsimp only at same
      subst same
      cases result with
      | error f => exact ⟨rfl, cpus, like.bus⟩
      | ok target => exact ⟨rfl, cpus.jump rfl, like.bus⟩

theorem matches_storeAtIndex (like : one.Like l two) {values others : List Int}
    (same : values = others) :
    (one.storeAtIndex values).Matches (Core.Like l) (two.storeAtIndex others) := by
  rw [storeAtIndex, storeAtIndex, like.bus, like.cpu.i, same]
  exact ⟨rfl, like.cpu, rfl⟩

theorem matches_loadAtIndex (like : one.Like l two) (count : Nat) {use others : List UInt8 → Cpu}
    (cpus : ∀ bytes, (use bytes).Like l (others bytes)) :
    (one.loadAtIndex count use).Matches (Core.Like l) (two.loadAtIndex count others) := by
  rw [loadAtIndex, loadAtIndex, like.bus, like.cpu.i]
  cases two.bus.readBlock two.cpu.i count with
  | mk result bus =>
    cases result with
    | error f => exact ⟨rfl, like.cpu, rfl⟩
    | ok bytes => exact ⟨rfl, cpus bytes, rfl⟩

/-- An instruction that keeps a likeness has the same result on both sides, with the same accesses
to the bus, and the sides are still alike. -/
theorem matches_execute (like : one.Like l two) {i : Instruction} (kept : l.KeptBy i) :
    (i.execute one).Matches (Core.Like l) (i.execute two) := by
  have become {cpu other : Cpu} (cpus : cpu.Like l other) :
      (one.become cpu).Matches (Core.Like l) (two.become other) := matches_become like cpus
  have cpu := like.cpu
  have v := cpu.v
  cases i with
  | sys target | unknown opcode => exact ⟨rfl, like⟩
  | cls => exact become { cpu with display := rfl, redraw := kept.redraw rfl }
  | ret => exact matches_ret like kept
  | call target => exact matches_call like kept
  | jump target => exact become (cpu.withPc _)
  | jumpOffset target => exact become (cpu.jump (by rw [v]))
  | skipEqualByte x byte | skipUnequalByte x byte | skipEqual x y | skipUnequal x y =>
    exact become (cpu.skipIf (by rw [v]))
  | skipPressed x | skipReleased x =>
    have key : one.cpu.v.get x = two.cpu.v.get x := by rw [v]
    simp only [Instruction.execute, Cpu.Like.keyHeld (kept.keys rfl _ _ cpu.keys) key]
    cases two.cpu.keyHeld (two.cpu.v.get x) with
    | error f => exact ⟨rfl, like⟩
    | ok held => exact become (cpu.skipIf rfl)
  | setByte x byte => exact become (cpu.setV x rfl)
  | addByte x byte | copy x y | or x y | and x y | xor x y => exact become (cpu.setV x (by rw [v]))
  | add x y | sub x y | subReverse x y | shiftRight x | shiftLeft x =>
    exact become (cpu.setWithFlag x (by rw [v]) (by rw [v]))
  | setIndex target => exact become (cpu.withI rfl)
  | addIndex x => exact become (cpu.withI (by rw [v, cpu.i]))
  | glyph x => exact become (cpu.withI (by rw [v]))
  | random x mask =>
    obtain ⟨generators, bytes⟩ := kept.random x mask rfl _ _ cpu.random
    have drawn : { one.cpu with random := one.cpu.random.byte.2 }.Like l
        { two.cpu with random := two.cpu.random.byte.2 } := { cpu with random := generators }
    exact become (drawn.setV x (congrArg Nat.cast bytes))
  | draw x y height =>
    exact matches_loadAtIndex like _ (fun bytes => cpu.drawSprite (kept.redraw rfl) x y bytes)
  | readDelay x => exact become (cpu.setV x (kept.readDelay rfl _ _ cpu.dt))
  | waitKey x => exact become (cpu.waitForKey (kept.keys rfl _ _ cpu.keys) x)
  | setDelay x =>
    refine become { cpu with dt := ?_ }
    dsimp only
    rw [v]
    exact kept.setDelay rfl _
  | setSound x =>
    refine become { cpu with st := ?_ }
    dsimp only
    rw [v]
    exact kept.setSound rfl _
  | decimal x => exact matches_storeAtIndex like (by rw [v])
  | store x => exact matches_storeAtIndex like (by rw [Cpu.registersUpTo, Cpu.registersUpTo, v])
  | load x => exact matches_loadAtIndex like _ (fun bytes => cpu.setRegisters bytes)

theorem matches_fetch (like : one.Like l two) : one.fetch.Matches (Core.Like l) two.fetch := by
  rw [fetch, fetch, like.cpu.pc, like.bus]
  cases checkRange two.cpu.pc instructionLength with
  | error f => exact ⟨rfl, like⟩
  | ok passed =>
    dsimp only
    cases two.bus.read two.cpu.pc with
    | error f => exact ⟨rfl, like⟩
    | ok first =>
      dsimp only
      cases first.2.read (two.cpu.pc + 1) with
      | error f => exact ⟨rfl, like.cpu, rfl⟩
      | ok second => exact ⟨rfl, like.cpu, rfl⟩

theorem matches_executeFetched (like : one.Like l two) {op : Opcode} (kept : l.KeptBy op.decode) :
    (one.executeFetched op).Matches (Core.Like l) (two.executeFetched op) := by
  have behind : (one.withCpu (one.cpu.jump (one.cpu.pc + instructionLength))).Like l
      (two.withCpu (two.cpu.jump (two.cpu.pc + instructionLength))) :=
    ⟨like.cpu.jump (by rw [like.cpu.pc]), like.bus⟩
  have executed := matches_execute behind kept
  rw [executeFetched, executeFetched]
  generalize op.decode.execute (one.withCpu _) = first at executed ⊢
  generalize op.decode.execute (two.withCpu _) = second at executed ⊢
  obtain ⟨result, after⟩ := first
  obtain ⟨other, later⟩ := second
  obtain ⟨same, ends⟩ := executed
  dsimp only at same ends
  subst same
  cases result with
  | ok done => exact ⟨rfl, ends⟩
  | error f =>
    cases bounds : f.isBounds with
    | false => simpa only [bounds] using ⟨rfl, ends⟩
    | true =>
      simp only [bounds, if_true]
      exact ⟨rfl, { ends.cpu with pc := like.cpu.pc }, ends.bus⟩

/-- A likeness that all instructions keep is kept by every step, whatever the processors hold and
whatever is on the bus. -/
theorem matches_step (cpu : one.cpu.Like l two.cpu) (bus : one.bus.clearLog = two.bus.clearLog)
    (kept : ∀ i, l.KeptBy i) : one.step.Matches (Core.Like l) two.step := by
  have start : (one.withBus one.bus.clearLog).Like l (two.withBus two.bus.clearLog) := ⟨cpu, bus⟩
  rw [step, step]
  refine (matches_fetch start).andThen fun op one two like => ?_
  refine (matches_executeFetched like (kept op.decode)).andThen fun _ one two like => ?_
  exact ⟨rfl, like⟩

theorem byteAt_eq_of_clearLog {first second : Bus} (bus : first.clearLog = second.clearLog)
    (address : Int) : first.byteAt address = second.byteAt address := by
  have same := congrArg (fun bus : Bus => bus.byteAt address) bus
  exact same

section Sides

variable (cpu : one.cpu.Like l two.cpu) (bus : one.bus.clearLog = two.bus.clearLog)
include cpu bus

theorem word_eq_of_like : one.word = two.word := by
  rw [word, word, cpu.pc, byteAt_eq_of_clearLog bus, byteAt_eq_of_clearLog bus]

theorem fault?_eq_of_like : one.fault? = two.fault? := by
  have same (i : Instruction) : i.fault? one.cpu = i.fault? two.cpu := by
    cases i <;> simp only [Instruction.fault?, cpu.v, cpu.i, cpu.sp]
  rw [fault?, fault?, cpu.pc, word_eq_of_like cpu bus, same]

theorem fetchLog_eq_of_like : one.fetchLog = two.fetchLog := by
  simp only [fetchLog, cpu.pc, byteAt_eq_of_clearLog bus]

theorem like_fetched : one.fetched.Like l two.fetched where
  cpu := cpu
  bus := by
    change { one.bus.clearLog with log := one.fetchLog }
      = { two.bus.clearLog with log := two.fetchLog }
    rw [bus, fetchLog_eq_of_like cpu bus]

theorem like_behind : one.behind.Like l two.behind where
  cpu := cpu.jump (by rw [cpu.pc])
  bus := (like_fetched cpu bus).bus

end Sides

end Core

/-- What is to be seen of a step: what its fetch gave, the word that was executed or the fault that
stopped it, and its accesses to the bus, which a failed step leaves in the log. -/
structure Observation where
  fetched : Except Fault Opcode
  ended : Except Fault Opcode
  accesses : Array Access

namespace Machine

def observe (m : Machine) : Observation where
  fetched := (m.toCore.withBus m.bus.clearLog).fetch.result
  ended := m.step.result.map Snapshot.opcode
  accesses :=
    match m.step with
    | ⟨.ok snapshot, _⟩ => snapshot.accesses
    | ⟨.error _, last⟩ => last.bus.log

variable {l : Likeness} {m n : Machine}

/-- What a fetch gives depends on the counter and the word alone. -/
theorem fetched_eq_of_like (wf : m.toCore.WellFormed) (wf' : n.toCore.WellFormed)
    (cpu : m.cpu.Like l n.cpu) (bus : m.bus.clearLog = n.bus.clearLog) :
    m.observe.fetched = n.observe.fetched := by
  have word : m.toCore.word = n.toCore.word := Core.word_eq_of_like cpu bus
  by_cases inside : m.cpu.pc ≤ 0xFFE
  · rw [observe, observe, Core.fetch_inside wf inside,
      Core.fetch_inside wf' (by rw [← cpu.pc]; exact inside), word]
    rfl
  · have beyond : 0xFFE < m.cpu.pc := by omega
    rw [observe, observe, Core.fetch_beyond wf beyond,
      Core.fetch_beyond wf' (by rw [← cpu.pc]; exact beyond), cpu.pc]
    rfl

theorem observe_of_fault {f : Fault} {last : Machine} (stopped : m.step = .fault f last) :
    m.observe = ⟨m.observe.fetched, .error f, last.bus.log⟩ := by
  simp only [observe, stopped]
  rfl

theorem observe_of_done {snapshot : Snapshot} {last : Machine}
    (ended : m.step = .done snapshot last) :
    m.observe = ⟨m.observe.fetched, .ok snapshot.opcode, snapshot.accesses⟩ := by
  simp only [observe, ended]
  rfl

/-- The steps of two machines that are alike are observed as the same, and leave the machines
alike. -/
theorem steps_like (wf : m.toCore.WellFormed) (wf' : n.toCore.WellFormed)
    (cpu : m.cpu.Like l n.cpu) (bus : m.bus.clearLog = n.bus.clearLog)
    (kept : m.toCore.fault? = none → l.KeptBy m.toCore.word.decode) :
    m.observe = n.observe ∧ ∃ (one two : Cpu) (shared : Bus) (completed : Nat), one.Like l two ∧
      m.step.state = { m with cpu := one, bus := shared, cycles := m.cycles + completed } ∧
      n.step.state = { n with cpu := two, bus := shared, cycles := n.cycles + completed } := by
  have fetched := fetched_eq_of_like wf wf' cpu bus
  have faults : m.toCore.fault? = n.toCore.fault? := Core.fault?_eq_of_like cpu bus
  cases fault : m.toCore.fault? with
  | some f =>
    have first := step_fault wf fault
    have second := step_fault wf' (faults.symm.trans fault)
    have buses : m.toCore.fetched.bus = n.toCore.fetched.bus := (Core.like_fetched cpu bus).bus
    refine ⟨?_, m.cpu, n.cpu, m.toCore.fetched.bus, 0, cpu, ?_, ?_⟩
    · rw [observe_of_fault first, observe_of_fault second, fetched]
      exact congrArg (fun bus : Bus => (⟨_, _, bus.log⟩ : Observation)) buses
    · rw [first]
      rfl
    · rw [second, buses]
      rfl
  | none =>
    obtain ⟨core, executed, _, first⟩ := step_done wf fault
    obtain ⟨core', executed', _, second⟩ := step_done wf' (faults.symm.trans fault)
    have word : m.toCore.word = n.toCore.word := Core.word_eq_of_like cpu bus
    have both := Core.matches_execute (Core.like_behind cpu bus) (kept fault)
    rw [executed, word, executed'] at both
    obtain ⟨_, cpus, buses⟩ := both
    have shared : core.bus = core'.bus := buses
    refine ⟨?_, core.cpu, core'.cpu, core.bus.clearLog, 1, cpus, ?_, ?_⟩
    · rw [observe_of_done first, observe_of_done second, fetched]
      dsimp only
      rw [word, shared]
    · rw [first]
      rfl
    · rw [second, shared]
      rfl

end Machine

end Chip8
