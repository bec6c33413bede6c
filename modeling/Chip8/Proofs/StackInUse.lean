import Mathlib.Data.List.Forall2
import Chip8.Proofs.Calls
import Chip8.Proofs.Restart

/-! The stack in use. A push overwrites the entry that it brings into use, and a pop reads the last
entry in use. So the stale entries at and above the depth are never seen: two machines that differ
in them alone answer every event alike, and differ in them alone ever after. That holds of any
registers, counters and stack pointers, and over any map. -/

namespace Chip8

/-- Of the stacks the entries below the depth correspond. -/
def Likeness.inUse : Likeness where
  stack depth one two := ∀ k : Fin 16, k.val < depth → one.get k = two.get k

theorem Cpu.eq_of_stackSlot? {n : Int} {slot : Fin 16} (low : 0 ≤ n)
    (found : stackSlot? n = some slot) : n = slot.val := by
  unfold stackSlot? at found
  split at found
  · cases found
    exact (Int.toNat_of_nonneg low).symm
  · split at found
    · omega
    · contradiction

theorem Likeness.inUse_keptBy (i : Instruction) : inUse.KeptBy i :=
  { equal_keptBy i with
    push := by
      intro _ depth slot address one two found same k below
      rw [get_setIfInBounds, get_setIfInBounds]
      split
      · rfl
      · rename_i other
        have low : 0 ≤ depth := by omega
        have top := Cpu.eq_of_stackSlot? low found
        have apart : k.val ≠ slot.val := fun e => other (Fin.ext e)
        exact same k (by omega)
    pop := by
      intro _ depth one two filled same
      refine ⟨fun k below => same k (by omega), ?_⟩
      intro slot found
      have top := Cpu.eq_of_stackSlot? (by omega) found
      exact same slot (by omega) }

theorem Cpu.Like.inUse_refl (cpu : Cpu) : cpu.Like .inUse cpu := by
  constructor <;> first | rfl | exact fun _ _ => rfl

/-- Two snapshots show the same step: the word that was executed, its symbol, the cycle count and
the accesses to the bus; and their processors are alike. -/
structure Snapshot.Like (l : Likeness) (s t : Snapshot) : Prop where
  opcode : s.opcode = t.opcode
  address : s.address = t.address
  symbol : s.symbol = t.symbol
  cycles : s.cycles = t.cycles
  accesses : s.accesses = t.accesses
  cpu : s.cpu.Like l t.cpu

/-- Two answers to an event are the same, but for what snapshots hold of processors. -/
inductive Answer.Like (l : Likeness) : Answer → Answer → Prop where
  | snapshot {s t : Snapshot} (like : s.Like l t) :
      Answer.Like l (.stepped (.ok s)) (.stepped (.ok t))
  | fault (f : Fault) : Answer.Like l (.stepped (.error f)) (.stepped (.error f))
  | frame (picture? : Option Display) : Answer.Like l (.frame picture?) (.frame picture?)
  | silent : Answer.Like l .silent .silent

namespace Machine

/-- Two machines that are the same but for stale stack entries. -/
structure SameInUse (m n : Machine) : Prop where
  cpu : m.cpu.Like .inUse n.cpu
  bus : m.bus = n.bus
  seed : m.seed = n.seed
  cycles : m.cycles = n.cycles
  ticks : m.ticks = n.ticks

namespace SameInUse

variable {m n : Machine}

theorem withCpu (same : m.SameInUse n) {cpu other : Cpu} (like : cpu.Like .inUse other) :
    (m.withCpu cpu).SameInUse (n.withCpu other) :=
  { same with cpu := like }

theorem withBus (same : m.SameInUse n) {bus other : Bus} (equal : bus = other) :
    (m.withBus bus).SameInUse (n.withBus other) :=
  { same with bus := equal }

theorem step (same : m.SameInUse n) :
    (Answer.stepped m.step.result).Like .inUse (.stepped n.step.result) ∧
      m.step.state.SameInUse n.step.state := by
  have both := Core.matches_step same.cpu (congrArg Bus.clearLog same.bus) Likeness.inUse_keptBy
  have pc : m.cpu.pc = n.cpu.pc := same.cpu.pc
  rw [Machine.step, Machine.step]
  generalize m.toCore.step = one at both ⊢
  generalize n.toCore.step = two at both ⊢
  obtain ⟨result, core⟩ := one
  obtain ⟨_, other⟩ := two
  obtain ⟨results, cpu, bus⟩ := both
  cases results
  cases result with
  | error f => exact ⟨.fault f, cpu, bus, same.seed, same.cycles, same.ticks⟩
  | ok op =>
    have cycles : m.cycles + 1 = n.cycles + 1 := congrArg (· + 1) same.cycles
    have symbol : Text.Hex.upper 3 m.cpu.pc ++ ": " ++ op.decode.text
        = Text.Hex.upper 3 n.cpu.pc ++ ": " ++ op.decode.text := by rw [pc]
    refine ⟨.snapshot ⟨rfl, pc, symbol, cycles, congrArg Bus.log bus, cpu⟩, ?_⟩
    exact ⟨cpu, congrArg Bus.clearLog bus, same.seed, cycles, same.ticks⟩

theorem given (same : m.SameInUse n) (random : Generator) :
    (m.given random).SameInUse (n.given random) := by
  rw [Machine.given, Machine.given, same.seed]
  split
  · exact same
  · exact same.withCpu { same.cpu with random := rfl }

theorem accessed (same : m.SameInUse n) {one two : Except Fault Bus} (equal : one = two) :
    (m.accessed one).SameInUse (n.accessed two) := by
  subst equal
  cases one with
  | error f => exact same
  | ok bus => exact same.withBus rfl

theorem after (same : m.SameInUse n) (event : Event) :
    (m.answer event).Like .inUse (n.answer event) ∧ (m.after event).SameInUse (n.after event) := by
  have cpu := same.cpu
  cases event with
  | step => exact same.step
  | tick =>
    have ticked : m.cpu.tick.Like .inUse n.cpu.tick :=
      { cpu with
        dt := congrArg (fun dt : Int => if 0 < dt then dt - 1 else dt) cpu.dt
        st := congrArg (fun st : Int => if 0 < st then st - 1 else st) cpu.st }
    exact ⟨.silent, { same with cpu := ticked, ticks := congrArg (· + 1) same.ticks }⟩
  | setKey key held =>
    rw [after_setKey, after_setKey]
    have keys : m.cpu.keys = n.cpu.keys := cpu.keys
    have pressed : m.cpu.keys.setIfInBounds key.val held
        = n.cpu.keys.setIfInBounds key.val held := by rw [keys]
    exact ⟨.silent, same.withCpu { cpu with keys := pressed }⟩
  | takeFrame =>
    have redraw : m.cpu.redraw = n.cpu.redraw := cpu.redraw
    rw [Machine.after, Machine.after, answer, answer, takeFrame_eq, takeFrame_eq, redraw,
      cpu.display]
    exact ⟨.frame _, same.withCpu { cpu with redraw := rfl }⟩
  | reset random =>
    have cpus : m.reset.cpu = n.reset.cpu := by rw [Machine.reset, Machine.reset, same.seed]
    have reset : m.reset.SameInUse n.reset := by
      refine ⟨?_, same.bus, same.seed, rfl, same.ticks⟩
      rw [cpus]
      exact .inUse_refl _
    exact ⟨.silent, reset.given random⟩
  | load address byte => exact ⟨.silent, same.accessed (by rw [same.bus])⟩
  | write address byte => exact ⟨.silent, same.accessed (by rw [same.bus])⟩

end SameInUse

variable {m n : Machine}

/-- Stale stack entries are never seen. Two machines that are the same but for entries at and above
the depth give the same answer to every event of a run: the same operations, symbols and accesses,
the same faults and the same frames. After any events they are again the same but for stale
entries. -/
theorem stale_entries_unseen (same : m.SameInUse n) (events : List Event) :
    List.Forall₂ (Answer.Like .inUse) (m.answers events) (n.answers events) ∧
      (m.afterAll events).SameInUse (n.afterAll events) := by
  induction events generalizing m n with
  | nil => exact ⟨.nil, same⟩
  | cons event rest ih =>
    obtain ⟨now, next⟩ := same.after event
    obtain ⟨later, last⟩ := ih next
    exact ⟨.cons now later, last⟩

/-- A program that calls a subroutine, with another stale address in the entry that the call fills.
The answers are the same, and behind the call the entry is too. -/
theorem stale_entries_unseen_overwritten :
    ∃ m n : Machine, m.cpu.stack.get 0 = 0 ∧ n.cpu.stack.get 0 = 0x300 ∧ m.SameInUse n ∧
      List.Forall₂ (Answer.Like .inUse) (m.answers [.step, .tick, .step])
        (n.answers [.step, .tick, .step]) ∧
      (m.after .step).cpu.sp = 1 ∧
      (n.after .step).cpu.stack.get 0 = (m.after .step).cpu.stack.get 0 := by
  have fits : ([0x22, 0x02, 0x00, 0xEE] : Program).length ≤ maxProgramSize := by decide
  have wf := (reachable_ofBus fits 0).wellFormed
  have call : Opcode.decode 0x2202 = .call 0x202 := by decide
  have calls : Opcode.ofBytes 0x22 0x02 = 0x2202 := by decide
  generalize start : ofBus (.holding (Memory.image [0x22, 0x02, 0x00, 0xEE]) #[]) (some 0) = m
    at wf
  obtain ⟨one, called, core, ended, isCall, done⟩ :=
    exists_executed_of_image wf fits (by rw [← start]; rfl) (k := 0) (by rw [← start]; rfl)
      (by decide) call calls (by rw [← start]; rfl)
  obtain ⟨slot, depth, deeper, _⟩ := of_called wf ended (congrArg Instruction.form isCall)
  have empty : m.cpu.sp = 0 := by
    rw [← start]
    rfl
  have zero : m.cpu.stack.get 0 = 0 := by
    rw [← start]
    rfl
  let stale : Cpu := { m.cpu with stack := m.cpu.stack.setIfInBounds 0 0x300 }
  have same : m.SameInUse (m.withCpu stale) := by
    refine ⟨{ Cpu.Like.inUse_refl m.cpu with stack := ?_ }, rfl, rfl, rfl, rfl⟩
    intro k below
    omega
  have answers := (stale_entries_unseen same [.step, .tick, .step]).1
  have stepped := (stale_entries_unseen same [.step]).2
  have state : m.after .step = called := congrArg Outcome.state ended
  have one : (m.after .step).cpu.sp = 1 := by
    rw [state]
    omega
  have filled := stepped.cpu.stack 0 (by
    change (0 : Int) < (m.after .step).cpu.sp
    omega)
  have set : stale.stack.get 0 = 0x300 := get_setIfInBounds m.cpu.stack 0 0 0x300
  exact ⟨m, m.withCpu stale, zero, set, same, answers, one, filled.symm⟩

end Machine

end Chip8
