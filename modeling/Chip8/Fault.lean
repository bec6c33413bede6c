import Chip8.Text.Hex

/-!
Faults: what can stop a memory access or an instruction. Those that concern an index outside its
range are bounds faults; they halt a session, and a step that meets one takes its program counter
back.
-/

namespace Chip8

def memorySize : Nat := 0x1000

def stackDepth : Nat := 16

inductive Fault where
  | memory (address size : Int)
  | stackOverflow (depth : Int)
  | stackUnderflow
  | keypad (key : Int)
  | notByte (data : Int)
  /-- A slot that a container does not have, such as a stack entry below the bottom. -/
  | noSlot
deriving DecidableEq, Repr

namespace Fault

def unmapped (address : Int) : Fault :=
  .memory address memorySize

def isBounds : Fault → Bool
  | memory _ _ | stackOverflow _ | stackUnderflow | keypad _ => true
  | notByte _ | noSlot => false

def message : Fault → String
  | memory address size =>
    "Address " ++ Text.Hex.marked 6 address ++ " out of bounds for memory of size "
      ++ Text.Hex.marked 6 size ++ "."
  | stackOverflow depth =>
    "Stack overflow: depth " ++ toString depth ++ " at capacity " ++ toString stackDepth ++ "."
  | stackUnderflow => "Stack underflow: return with empty stack."
  | keypad key => "Key index " ++ Text.Hex.marked 4 key ++ " out of range (0x0-0xF)."
  | notByte data => "Data " ++ toString data ++ " is not an 8-bit value."
  | noSlot => ""

end Fault

/-- What is left of an action on a state: its value or the fault that stopped it, and the state at
its end, which also a stopped action leaves behind. -/
structure Outcome (σ α : Type) where
  result : Except Fault α
  state : σ

namespace Outcome

variable {σ τ α β : Type}

def done (a : α) (s : σ) : Outcome σ α :=
  ⟨.ok a, s⟩

def fault (f : Fault) (s : σ) : Outcome σ α :=
  ⟨.error f, s⟩

def andThen (o : Outcome σ α) (next : α → σ → Outcome σ β) : Outcome σ β :=
  match o with
  | ⟨.ok a, s⟩ => next a s
  | ⟨.error f, s⟩ => ⟨.error f, s⟩

def onState (o : Outcome σ α) (put : σ → τ) : Outcome τ α :=
  ⟨o.result, put o.state⟩

@[simp] theorem andThen_done (a : α) (s : σ) (next : α → σ → Outcome σ β) :
    (done a s).andThen next = next a s := rfl

@[simp] theorem andThen_fault (f : Fault) (s : σ) (next : α → σ → Outcome σ β) :
    (fault f s : Outcome σ α).andThen next = fault f s := rfl

@[simp] theorem onState_done (a : α) (s : σ) (put : σ → τ) :
    (done a s).onState put = done a (put s) := rfl

@[simp] theorem onState_fault (f : Fault) (s : σ) (put : σ → τ) :
    (fault f s : Outcome σ α).onState put = fault f (put s) := rfl

theorem exists_of_andThen {o : Outcome σ α} {next : α → σ → Outcome σ β} {b : β} {t : σ}
    (ended : o.andThen next = done b t) : ∃ a s, o = done a s ∧ next a s = done b t := by
  obtain ⟨result, s⟩ := o
  cases result with
  | error f => cases congrArg result ended
  | ok a => exact ⟨a, s, rfl, ended⟩

theorem exists_of_onState {o : Outcome σ α} {put : σ → τ} {a : α} {t : τ}
    (ended : o.onState put = done a t) : ∃ s, o = done a s ∧ put s = t := by
  obtain ⟨result, s⟩ := o
  cases ended
  exact ⟨s, rfl, rfl⟩

end Outcome

end Chip8
