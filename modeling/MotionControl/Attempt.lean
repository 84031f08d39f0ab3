import MotionControl.Fault

/-!
# Attempts

A command works on a state in place: it reads and changes it step by step, and may be refused on
the way. A refusal takes nothing back, so a command that is to have no effect when it is refused
has to make its tests before its changes.
-/

namespace MotionControl

/-- A command on a state of type `σ`. A refused one leaves the state as it was changed so far. -/
abbrev Attempt (σ : Type) := EStateM Refusal σ

namespace Attempt

variable {σ τ α : Type}

/-- Refuses unless a condition holds. -/
def require (condition : Bool) (refusal : Refusal) : Attempt σ Unit :=
  if condition then pure () else throw refusal

/-- Works on a part of the state, which is stored back whether or not the work was refused. -/
def onPart (part : σ → τ) (store : τ → σ → σ) (attempt : Attempt τ α) : Attempt σ α := fun state =>
  match attempt.run (part state) with
  | .ok value p => .ok value (store p state)
  | .error refusal p => .error refusal (store p state)

/-- The state after the command, or why it is refused. -/
def outcome (attempt : Attempt σ Unit) (state : σ) : Except Refusal σ :=
  match attempt.run state with
  | .ok () state => .ok state
  | .error refusal _ => .error refusal

end Attempt

end MotionControl
