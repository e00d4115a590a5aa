import Enrolment.Interaction
import Enrolment.Retry

/-!
# Enrolment.Attempts

Repeating an attempt until it succeeds or no attempt is left. Between two attempts one random number
is drawn and one pause is made; after the last attempt, neither. The loop has no bound of its own:
it goes on until the counter of failed attempts reports exhaustion, or a draw fails.
-/

namespace Enrolment

/-- Why repeating an attempt came to nothing. -/
inductive AttemptsError (ε : Type)
  /-- The last attempt allowed failed. -/
  | exhausted (attempts : UInt32) (last : ε)
  | noEntropy (reason : String)
  deriving DecidableEq, Repr

/-- Makes attempts from a counter on. An attempt is told how many have failed before, and may change
a state. -/
@[semireducible]
def attemptFrom {σ ε α : Type} (attempt : UInt32 → σ → Interaction (σ × Except ε α)) (r : Retry)
    (s : σ) : Interaction (σ × Except (AttemptsError ε) α) := do
  let (s, outcome) ← attempt r.attemptsDone s
  match outcome with
  | .ok a => return (s, .ok a)
  | .error last =>
    match ← r.advance (Interaction.perform .draw) with
    | ⟨.ok ms, later, _⟩ =>
      Interaction.perform (.pause ms)
      attemptFrom attempt later s
    | ⟨.error (.exhausted attempts), _, _⟩ => return (s, .error (.exhausted attempts last))
    | ⟨.error (.noEntropy reason), _, _⟩ => return (s, .error (.noEntropy reason))
termination_by r.left
decreasing_by
  -- A pause is behind, so that fewer attempts are left.
  rename_i fewer
  exact fewer rfl

/-- Repeats an attempt under a policy. There is always a first attempt. -/
def attemptUnder {σ ε α : Type} (policy : RetryPolicy)
    (attempt : UInt32 → σ → Interaction (σ × Except ε α)) (s : σ) :
    Interaction (σ × Except (AttemptsError ε) α) :=
  attemptFrom attempt (.start policy) s

end Enrolment
