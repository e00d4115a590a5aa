/-!
# Enrolment.Retry

Repeating a failed attempt after a pause drawn at random from a window that doubles with every
attempt, up to a limit. Each repeated operation has a `Retry` of its own, which counts its failed
attempts. `Retry.advance` is called after a failure: it reports exhaustion when no further attempt
is allowed, and then draws nothing; otherwise it draws, and places the pause inside the window.

* `windowMs_le_max`: a window is never longer than the policy's limit.
* `delay_le_windowMs`: a pause lies inside its window.
* `left_record`: a failure that is counted leaves one attempt less.
-/

namespace Enrolment

/-- How often and how long to retry. Delays are in milliseconds. -/
structure RetryPolicy where
  maxAttempts : UInt32
  baseDelayMs : UInt64
  maxDelayMs : UInt64
  deriving DecidableEq, Repr

/-- Five attempts, with windows of 500 ms, 1 s, 2 s and 4 s between them. -/
def RetryPolicy.standard : RetryPolicy := ⟨5, 500, 5000⟩

/-- The failed attempts of one operation, counted under a policy. -/
structure Retry where
  policy : RetryPolicy
  attemptsDone : UInt32
  deriving DecidableEq, Repr

inductive RetryError
  | exhausted (attempts : UInt32)
  | noEntropy (reason : String)
  deriving DecidableEq, Repr

def entropyMessage (reason : String) : String := "entropy source unavailable: " ++ reason

def RetryError.message : RetryError → String
  | exhausted attempts => s!"retries exhausted after {attempts.toNat} attempts"
  | noEntropy reason => entropyMessage reason

/-- The greatest 64-bit number, at which products and sums of delays stop. -/
def maxWord : Nat := 0xffffffffffffffff

namespace Retry

def start (policy : RetryPolicy) : Retry := ⟨policy, 0⟩

/-- The longest pause before the next attempt: the base delay, doubled for each attempt done, but
no longer than the limit. Factor and product stop at `maxWord`. -/
def windowMs (r : Retry) : Nat :=
  let factor := if r.attemptsDone.toNat < 64 then 1 <<< r.attemptsDone.toNat else maxWord
  min (min (r.policy.baseDelayMs.toNat * factor) maxWord) r.policy.maxDelayMs.toNat

/-- Whether the attempt that just failed was the last one allowed. -/
def isExhausted (r : Retry) : Bool := r.policy.maxAttempts.toNat ≤ r.attemptsDone.toNat + 1

def exhaust (r : Retry) : Retry := { r with attemptsDone := r.policy.maxAttempts }

/-- The failed attempt is counted. -/
def record (r : Retry) : Retry := { r with attemptsDone := r.attemptsDone + 1 }

/-- The pause for a draw: its remainder by the number of milliseconds in the window, ends included.
-/
def delay (r : Retry) (draw : UInt64) : Nat := draw.toNat % min (r.windowMs + 1) maxWord

/-- How many attempts are left behind the one that is being made. -/
def left (r : Retry) : Nat := r.policy.maxAttempts.toNat - (r.attemptsDone.toNat + 1)

theorem not_isExhausted_iff {r : Retry} :
    ¬ r.isExhausted ↔ r.attemptsDone.toNat + 1 < r.policy.maxAttempts.toNat := by
  rw [isExhausted, decide_eq_true_eq, Nat.not_le]

/-- One more failure is counted without overflow. -/
theorem toNat_attemptsDone_succ {r : Retry}
    (h : r.attemptsDone.toNat + 1 < r.policy.maxAttempts.toNat) :
    (r.attemptsDone + 1).toNat = r.attemptsDone.toNat + 1 := by
  have := r.policy.maxAttempts.toNat_lt
  rw [UInt32.toNat_add, UInt32.toNat_one]
  exact Nat.mod_eq_of_lt (by omega)

theorem left_record {r : Retry} (h : ¬ r.isExhausted) : r.record.left + 1 = r.left := by
  have hmore := not_isExhausted_iff.1 h
  have hcount := toNat_attemptsDone_succ hmore
  simp only [left, record, hcount]
  omega

/-- What follows a failed attempt: the pause before the next one, or the reason why there is none,
and the counter after it. A pause leaves fewer attempts. -/
structure Advance (r : Retry) where
  result : Except RetryError Nat
  after : Retry
  fewer : result.isOk → after.left < r.left

def Advance.pair {r : Retry} (a : r.Advance) : Except RetryError Nat × Retry := (a.result, a.after)

/-- Counts a failed attempt, and finds the pause before the next one. A random number is drawn only
if another attempt is allowed; if the draw fails, nothing is counted. -/
def advance {m : Type → Type} [Monad m] (r : Retry) (draw : m (Except String UInt64)) :
    m r.Advance :=
  if h : r.isExhausted then
    return ⟨.error (.exhausted r.policy.maxAttempts), r.exhaust, nofun⟩
  else do
    match ← draw with
    | .error reason => return ⟨.error (.noEntropy reason), r, nofun⟩
    | .ok n => return ⟨.ok (r.delay n), r.record, fun _ => Nat.le_of_eq (left_record h)⟩

/-- What follows a failed attempt if `draw` is what a draw would give. -/
def advanced (r : Retry) (draw : Except String UInt64) : r.Advance := Id.run (r.advance (pure draw))

/-- The result and the counter of `advanced`. -/
def next (r : Retry) (draw : Except String UInt64) : Except RetryError Nat × Retry :=
  (r.advanced draw).pair

section Draws

variable {m : Type → Type} [Monad m] {r : Retry}

/-- Without an attempt left, nothing is drawn. -/
theorem advance_of_isExhausted (h : r.isExhausted) (draw : m (Except String UInt64)) :
    r.advance draw =
      pure ⟨.error (.exhausted r.policy.maxAttempts), r.exhaust, nofun⟩ := dif_pos h

/-- With an attempt left, there is one draw. -/
theorem advance_of_not_isExhausted (h : ¬ r.isExhausted) (draw : m (Except String UInt64)) :
    r.advance draw = (do return r.advanced (← draw)) := by
  rw [advance, dif_neg h]
  congr
  funext d
  rw [advanced, advance, dif_neg h]
  cases d <;> rfl

theorem advanced_ok (h : ¬ r.isExhausted) (n : UInt64) :
    r.advanced (.ok n) =
      ⟨.ok (r.delay n), r.record, fun _ => Nat.le_of_eq (left_record h)⟩ := by
  rw [advanced, advance, dif_neg h]
  rfl

theorem advanced_error (h : ¬ r.isExhausted) (reason : String) :
    r.advanced (.error reason) = ⟨.error (.noEntropy reason), r, nofun⟩ := by
  rw [advanced, advance, dif_neg h]
  rfl

end Draws

theorem windowMs_le_max (r : Retry) : r.windowMs ≤ r.policy.maxDelayMs.toNat :=
  Nat.min_le_right _ _

theorem delay_le_windowMs (r : Retry) (draw : UInt64) : r.delay draw ≤ r.windowMs := by
  have h : r.delay draw < min (r.windowMs + 1) maxWord :=
    Nat.mod_lt _ (by simp only [maxWord]; omega)
  omega

end Retry

end Enrolment
