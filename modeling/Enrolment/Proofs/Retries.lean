import Enrolment.Retry
import Mathlib.Algebra.Group.Nat.Defs
import Mathlib.Data.List.Induction

/-!
# Enrolment.Proofs.Retries

The windows that pauses are drawn in, and the counter of failed attempts after any calls. A window
is what the doubling says, in numbers of any size: no stop at the greatest 64-bit number can be seen
in it. A counter hands out one pause for each draw that comes to something, until the attempts that
are left are used up; from then on it refuses, whatever a draw would say.

* `Retry.windowMs_eq`, `Retry.pauses_lie_in_window`: the window, and the pause in it.
* `Retry.Counted.next`: what one call does to the counter.
* `Retry.calls_are_counted`: any number of calls on a new counter.
-/

namespace Enrolment

/-! ## Windows -/

namespace RetryPolicy

/-- The longest pause behind a failure, after `failed` failures before it, in milliseconds. -/
def window (policy : RetryPolicy) (failed : Nat) : Nat :=
  min (policy.baseDelayMs.toNat * 2 ^ failed) policy.maxDelayMs.toNat

/-- A draw, reduced into the window. There are no more remainders than 64-bit numbers. -/
def pauseFor (policy : RetryPolicy) (failed : Nat) (draw : UInt64) : Nat :=
  draw.toNat % min (policy.window failed + 1) 0xffffffffffffffff

theorem pauseFor_le_window (policy : RetryPolicy) (failed : Nat) (draw : UInt64) :
    policy.pauseFor failed draw ≤ policy.window failed := by
  have h : policy.pauseFor failed draw < min (policy.window failed + 1) 0xffffffffffffffff :=
    Nat.mod_lt _ (by omega)
  omega

theorem window_mono (policy : RetryPolicy) {failed more : Nat} (h : failed ≤ more) :
    policy.window failed ≤ policy.window more := by
  have hdoubled : policy.baseDelayMs.toNat * 2 ^ failed ≤ policy.baseDelayMs.toNat * 2 ^ more :=
    Nat.mul_le_mul_left _ (Nat.pow_le_pow_right (by decide) h)
  rw [window, window]
  omega

/-- How many pauses a policy allows: one behind each attempt but the last. -/
def pauses (policy : RetryPolicy) : Nat := max 1 policy.maxAttempts.toNat - 1

/-- What a call comes to when no attempt is left. -/
def refusal (policy : RetryPolicy) : Except RetryError Nat :=
  .error (.exhausted policy.maxAttempts)

end RetryPolicy

namespace Retry

/-- Where factor or product would stop at the greatest 64-bit number, the limit is in force. -/
theorem windowMs_eq (r : Retry) : r.windowMs = r.policy.window r.attemptsDone.toNat := by
  have hmax : r.policy.maxDelayMs.toNat ≤ maxWord := Nat.le_of_lt_succ r.policy.maxDelayMs.toNat_lt
  rw [windowMs, RetryPolicy.window]
  split
  · rw [Nat.one_shiftLeft, Nat.min_assoc, Nat.min_eq_right hmax]
  · next hmany =>
    obtain hbase | hbase := Nat.eq_zero_or_pos r.policy.baseDelayMs.toNat
    · simp [hbase]
    · have hfactor : maxWord ≤ 2 ^ r.attemptsDone.toNat := by
        calc maxWord ≤ 2 ^ 64 := by decide
          _ ≤ 2 ^ r.attemptsDone.toNat := Nat.pow_le_pow_right (by decide) (Nat.not_lt.1 hmany)
      have hstopped : maxWord ≤ r.policy.baseDelayMs.toNat * maxWord :=
        Nat.le_mul_of_pos_left _ hbase
      have hproduct : maxWord ≤ r.policy.baseDelayMs.toNat * 2 ^ r.attemptsDone.toNat :=
        Nat.le_trans hfactor (Nat.le_mul_of_pos_left _ hbase)
      omega

theorem delay_eq (r : Retry) (draw : UInt64) :
    r.delay draw = r.policy.pauseFor r.attemptsDone.toNat draw := by
  rw [delay, windowMs_eq]
  rfl

/-! ## Calls -/

/-- The number of a failure tells whether another attempt is allowed. -/
theorem next_of_lt {r : Retry} (h : r.attemptsDone.toNat + 1 < r.policy.maxAttempts.toNat) :
    (∀ draw : UInt64, r.next (.ok draw) = (.ok (r.policy.pauseFor r.attemptsDone.toNat draw),
        { r with attemptsDone := r.attemptsDone + 1 })) ∧
      ∀ reason, r.next (.error reason) = (.error (.noEntropy reason), r) := by
  have hmore : ¬ r.isExhausted := not_isExhausted_iff.2 h
  refine ⟨fun draw => ?_, fun reason => ?_⟩
  · rw [next, advanced_ok hmore, ← delay_eq]
    rfl
  · rw [next, advanced_error hmore]
    rfl

theorem next_of_le {r : Retry} (h : r.policy.maxAttempts.toNat ≤ r.attemptsDone.toNat + 1)
    (draw : Except String UInt64) :
    r.next draw = (r.policy.refusal, r.exhaust) := by
  rw [next, advanced, advance_of_isExhausted (decide_eq_true h)]
  rfl

/-- The window in numbers of any size, and the pause that a call finds in it: the remainder of its
draw by the number of milliseconds in the window, ends included, or by the greatest 64-bit number
if there is one millisecond more than that. -/
theorem pauses_lie_in_window (r : Retry) :
    r.windowMs = min (r.policy.baseDelayMs.toNat * 2 ^ r.attemptsDone.toNat)
        r.policy.maxDelayMs.toNat ∧
      r.windowMs ≤ r.policy.maxDelayMs.toNat ∧
      (∀ r' : Retry, r'.policy = r.policy → r.attemptsDone ≤ r'.attemptsDone →
        r.windowMs ≤ r'.windowMs) ∧
      ∀ draw ms r', r.next draw = (.ok ms, r') →
        ∃ n : UInt64, draw = .ok n ∧ 0 < min (r.windowMs + 1) maxWord ∧
          ms = n.toNat % min (r.windowMs + 1) maxWord ∧ ms ≤ r.windowMs ∧
          (r.windowMs < maxWord → ms = n.toNat % (r.windowMs + 1)) := by
  refine ⟨r.windowMs_eq, r.windowMs_le_max, fun r' hpolicy hdone => ?_, fun draw ms r' h => ?_⟩
  · rw [windowMs_eq, windowMs_eq, hpolicy]
    exact r.policy.window_mono (UInt32.le_iff_toNat_le.1 hdone)
  · by_cases hmore : r.attemptsDone.toNat + 1 < r.policy.maxAttempts.toNat
    · obtain ⟨hdrawn, hnone⟩ := next_of_lt hmore
      cases draw with
      | error reason => rw [hnone] at h; cases h
      | ok n =>
        obtain ⟨hms, -⟩ := Prod.mk.inj ((hdrawn n).symm.trans h)
        have hms : ms = r.delay n := by rw [delay_eq]; exact (Except.ok.inj hms).symm
        refine ⟨n, rfl, ?_, hms, hms ▸ r.delay_le_windowMs n, fun hlt => ?_⟩
        · simp only [maxWord]
          omega
        · rw [hms, delay, Nat.min_eq_left hlt]
    · rw [next_of_le (Nat.not_lt.1 hmore)] at h
      cases h

/-- Calls one after the other, each with the draw that is there for it: their results in order, and
the counter behind them. -/
def nextAll (r : Retry) (draws : List (Except String UInt64)) :
    List (Except RetryError Nat) × Retry :=
  draws.foldl (fun (results, r) draw => (results ++ [(r.next draw).1], (r.next draw).2)) ([], r)

theorem nextAll_append_singleton (r : Retry) (draws : List (Except String UInt64))
    (draw : Except String UInt64) :
    r.nextAll (draws ++ [draw]) =
      ((r.nextAll draws).1 ++ [((r.nextAll draws).2.next draw).1],
        ((r.nextAll draws).2.next draw).2) := List.foldl_append

/-- What a counter knows of the draws and the results so far. -/
structure Counted (policy : RetryPolicy) (draws : List (Except String UInt64))
    (results : List (Except RetryError Nat)) (r : Retry) : Prop where
  of : r.policy = policy
  paused : results.countP Except.isOk = min (draws.countP Except.isOk) policy.pauses
  done : r.attemptsDone.toNat =
    if policy.refusal ∈ results then policy.maxAttempts.toNat
    else results.countP Except.isOk
  spent : policy.refusal ∈ results →
    results.countP Except.isOk = policy.pauses

namespace Counted

variable {policy : RetryPolicy} {draws : List (Except String UInt64)}
  {results : List (Except RetryError Nat)} {r : Retry}

theorem start (policy : RetryPolicy) : Counted policy [] [] (.start policy) :=
  ⟨rfl, (Nat.zero_min _).symm, rfl, nofun⟩

/-- The attempts are used up when as many pauses have been made as are allowed. -/
theorem exhausted_iff (h : Counted policy draws results r) :
    r.policy.maxAttempts.toNat ≤ r.attemptsDone.toNat + 1 ↔
      results.countP Except.isOk = policy.pauses := by
  have hpaused := h.paused
  have hdone := h.done
  rw [h.of]
  simp only [RetryPolicy.pauses] at hpaused ⊢
  split at hdone
  · next hmem =>
    have hspent := h.spent hmem
    simp only [RetryPolicy.pauses] at hspent
    omega
  · omega

/-- While attempts are left, nothing has been refused, and the counter counts pauses. -/
theorem of_left (h : Counted policy draws results r)
    (hleft : results.countP Except.isOk ≠ policy.pauses) :
    policy.refusal ∉ results ∧
      r.attemptsDone.toNat = results.countP Except.isOk ∧
      r.attemptsDone.toNat + 1 < r.policy.maxAttempts.toNat := by
  have hnone : policy.refusal ∉ results := fun hmem => hleft (h.spent hmem)
  have hmore : ¬ r.policy.maxAttempts.toNat ≤ r.attemptsDone.toNat + 1 :=
    fun hle => hleft (h.exhausted_iff.1 hle)
  exact ⟨hnone, by rw [h.done, if_neg hnone], Nat.not_le.1 hmore⟩

theorem le_max (h : Counted policy draws results r) : r.attemptsDone ≤ policy.maxAttempts := by
  rw [UInt32.le_iff_toNat_le]
  by_cases hleft : results.countP Except.isOk = policy.pauses
  · have hdone := h.done
    split at hdone
    · exact Nat.le_of_eq hdone
    · rw [hdone, hleft, RetryPolicy.pauses]
      omega
  · obtain ⟨-, -, hmore⟩ := h.of_left hleft
    rw [← h.of]
    omega

theorem next (h : Counted policy draws results r) (draw : Except String UInt64) :
    Counted policy (draws ++ [draw]) (results ++ [(r.next draw).1]) (r.next draw).2 := by
  have hpaused := h.paused
  by_cases hleft : results.countP Except.isOk = policy.pauses
  · rw [next_of_le (h.exhausted_iff.2 hleft), h.of]
    have hsame : (results ++ [policy.refusal]).countP Except.isOk =
        policy.pauses := by
      simpa [RetryPolicy.refusal, Except.isOk, Except.toBool] using hleft
    refine ⟨h.of, ?_, ?_, fun _ => hsame⟩
    · rw [hsame, List.countP_append]
      omega
    · rw [if_pos (by simp), exhaust, h.of]
  · obtain ⟨hnone, hdone, hmore⟩ := h.of_left hleft
    obtain ⟨hdrawn, hfailed⟩ := next_of_lt hmore
    cases draw with
    | error reason =>
      rw [hfailed]
      have hnone : policy.refusal ∉
          results ++ [.error (.noEntropy reason)] := by
        simpa [RetryPolicy.refusal] using hnone
      refine ⟨h.of, ?_, ?_, fun hmem => absurd hmem hnone⟩
      · simpa [Except.isOk, Except.toBool] using hpaused
      · rw [if_neg hnone, hdone]
        simp [Except.isOk, Except.toBool]
    | ok n =>
      rw [hdrawn]
      have hnone : policy.refusal ∉
          results ++ [.ok (r.policy.pauseFor r.attemptsDone.toNat n)] := by
        simpa [RetryPolicy.refusal] using hnone
      refine ⟨h.of, ?_, ?_, fun hmem => absurd hmem hnone⟩
      · simp only [List.countP_append, List.countP_singleton, Except.isOk, Except.toBool, if_true]
          at hpaused hleft ⊢
        omega
      · rw [if_neg hnone, toNat_attemptsDone_succ hmore, hdone]
        simp [Except.isOk, Except.toBool]

end Counted

theorem counted_nextAll (policy : RetryPolicy) (draws : List (Except String UInt64)) :
    Counted policy draws ((start policy).nextAll draws).1 ((start policy).nextAll draws).2 := by
  induction draws using List.reverseRecOn with
  | nil => exact .start policy
  | append_singleton draws draw ih =>
    rw [nextAll_append_singleton]
    exact ih.next draw

/-- A new counter after any calls. It has made a pause for every draw that came to something, up to
the number that the policy allows, and has counted them; once it has refused, it stands at the
number of attempts. If no pause is left, the call after these is refused: whatever a draw would say,
and without one, wherever draws come from. Else there is one draw, which decides, and if it fails,
it changes nothing. -/
theorem calls_are_counted (policy : RetryPolicy) (draws : List (Except String UInt64)) :
    let results := ((start policy).nextAll draws).1
    let r := ((start policy).nextAll draws).2
    let paused := results.countP Except.isOk
    r.attemptsDone ≤ policy.maxAttempts ∧
      paused = min (draws.countP Except.isOk) (max 1 policy.maxAttempts.toNat - 1) ∧
      r.attemptsDone.toNat =
        (if policy.refusal ∈ results then policy.maxAttempts.toNat
          else paused) ∧
      if paused = max 1 policy.maxAttempts.toNat - 1 then
        (∀ draw, r.next draw = (policy.refusal, ⟨policy, policy.maxAttempts⟩)) ∧
          ∀ (m : Type → Type) [Monad m] (draw : m (Except String UInt64)),
            ∃ refused, r.advance draw = pure refused ∧
              refused.pair = (policy.refusal, ⟨policy, policy.maxAttempts⟩)
      else
        policy.refusal ∉ results ∧
          (∀ reason, r.next (.error reason) = (.error (.noEntropy reason), r)) ∧
          (∀ draw, r.next (.ok draw) =
            (.ok (policy.pauseFor paused draw), ⟨policy, r.attemptsDone + 1⟩)) ∧
          (r.attemptsDone + 1).toNat = r.attemptsDone.toNat + 1 ∧
          ∀ (m : Type → Type) [Monad m] (draw : m (Except String UInt64)),
            r.advance draw = (do return r.advanced (← draw)) := by
  intro results r paused
  have h : Counted policy draws results r := counted_nextAll policy draws
  refine ⟨h.le_max, h.paused, h.done, ?_⟩
  split
  · next hnone =>
    have hlast := h.exhausted_iff.2 hnone
    refine ⟨fun draw => ?_,
      fun m _ draw => ⟨_, advance_of_isExhausted (decide_eq_true hlast) draw, ?_⟩⟩
    · rw [next_of_le hlast, exhaust, h.of]
    · rw [Advance.pair, exhaust, h.of]
      rfl
  · next hleft =>
    obtain ⟨hnone, hdone, hmore⟩ := h.of_left hleft
    obtain ⟨hdrawn, hfailed⟩ := next_of_lt hmore
    refine ⟨hnone, hfailed, fun draw => ?_, toNat_attemptsDone_succ hmore,
      fun m _ => advance_of_not_isExhausted (not_isExhausted_iff.2 hmore)⟩
    rw [hdrawn, hdone, h.of]

end Retry

end Enrolment
