import Enrolment.Attempts
import Enrolment.Proofs.Path

/-!
# Enrolment.Proofs.Attempts

The paths of a repeated attempt. First some attempts fail, each followed by a draw and a pause; then
comes the last attempt. If it fails as well, no attempt is left, or there is a draw that comes to
nothing. `path_attemptFrom` says that the loop runs like this, no more and no less; whatever is
said of repeated attempts elsewhere is by induction on the failed ones.
-/

namespace Enrolment

open Interaction

variable {σ ε α : Type}

/-- Failed attempts, with a draw and a pause after each. -/
inductive Retried (attempt : UInt32 → σ → Interaction (σ × Except ε α)) :
    Retry → σ → List Event → Retry → σ → Prop
  | start (r : Retry) (s : σ) : Retried attempt r s [] r s
  | again {r r' : Retry} {s s₁ s' : σ} {t u : List Event} {e : ε} {n : UInt64} :
      ¬ r.isExhausted → Path (attempt r.attemptsDone s) t (s₁, .error e) →
      Retried attempt r.record s₁ u r' s' →
      Retried attempt r s (t ++ ⟨.draw, .ok n⟩ :: ⟨.pause (r.delay n), ()⟩ :: u) r' s'

/-- The end of a repeated attempt, from the last attempt on. -/
inductive Ended (attempt : UInt32 → σ → Interaction (σ × Except ε α)) (r : Retry) (s : σ) :
    List Event → σ → Except (AttemptsError ε) α → Prop
  | ok {t : List Event} {s' : σ} {a : α} :
      Path (attempt r.attemptsDone s) t (s', .ok a) → Ended attempt r s t s' (.ok a)
  | exhausted {t : List Event} {s' : σ} {e : ε} :
      r.isExhausted → Path (attempt r.attemptsDone s) t (s', .error e) →
      Ended attempt r s t s' (.error (.exhausted r.policy.maxAttempts e))
  | noEntropy {t : List Event} {s' : σ} {e : ε} {reason : String} :
      ¬ r.isExhausted → Path (attempt r.attemptsDone s) t (s', .error e) →
      Ended attempt r s (t ++ [⟨.draw, .error reason⟩]) s' (.error (.noEntropy reason))

section Loop

variable {attempt : UInt32 → σ → Interaction (σ × Except ε α)} {r : Retry} {s s' : σ}
  {t : List Event} {o : Except (AttemptsError ε) α}

/-- Behind the last attempt, no call is made. -/
theorem path_advance_last {β : Type} {next : r.Advance → Interaction β} {b : β}
    (h : r.isExhausted) :
    Path (r.advance (perform .draw) >>= next) t b ↔
      Path (next ⟨.error (.exhausted r.policy.maxAttempts), r.exhaust, nofun⟩) t b := by
  rw [Retry.advance_of_isExhausted h]
  rfl

/-- Behind any other attempt, there is one draw. -/
theorem path_advance_more {β : Type} {next : r.Advance → Interaction β} {b : β}
    (h : ¬ r.isExhausted) :
    Path (r.advance (perform .draw) >>= next) t b ↔
      ∃ draw u, t = ⟨.draw, draw⟩ :: u ∧ Path (next (r.advanced draw)) u b := by
  rw [Retry.advance_of_not_isExhausted h]
  exact path_perform_bind

theorem exists_retried (h : Path (attemptFrom attempt r s) t (s', o)) :
    ∃ t₁ t₂ r₁ s₁, t = t₁ ++ t₂ ∧ Retried attempt r s t₁ r₁ s₁ ∧ Ended attempt r₁ s₁ t₂ s' o := by
  -- The loop's own induction: what follows a pause is a run from a counter with fewer left.
  induction r, s using attemptFrom.induct generalizing t with
  | case1 r s ih =>
    rw [attemptFrom] at h
    obtain ⟨t₁, t₂, ⟨s₁, outcome⟩, rfl, h₁, h₂⟩ := path_bind.1 h
    cases outcome with
    | ok a =>
      obtain ⟨rfl, hr⟩ := path_pure.1 h₂
      cases hr
      exact ⟨[], _, r, s, rfl, .start r s, by simpa using .ok h₁⟩
    | error e =>
      by_cases hlast : r.isExhausted
      · simp only [path_advance_last hlast] at h₂
        obtain ⟨rfl, hr⟩ := path_pure.1 h₂
        cases hr
        exact ⟨[], _, r, s, rfl, .start r s, by simpa using .exhausted hlast h₁⟩
      · simp only [path_advance_more hlast] at h₂
        obtain ⟨draw, t₃, rfl, h₃⟩ := h₂
        cases draw with
        | error reason =>
          rw [Retry.advanced_error hlast] at h₃
          obtain ⟨rfl, hr⟩ := path_pure.1 h₃
          cases hr
          exact ⟨[], _, r, s, rfl, .start r s, .noEntropy hlast h₁⟩
        | ok n =>
          rw [Retry.advanced_ok hlast] at h₃
          obtain ⟨⟨⟩, t₄, rfl, h₄⟩ := path_perform_bind.1 h₃
          have hfewer : r.record.left < r.left := Nat.le_of_eq (Retry.left_record hlast)
          obtain ⟨t₅, t₆, r₁, s₂, rfl, hretried, hended⟩ :=
            ih s₁ (r.delay n) r.record (fun _ => hfewer) h₄
          refine ⟨_, t₆, r₁, s₂, ?_, .again (n := n) hlast h₁ hretried, hended⟩
          rw [List.append_assoc]
          rfl

theorem Ended.path (h : Ended attempt r s t s' o) : Path (attemptFrom attempt r s) t (s', o) := by
  rw [attemptFrom]
  cases h with
  | ok hattempt => exact path_bind.2 ⟨t, [], _, by simp, hattempt, .done _⟩
  | exhausted hlast hattempt =>
    exact path_bind.2 ⟨t, [], _, by simp, hattempt, (path_advance_last hlast).2 (.done _)⟩
  | @noEntropy t _ _ reason hmore hattempt =>
    refine path_bind.2 ⟨t, _, _, rfl, hattempt, (path_advance_more hmore).2 ⟨_, [], rfl, ?_⟩⟩
    rw [Retry.advanced_error hmore]
    exact .done _

theorem Retried.path {r₁ : Retry} {s₁ : σ} {t₁ t₂ : List Event}
    (h : Retried attempt r s t₁ r₁ s₁) (hrest : Path (attemptFrom attempt r₁ s₁) t₂ (s', o)) :
    Path (attemptFrom attempt r s) (t₁ ++ t₂) (s', o) := by
  induction h with
  | start => exact hrest
  | @again r _ _ _ _ t u _ n hmore hattempt _ ih =>
    rw [attemptFrom, List.append_assoc]
    refine path_bind.2 ⟨t, _, _, rfl, hattempt, (path_advance_more hmore).2 ⟨_, _, rfl, ?_⟩⟩
    rw [Retry.advanced_ok hmore]
    exact path_perform_bind.2 ⟨(), u ++ t₂, rfl, ih hrest⟩

theorem path_attemptFrom :
    Path (attemptFrom attempt r s) t (s', o) ↔
      ∃ t₁ t₂ r₁ s₁, t = t₁ ++ t₂ ∧ Retried attempt r s t₁ r₁ s₁ ∧ Ended attempt r₁ s₁ t₂ s' o := by
  refine ⟨exists_retried, ?_⟩
  rintro ⟨t₁, t₂, r₁, s₁, rfl, hretried, hended⟩
  exact hretried.path hended.path

end Loop

theorem path_attemptUnder {policy : RetryPolicy}
    {attempt : UInt32 → σ → Interaction (σ × Except ε α)} {s s' : σ} {t : List Event}
    {o : Except (AttemptsError ε) α} :
    Path (attemptUnder policy attempt s) t (s', o) ↔
      ∃ t₁ t₂ r₁ s₁, t = t₁ ++ t₂ ∧ Retried attempt (.start policy) s t₁ r₁ s₁ ∧
        Ended attempt r₁ s₁ t₂ s' o :=
  path_attemptFrom

end Enrolment
