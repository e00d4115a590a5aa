import Enrolment.Exchange
import Enrolment.Proofs.Attempts
import Enrolment.Proofs.Wait

/-!
# Enrolment.Proofs.Subscribe

The paths of subscribing. Every attempt sends one SUBSCRIBE and waits for one acknowledgement.
Subscribing succeeds with the first acknowledgement that grants the filters; all before it refuse.
-/

namespace Enrolment

open Interaction

/-! ## Acknowledgements in a wait -/

theorem Packet.granted?_eq_none {p : Packet} (h : p.kind ≠ .subAck) : p.granted? = none := by
  cases p <;> first | rfl | exact absurd rfl h

theorem Packet.eq_subAck {p : Packet} (h : p.kind = .subAck) : ∃ granted, p = .subAck granted := by
  cases p with
  | subAck granted => exact ⟨granted, rfl⟩
  | _ => cases h

theorem filterMap_granted?_eq_nil {ps : List Packet} (h : ∀ p ∈ ps, p.kind ≠ .subAck) :
    ps.filterMap Packet.granted? = [] :=
  List.filterMap_eq_nil_iff.2 fun p hp => Packet.granted?_eq_none (h p hp)

/-- A wait for an acknowledgement that succeeds takes one. -/
theorem EndsWait.subAcks_ok {t : List Event} {polls : Nat}
    (h : EndsWait .subAck (packets t) (.ok polls)) : ∃ granted, subAcks t = [granted] := by
  obtain ⟨earlier, p, hps, hp, hne⟩ := h
  obtain ⟨granted, rfl⟩ := Packet.eq_subAck hp
  exact ⟨granted, by simp [subAcks, hps, filterMap_granted?_eq_nil hne, Packet.granted?]⟩

/-- A wait for an acknowledgement that fails takes none. -/
theorem EndsWait.subAcks_error {t : List Event} {e : WaitError}
    (h : EndsWait .subAck (packets t) (.error e)) : subAcks t = [] := by
  match e, h with
  | .payloadTooLarge _, ⟨earlier, p, hps, hp, hne⟩ =>
    have hn : p.granted? = none := Packet.granted?_eq_none (by simp [hp])
    simp [subAcks, hps, filterMap_granted?_eq_nil hne, hn]
  | .timeout .., h | .transport _, h => exact filterMap_granted?_eq_nil h

/-! ## One attempt -/

/-- The calls that subscribe to some filters. -/
def Call.Opens (filters : List String) (c : Call) : Prop :=
  c = .subscribe filters ∨ c.isWait ∨ c.isQuiet

/-- A part of subscribing, from one session to another. -/
structure Opening (filters : List String) (s : Session) (t : List Event) (s' : Session) : Prop where
  session : (s.after t).Agrees s'
  calls : ∀ e ∈ t, e.call.Opens filters

namespace Opening

variable {filters : List String} {s s' s'' : Session} {t u : List Event}

theorem quiet (h : Quiet t) (s : Session) : Opening filters s t s :=
  ⟨by rw [h.session]; exact .refl s, fun e he => .inr (.inr (h e he))⟩

theorem append (h : Opening filters s t s') (h' : Opening filters s' u s'') :
    Opening filters s (t ++ u) s'' :=
  ⟨h.session.append h'.session, fun e he => (List.mem_append.1 he).elim (h.calls e) (h'.calls e)⟩

end Opening

/-- A SUBSCRIBE was granted: it was taken, and the wait after it ended with the acknowledgement
that grants it, the first of its kind. -/
def GrantedBy (filters : List String) (t : List Event) : Prop :=
  ∃ t₁ t₂, t = t₁ ++ ⟨.subscribe filters, .ok ()⟩ :: t₂ ∧ Waits t₂ ∧ subAcks t₂ = [true] ∧
    true ∉ subAcks t₁

theorem GrantedBy.append_left {filters : List String} {t u : List Event} (h : GrantedBy filters u)
    (ht : true ∉ subAcks t) : GrantedBy filters (t ++ u) := by
  obtain ⟨t₁, t₂, rfl, hw, hg, hn⟩ := h
  exact ⟨t ++ t₁, t₂, by simp, hw, hg, by simp [ht, hn]⟩

/-- How the events of subscribing go with its end. -/
def EndsSubscribe {ε : Type} (filters : List String) (t : List Event) : Except ε Unit → Prop
  | .ok () => GrantedBy filters t
  | .error _ => true ∉ subAcks t

theorem EndsSubscribe.quiet {ε ε' : Type} {filters : List String} {t u : List Event} {e : ε}
    (h : EndsSubscribe filters t (.error e)) (hu : Quiet u) (e' : ε') :
    EndsSubscribe filters (t ++ u) (.error e') := by
  show true ∉ subAcks (t ++ u)
  rw [subAcks_append, hu.subAcks, List.append_nil]
  exact h

theorem path_subscribeOnce {settings : StepSettings} {filters : List String} {s s' : Session}
    {t : List Event} {o : Except String Unit}
    (h : Path (subscribeOnce settings filters s) t (s', o)) :
    Opening filters s t s' ∧ EndsSubscribe filters t o := by
  simp only [subscribeOnce] at h
  obtain ⟨reply, t₁, rfl, h₁⟩ := path_perform_bind.1 h
  match reply, h₁ with
  | .error fault, h₁ =>
    obtain ⟨rfl, hr⟩ := path_pure.1 h₁
    cases hr
    exact ⟨⟨.refl s, by simp [Call.Opens]⟩, by simp [EndsSubscribe, subAcks, Event.packet?]⟩
  | .ok (), h₁ =>
    obtain ⟨tw, t₂, ⟨s₁, waited⟩, rfl, hwait, h₂⟩ := path_bind.1 h₁
    obtain ⟨hs, hw, he⟩ := path_waitFor hwait
    have hopening : Opening filters s (⟨.subscribe filters, .ok ()⟩ :: tw) s₁ :=
      ⟨hs, List.forall_mem_cons.2 ⟨.inl rfl, fun e he => .inr (.inl (hw e he))⟩⟩
    cases waited with
    | error e =>
      obtain ⟨rfl, hr⟩ := path_pure.1 h₂
      cases hr
      rw [List.append_nil]
      exact ⟨hopening, by simp [EndsSubscribe, subAcks_cons, Event.packet?, he.subAcks_error]⟩
    | ok polls =>
      obtain ⟨granted, hg⟩ := he.subAcks_ok
      have hlast : s₁.lastSubAck = some granted := by
        rw [hs.lastSubAck, Session.lastSubAck_after, hg]; rfl
      simp only [hlast] at h₂
      cases granted with
      | true =>
        obtain ⟨rfl, hr⟩ := path_pure.1 h₂
        cases hr
        rw [List.append_nil]
        exact ⟨hopening, [], tw, rfl, hw, hg, by simp⟩
      | false =>
        obtain ⟨rfl, hr⟩ := path_pure.1 h₂
        cases hr
        rw [List.append_nil]
        exact ⟨hopening, by simp [EndsSubscribe, subAcks_cons, Event.packet?, hg]⟩

/-- An attempt, with the line that it writes to the log when it fails. -/
def subscribeAttempt (settings : StepSettings) (topics : Topics) (failed : UInt32) (s : Session) :
    Interaction (Session × Except String Unit) := do
  let (s, outcome) ← subscribeOnce settings topics.responseFilters s
  if let .error reason := outcome then
    Interaction.log .warn
      s!"subscribe to {topics.accepted} failed (attempt {failed.toNat + 1}): {reason}"
  return (s, outcome)

theorem path_subscribeAttempt {settings : StepSettings} {topics : Topics} {failed : UInt32}
    {s s' : Session} {t : List Event} {o : Except String Unit}
    (h : Path (subscribeAttempt settings topics failed s) t (s', o)) :
    Opening topics.responseFilters s t s' ∧ EndsSubscribe topics.responseFilters t o := by
  obtain ⟨t₁, t₂, ⟨s₁, outcome⟩, rfl, h₁, h₂⟩ := path_bind.1 h
  obtain ⟨ho, he⟩ := path_subscribeOnce h₁
  cases outcome with
  | ok u =>
    obtain ⟨rfl, hr⟩ := path_pure.1 h₂
    cases hr
    rw [List.append_nil]
    exact ⟨ho, he⟩
  | error reason =>
    obtain ⟨t₃, rfl, h₃⟩ := path_log_bind.1 h₂
    obtain ⟨rfl, hr⟩ := path_pure.1 h₃
    cases hr
    have hq := quiet_logged [⟨.warn,
      s!"subscribe to {topics.accepted} failed (attempt {failed.toNat + 1}): {reason}"⟩]
    exact ⟨ho.append (.quiet hq _), he.quiet hq reason⟩

/-! ## All attempts -/

section Attempts

variable {settings : StepSettings} {topics : Topics} {r r' : Retry} {s s' : Session}
  {t : List Event}

theorem path_retriedSubscribe (h : Retried (subscribeAttempt settings topics) r s t r' s') :
    Opening topics.responseFilters s t s' ∧ true ∉ subAcks t := by
  induction h with
  | start r s => exact ⟨.quiet (by simp [Quiet]) s, by simp⟩
  | @again r _ _ s₁ _ _ _ _ n _ hattempt _ ih =>
    obtain ⟨ho, he⟩ := path_subscribeAttempt hattempt
    have hq : Quiet [⟨.draw, .ok n⟩, ⟨.pause (r.delay n), ()⟩] := by simp [Quiet, Call.isQuiet]
    refine ⟨ho.append ((Opening.quiet hq s₁).append ih.1), ?_⟩
    have hn : true ∉ subAcks _ := he
    simpa [subAcks_cons, Event.packet?, hn] using ih.2

theorem path_endedSubscribe {o : Except (AttemptsError String) Unit}
    (h : Ended (subscribeAttempt settings topics) r s t s' o) :
    Opening topics.responseFilters s t s' ∧ EndsSubscribe topics.responseFilters t o := by
  cases h with
  | ok hattempt => exact path_subscribeAttempt hattempt
  | exhausted _ hattempt => exact path_subscribeAttempt hattempt
  | @noEntropy _ _ _ reason _ hattempt =>
    obtain ⟨ho, he⟩ := path_subscribeAttempt hattempt
    have hq : Quiet [⟨.draw, .error reason⟩] := by simp [Quiet, Call.isQuiet]
    exact ⟨ho.append (.quiet hq s'), he.quiet hq _⟩

end Attempts

theorem subscribeWithRetry_eq (policy : RetryPolicy) (settings : StepSettings) (topics : Topics)
    (s : Session) :
    subscribeWithRetry policy settings topics s = (do
      let (s, outcome) ← attemptUnder policy (subscribeAttempt settings topics) s
      return (s, outcome.mapError fun e => match e with
        | .exhausted attempts reason => .subscribeFailed topics.accepted attempts reason
        | .noEntropy reason => .noEntropy reason)) := rfl

/-- Subscribing sends SUBSCRIBEs, and waits; if it succeeds, the last one was granted. -/
theorem path_subscribeWithRetry {policy : RetryPolicy} {settings : StepSettings} {topics : Topics}
    {s s' : Session} {t : List Event} {o : Except StepError Unit}
    (h : Path (subscribeWithRetry policy settings topics s) t (s', o)) :
    Opening topics.responseFilters s t s' ∧ EndsSubscribe topics.responseFilters t o := by
  rw [subscribeWithRetry_eq] at h
  obtain ⟨t₁, t₂, ⟨s₁, outcome⟩, rfl, h₁, h₂⟩ := path_bind.1 h
  obtain ⟨rfl, hr⟩ := path_pure.1 h₂
  obtain ⟨t₃, t₄, r, s₂, rfl, hretried, hended⟩ := path_attemptUnder.1 h₁
  obtain ⟨ho, hn⟩ := path_retriedSubscribe hretried
  obtain ⟨ho', he⟩ := path_endedSubscribe hended
  cases hr
  rw [List.append_nil]
  refine ⟨ho.append ho', ?_⟩
  cases outcome with
  | ok u => exact he.append_left hn
  | error e =>
    show true ∉ subAcks (t₃ ++ t₄)
    rw [subAcks_append, List.mem_append, not_or]
    exact ⟨hn, he⟩

end Enrolment
