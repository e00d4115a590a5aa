import Enrolment.Proofs.Outcome
import Enrolment.Proofs.Provision
import Enrolment.Proofs.Retries
import Enrolment.Proofs.Scan
import Mathlib.Algebra.Group.Nat.Defs

/-!
# Enrolment.Proofs.RetryMachine

One reference machine for all that is retried. It makes attempts until one succeeds or a number of
them has failed. Behind each failure but the last it draws once and pauses once, in a window that
doubles from pause to pause up to a limit; a draw that fails ends it. It draws and pauses at no
other time.

* `path_attemptFrom_machine_iff`, `path_attemptUnder_iff`: from any counter on, a repeated attempt
  runs as the machine does, no more and no less.
* `SubscribeAttempt.ok_iff`: when an attempt to subscribe succeeds.
* `retries_follow_machine`: opening a link, and the subscribing of a step.
-/

namespace Enrolment

open Interaction

/-! ## The machine -/

section Machine

variable {σ ε α : Type}

/-- The machine, after some attempts have failed. An attempt takes a state to another by some
events, and has a result. -/
inductive RetryMachine (policy : RetryPolicy)
    (Attempt : Nat → σ → List Event → σ → Except ε α → Prop) :
    Nat → σ → List Event → σ → Except (AttemptsError ε) α → Prop
  | success {failed : Nat} {s s' : σ} {t : List Event} {a : α} :
      Attempt failed s t s' (.ok a) → RetryMachine policy Attempt failed s t s' (.ok a)
  | exhausted {failed : Nat} {s s' : σ} {t : List Event} {e : ε} :
      failed + 1 = policy.maxAttempts.toNat → Attempt failed s t s' (.error e) →
      RetryMachine policy Attempt failed s t s' (.error (.exhausted policy.maxAttempts e))
  | noEntropy {failed : Nat} {s s' : σ} {t : List Event} {e : ε} {reason : String} :
      failed + 1 < policy.maxAttempts.toNat → Attempt failed s t s' (.error e) →
      RetryMachine policy Attempt failed s (t ++ [⟨.draw, .error reason⟩]) s'
        (.error (.noEntropy reason))
  | again {failed : Nat} {s s₁ s' : σ} {t u : List Event} {e : ε} {draw : UInt64}
      {o : Except (AttemptsError ε) α} :
      failed + 1 < policy.maxAttempts.toNat → Attempt failed s t s₁ (.error e) →
      RetryMachine policy Attempt (failed + 1) s₁ u s' o →
      RetryMachine policy Attempt failed s
        (t ++ ⟨.draw, .ok draw⟩ :: ⟨.pause (policy.pauseFor failed draw), ()⟩ :: u) s' o

/-- The attempts of a run, by the number of failures before them. -/
def attempts (attempt : UInt32 → σ → Interaction (σ × Except ε α)) (failed : Nat) (s : σ)
    (t : List Event) (s' : σ) (o : Except ε α) : Prop :=
  Path (attempt (.ofNat failed) s) t (s', o)

section Repeated

variable {attempt : UInt32 → σ → Interaction (σ × Except ε α)} {r : Retry} {s s' : σ}
  {t : List Event}

theorem attempts_toNat {failed : UInt32} {o : Except ε α} :
    attempts attempt failed.toNat s t s' o ↔ Path (attempt failed s) t (s', o) := by
  rw [attempts, UInt32.ofNat_toNat]

variable {o : Except (AttemptsError ε) α}

/-- A counter that has failures left to count is exhausted by the last of them. -/
theorem Retry.isExhausted_iff (hr : r.attemptsDone.toNat + 1 ≤ r.policy.maxAttempts.toNat) :
    r.isExhausted ↔ r.attemptsDone.toNat + 1 = r.policy.maxAttempts.toNat := by
  rw [Retry.isExhausted, decide_eq_true_eq]
  omega

theorem Retry.toNat_attemptsDone_record (hmore : ¬ r.isExhausted) :
    r.record.attemptsDone.toNat = r.attemptsDone.toNat + 1 :=
  Retry.toNat_attemptsDone_succ (Retry.not_isExhausted_iff.1 hmore)

theorem Ended.machine (h : Ended attempt r s t s' o)
    (hr : r.attemptsDone.toNat + 1 ≤ r.policy.maxAttempts.toNat) :
    RetryMachine r.policy (attempts attempt) r.attemptsDone.toNat s t s' o := by
  cases h with
  | ok hattempt => exact .success (attempts_toNat.2 hattempt)
  | exhausted hlast hattempt =>
    exact .exhausted ((Retry.isExhausted_iff hr).1 hlast) (attempts_toNat.2 hattempt)
  | noEntropy hmore hattempt =>
    exact .noEntropy (Retry.not_isExhausted_iff.1 hmore) (attempts_toNat.2 hattempt)

theorem Retried.machine {r₁ : Retry} {s₁ : σ} {t₁ t₂ : List Event}
    (h : Retried attempt r s t₁ r₁ s₁) (hended : Ended attempt r₁ s₁ t₂ s' o)
    (hr : r.attemptsDone.toNat + 1 ≤ r.policy.maxAttempts.toNat) :
    RetryMachine r.policy (attempts attempt) r.attemptsDone.toNat s (t₁ ++ t₂) s' o := by
  induction h with
  | start => exact hended.machine hr
  | @again r _ _ _ _ t u _ n hmore hattempt _ ih =>
    have hlt := Retry.not_isExhausted_iff.1 hmore
    have hcount := Retry.toNat_attemptsDone_record hmore
    have hrest := ih hended (hcount ▸ hlt)
    rw [hcount] at hrest
    rw [Retry.delay_eq, List.append_assoc]
    exact .again hlt (attempts_toNat.2 hattempt) hrest

/-- What the machine does, the loop does from the counter that has counted as many failures. -/
theorem RetryMachine.path {policy : RetryPolicy} {failed : Nat}
    (h : RetryMachine policy (attempts attempt) failed s t s' o)
    (hpolicy : r.policy = policy) (hfailed : r.attemptsDone.toNat = failed) :
    Path (attemptFrom attempt r s) t (s', o) := by
  induction h generalizing r with
  | success hattempt =>
    subst hfailed
    exact (Ended.ok (attempts_toNat.1 hattempt)).path
  | exhausted hlast hattempt =>
    subst hpolicy hfailed
    have hexhausted := (Retry.isExhausted_iff (Nat.le_of_eq hlast)).2 hlast
    exact (Ended.exhausted hexhausted (attempts_toNat.1 hattempt)).path
  | noEntropy hlt hattempt =>
    subst hpolicy hfailed
    exact (Ended.noEntropy (Retry.not_isExhausted_iff.2 hlt) (attempts_toNat.1 hattempt)).path
  | @again _ _ s₁ _ t u _ draw _ hlt hattempt _ ih =>
    subst hpolicy hfailed
    have hmore := Retry.not_isExhausted_iff.2 hlt
    have hrest := ih (r := r.record) rfl (Retry.toNat_attemptsDone_record hmore)
    have hfirst := Retried.again (n := draw) hmore (attempts_toNat.1 hattempt) (.start r.record s₁)
    rw [Retry.delay_eq] at hfirst
    simpa using hfirst.path hrest

theorem path_attemptFrom_machine_iff
    (hr : r.attemptsDone.toNat + 1 ≤ r.policy.maxAttempts.toNat) :
    Path (attemptFrom attempt r s) t (s', o) ↔
      RetryMachine r.policy (attempts attempt) r.attemptsDone.toNat s t s' o := by
  constructor
  · intro h
    obtain ⟨t₁, t₂, r₁, s₁, rfl, hretried, hended⟩ := path_attemptFrom.1 h
    exact hretried.machine hended hr
  · intro h
    exact h.path rfl rfl

end Repeated

theorem path_attemptUnder_iff {policy : RetryPolicy} (hpolicy : 1 ≤ policy.maxAttempts.toNat)
    {attempt : UInt32 → σ → Interaction (σ × Except ε α)} {s s' : σ} {t : List Event}
    {o : Except (AttemptsError ε) α} :
    Path (attemptUnder policy attempt s) t (s', o) ↔
      RetryMachine policy (attempts attempt) 0 s t s' o :=
  path_attemptFrom_machine_iff (r := .start policy) (by simpa [Retry.start] using hpolicy)

theorem RetryMachine.mono {policy : RetryPolicy}
    {Attempt Attempt' : Nat → σ → List Event → σ → Except ε α → Prop}
    (hattempt : ∀ failed < policy.maxAttempts.toNat, ∀ s t s' o,
      Attempt failed s t s' o → Attempt' failed s t s' o)
    {failed : Nat} (hfailed : failed < policy.maxAttempts.toNat) {s s' : σ} {t : List Event}
    {o : Except (AttemptsError ε) α} (h : RetryMachine policy Attempt failed s t s' o) :
    RetryMachine policy Attempt' failed s t s' o := by
  induction h with
  | success h => exact .success (hattempt _ hfailed _ _ _ _ h)
  | exhausted hlast h => exact .exhausted hlast (hattempt _ hfailed _ _ _ _ h)
  | noEntropy hmore h => exact .noEntropy hmore (hattempt _ hfailed _ _ _ _ h)
  | again hmore h _ ih => exact .again hmore (hattempt _ hfailed _ _ _ _ h) (ih hmore)

/-- What every attempt calls once at most is called no more often than attempts are allowed. -/
theorem RetryMachine.countP_le {policy : RetryPolicy}
    {Attempt : Nat → σ → List Event → σ → Except ε α → Prop} {c : Call}
    (hattempt : ∀ failed s t s' o, Attempt failed s t s' o → t.countP (fun e => e.call = c) ≤ 1)
    (hdraw : .draw ≠ c) (hpause : ∀ ms, .pause ms ≠ c) {failed : Nat}
    (hfailed : failed < policy.maxAttempts.toNat) {s s' : σ} {t : List Event}
    {o : Except (AttemptsError ε) α} (h : RetryMachine policy Attempt failed s t s' o) :
    t.countP (fun e => e.call = c) + failed ≤ policy.maxAttempts.toNat := by
  induction h with
  | success h | exhausted _ h =>
    have hone := hattempt _ _ _ _ _ h
    omega
  | noEntropy _ h =>
    have hone := hattempt _ _ _ _ _ h
    simp only [List.countP_append, List.countP_singleton, hdraw, decide_false, Bool.false_eq_true,
      if_false]
    omega
  | again hmore h _ ih =>
    have hone := hattempt _ _ _ _ _ h
    have hrest := ih hmore
    simp only [List.countP_append, List.countP_cons, hdraw, hpause, decide_false,
      Bool.false_eq_true, if_false]
    omega

end Machine

/-! ## Opening a link -/

/-- The line that an attempt to open a link writes to the log. -/
def connectLine (request : ConnectRequest) (failed : Nat) : Except LinkFault Unit → LogLine
  | .ok () => ⟨.info, s!"connected as {request.clientId} after {failed} retries"⟩
  | .error fault =>
    ⟨.warn, s!"connect attempt {failed + 1} failed: {(ConnectFault.ofLinkFault fault).message}"⟩

/-- One attempt to open a link: the link is asked once, and its answer is the result. -/
def ConnectAttempt (request : ConnectRequest) (failed : Nat) (_ : Unit) (t : List Event) (_ : Unit)
    (o : Except ConnectFault Unit) : Prop :=
  ∃ reply, t = [⟨.connect request, reply⟩, ⟨.log (connectLine request failed reply), ()⟩] ∧
    o = reply.mapError ConnectFault.ofLinkFault

theorem path_connectOnce_iff {request : ConnectRequest} {failed : UInt32} {t : List Event}
    {o : Except ConnectFault Unit} :
    Path (connectOnce request failed) t o ↔ ConnectAttempt request failed.toNat () t () o := by
  rw [connectOnce, path_perform_bind]
  constructor
  · rintro ⟨reply, t, rfl, h⟩
    match reply, h with
    | .ok (), h | .error fault, h =>
      obtain ⟨t, rfl, hend⟩ := path_log_bind.1 h
      obtain ⟨rfl, rfl⟩ := path_pure.1 hend
      exact ⟨_, rfl, rfl⟩
  · rintro ⟨reply, rfl, rfl⟩
    match reply with
    | .ok () | .error fault => exact ⟨_, _, rfl, path_log_bind.2 ⟨[], rfl, .done _⟩⟩

theorem attempts_connectAttempt_iff {request : ConnectRequest} {failed : Nat}
    (hfailed : failed < UInt32.size) {t : List Event} {o : Except ConnectFault Unit} :
    attempts (connectAttempt request) failed () t () o ↔
      ConnectAttempt request failed () t () o := by
  have hone : Path (connectAttempt request (.ofNat failed) ()) t ((), o) ↔
      Path (connectOnce request (.ofNat failed)) t o := by
    rw [connectAttempt, path_bind]
    constructor
    · rintro ⟨t₁, t₂, o', rfl, h₁, h₂⟩
      obtain ⟨rfl, hr⟩ := path_pure.1 h₂
      cases hr
      rwa [List.append_nil]
    · intro h
      exact ⟨t, [], o, by simp, h, .done _⟩
  rw [attempts, hone, path_connectOnce_iff, UInt32.toNat_ofNat_of_lt' hfailed]

theorem path_connectWithRetry_iff {policy : RetryPolicy} (hpolicy : 1 ≤ policy.maxAttempts.toNat)
    {request : ConnectRequest} {t : List Event} {o : Except ConnectError Unit} :
    Path (connectWithRetry policy request) t o ↔
      RetryMachine policy (ConnectAttempt request) 0 () t () o := by
  have hsize (failed : Nat) (h : failed < policy.maxAttempts.toNat) : failed < UInt32.size :=
    Nat.lt_trans h policy.maxAttempts.toNat_lt
  have hpath : Path (connectWithRetry policy request) t o ↔
      Path (attemptUnder policy (connectAttempt request) ()) t ((), o) := by
    rw [connectWithRetry_eq, path_bind]
    constructor
    · rintro ⟨t₁, t₂, outcome, rfl, h₁, h₂⟩
      obtain ⟨rfl, rfl⟩ := path_pure.1 h₂
      rwa [List.append_nil]
    · intro h
      exact ⟨t, [], ((), o), by simp, h, .done _⟩
  rw [hpath, path_attemptUnder_iff hpolicy]
  constructor
  · exact RetryMachine.mono (fun failed hfailed _ _ _ _ =>
      (attempts_connectAttempt_iff (hsize failed hfailed)).1) hpolicy
  · exact RetryMachine.mono (fun failed hfailed _ _ _ _ =>
      (attempts_connectAttempt_iff (hsize failed hfailed)).2) hpolicy

/-! ## Subscribing -/

/-- What an attempt to subscribe makes of the end of its wait. -/
def acknowledged (s : Session) : Except WaitError Nat → Except String Unit
  | .error e => .error e.message
  | .ok _ => if s.lastSubAck = some true then .ok () else .error "SUBACK refused"

/-- The lines that an attempt to subscribe writes to the log. -/
def subscribeLines (topics : Topics) (failed : Nat) : Except String Unit → List LogLine
  | .ok () => []
  | .error reason =>
    [⟨.warn, s!"subscribe to {topics.accepted} failed (attempt {failed + 1}): {reason}"⟩]

/-- One attempt to subscribe: both response filters are asked for once, and if that is taken, there
is one wait for the SUBACK. -/
inductive SubscribeAttempt (settings : StepSettings) (topics : Topics) (failed : Nat)
    (s : Session) : List Event → Session → Except String Unit → Prop
  | refused (fault : LinkFault) :
      SubscribeAttempt settings topics failed s
        (⟨.subscribe topics.responseFilters, .error fault⟩ ::
          logged (subscribeLines topics failed (.error fault.message)))
        s (.error fault.message)
  | waited {t : List Event} {s' : Session} {r : Except WaitError Nat} :
      PollPath .subAck settings.budget settings.budget.maxPolls
        (s.recordSubscriptions topics.responseFilters).resetLastPacket t s' r →
      SubscribeAttempt settings topics failed s
        (⟨.subscribe topics.responseFilters, .ok ()⟩ ::
          (t ++ logged (subscribeLines topics failed (acknowledged s' r))))
        s' (acknowledged s' r)

theorem path_subscribeOnce_attempt {settings : StepSettings} {filters : List String}
    {s s' : Session} {t : List Event} {o : Except String Unit}
    (h : Path (subscribeOnce settings filters s) t (s', o)) :
    (∃ fault, t = [⟨.subscribe filters, .error fault⟩] ∧ s' = s ∧ o = .error fault.message) ∨
      ∃ u r, t = ⟨.subscribe filters, .ok ()⟩ :: u ∧ o = acknowledged s' r ∧
        PollPath .subAck settings.budget settings.budget.maxPolls
          (s.recordSubscriptions filters).resetLastPacket u s' r := by
  simp only [subscribeOnce] at h
  obtain ⟨reply, t₁, rfl, h₁⟩ := path_perform_bind.1 h
  cases reply with
  | error fault =>
    obtain ⟨rfl, hr⟩ := path_pure.1 h₁
    cases hr
    exact .inl ⟨fault, rfl, rfl, rfl⟩
  | ok =>
    obtain ⟨u, t₂, ⟨s₁, waited⟩, rfl, hwait, h₂⟩ := path_bind.1 h₁
    have hend : t₂ = [] ∧ (s', o) = (s₁, acknowledged s₁ waited) := by
      cases waited with
      | error e => exact path_pure.1 h₂
      | ok used =>
        simp only [acknowledged] at h₂ ⊢
        split at h₂
        · next hgranted => rw [if_pos hgranted]; exact path_pure.1 h₂
        · next hdenied => rw [if_neg hdenied]; exact path_pure.1 h₂
    obtain ⟨rfl, hr⟩ := hend
    cases hr
    exact .inr ⟨u, waited, by simp, rfl, path_pollFor hwait⟩

theorem SubscribeAttempt.of_path {settings : StepSettings} {topics : Topics} {failed : Nat}
    (hfailed : failed < UInt32.size) {s s' : Session} {t : List Event} {o : Except String Unit}
    (h : attempts (subscribeAttempt settings topics) failed s t s' o) :
    SubscribeAttempt settings topics failed s t s' o := by
  obtain ⟨t₁, t₂, ⟨s₁, outcome⟩, rfl, h₁, h₂⟩ := path_bind.1 h
  have hend : t₂ = logged (subscribeLines topics failed outcome) ∧ (s', o) = (s₁, outcome) := by
    cases outcome with
    | ok u => exact path_pure.1 h₂
    | error reason =>
      obtain ⟨t₃, rfl, h₃⟩ := path_log_bind.1 h₂
      obtain ⟨rfl, hr⟩ := path_pure.1 h₃
      rw [UInt32.toNat_ofNat_of_lt' hfailed]
      exact ⟨rfl, hr⟩
  obtain ⟨rfl, hr⟩ := hend
  cases hr
  obtain ⟨fault, rfl, rfl, rfl⟩ | ⟨u, r, rfl, rfl, hpoll⟩ := path_subscribeOnce_attempt h₁
  · exact .refused fault
  · exact .waited hpoll

/-! ## Acknowledgements -/

/-- The session takes the replies to some polls one after the other. None of them is a fault or a
SUBACK, and no body is too long for the buffer. -/
def Session.Passes (s : Session) : List (Except LinkFault (Option Packet)) → Prop
  | [] => True
  | .error _ :: _ => False
  | .ok none :: rest => s.Passes rest
  | .ok (some p) :: rest =>
    p.kind ≠ .subAck ∧ (∃ c, (s.dispatch p).2 = .ok c) ∧ (s.dispatch p).1.Passes rest

/-- The first SUBACK among the replies to polls is one of the first `n` and grants the filters, and
nothing before it ends the wait. -/
def Session.Grants (s : Session) (n : Nat) (replies : List (Except LinkFault (Option Packet))) :
    Prop :=
  ∃ earlier rest, replies = earlier ++ .ok (some (.subAck true)) :: rest ∧ earlier.length < n ∧
    s.Passes earlier

section Grants

variable {s s' : Session} {n : Nat} {replies : List (Except LinkFault (Option Packet))}

theorem Session.grants_none : s.Grants (n + 1) (.ok none :: replies) ↔ s.Grants n replies := by
  constructor
  · rintro ⟨earlier, rest, h, hlen, hpasses⟩
    cases earlier with
    | nil => cases h
    | cons reply earlier =>
      cases h
      exact ⟨earlier, rest, rfl, Nat.lt_of_succ_lt_succ hlen, hpasses⟩
  · rintro ⟨earlier, rest, rfl, hlen, hpasses⟩
    exact ⟨.ok none :: earlier, rest, rfl, Nat.succ_lt_succ hlen, hpasses⟩

theorem Session.grants_other {p : Packet} {c : Option Classification}
    (hd : (s.dispatch p).2 = .ok c) (hk : p.kind ≠ .subAck) :
    s.Grants (n + 1) (.ok (some p) :: replies) ↔ (s.dispatch p).1.Grants n replies := by
  constructor
  · rintro ⟨earlier, rest, h, hlen, hpasses⟩
    cases earlier with
    | nil =>
      cases h
      exact absurd rfl hk
    | cons reply earlier =>
      cases h
      exact ⟨earlier, rest, rfl, Nat.lt_of_succ_lt_succ hlen, hpasses.2.2⟩
  · rintro ⟨earlier, rest, rfl, hlen, hpasses⟩
    exact ⟨.ok (some p) :: earlier, rest, rfl, Nat.succ_lt_succ hlen, hk, ⟨c, hd⟩, hpasses⟩

theorem Session.grants_subAck {granted : Bool} :
    s.Grants (n + 1) (.ok (some (.subAck granted)) :: replies) ↔ granted = true := by
  constructor
  · rintro ⟨earlier, rest, h, -, hpasses⟩
    cases earlier with
    | nil =>
      cases h
      rfl
    | cons reply earlier =>
      cases h
      exact absurd rfl hpasses.1
  · rintro rfl
    exact ⟨[], replies, rfl, Nat.succ_pos n, trivial⟩

/-- A reply that ends a wait without a SUBACK grants nothing. -/
theorem Session.not_grants {reply : Except LinkFault (Option Packet)}
    (hne : reply ≠ .ok (some (.subAck true))) (hnot : ∀ rest, ¬ s.Passes (reply :: rest)) :
    ¬ s.Grants n (reply :: replies) := by
  rintro ⟨earlier, rest, h, -, hpasses⟩
  cases earlier with
  | nil =>
    cases h
    exact hne rfl
  | cons _ earlier =>
    cases h
    exact hnot earlier hpasses

/-- A wait for a SUBACK ends with one that grants if the replies grant, whatever is polled after
it. -/
theorem PollPath.acknowledged_iff {budget : WaitBudget} {t : List Event}
    {r : Except WaitError Nat} (h : PollPath .subAck budget n s t s' r)
    (later : List (Except LinkFault (Option Packet))) :
    acknowledged s' r = .ok () ↔ s.Grants n (polled t ++ later) := by
  induction h with
  | spent s => simp [acknowledged, Session.Grants]
  | @fault left s fault =>
    have hnot : ¬ s.Grants (left + 1) (.error fault :: later) :=
      Session.not_grants nofun fun _ hpasses => hpasses
    simpa [acknowledged] using hnot
  | empty _ ih =>
    rw [polled_poll, List.cons_append, Session.grants_none]
    exact ih
  | @refused left s p cause lines hd =>
    have hnot : ¬ s.Grants (left + 1) (.ok (some p) :: later) := by
      refine Session.not_grants ?_ fun _ hpasses => ?_
      · rintro ⟨⟩
        cases hd
      · obtain ⟨-, ⟨c, hc⟩, -⟩ := hpasses
        cases hd.symm.trans hc
    simpa [acknowledged] using hnot
  | @found _ s p _ lines _ hk =>
    obtain ⟨granted, rfl⟩ := Packet.eq_subAck hk
    rw [polled_poll, polled_logged, List.cons_append, Session.grants_subAck]
    cases granted <;> simp [acknowledged, Session.dispatch]
  | other lines hd hk _ ih =>
    rw [polled_poll, polled_append, polled_logged, List.nil_append, List.cons_append,
      Session.grants_other hd hk]
    exact ih

end Grants

/-- An attempt to subscribe succeeds if, and only if, the link takes the request and the first
SUBACK polled within the budget grants it. -/
theorem SubscribeAttempt.ok_iff {settings : StepSettings} {topics : Topics} {failed : Nat}
    {s s' : Session} {t : List Event} {o : Except String Unit}
    (h : SubscribeAttempt settings topics failed s t s' o) :
    ∃ reply u, t = ⟨.subscribe topics.responseFilters, reply⟩ :: u ∧ Waits u ∧
      ∀ later, o = .ok () ↔ reply = .ok () ∧
        (s.recordSubscriptions topics.responseFilters).resetLastPacket.Grants
          settings.budget.maxPolls (polled u ++ later) := by
  cases h with
  | refused fault => exact ⟨_, _, rfl, waits_logged _, fun later => by simp⟩
  | @waited t _ r hpoll =>
    refine ⟨_, _, rfl, waits_append.2 ⟨hpoll.waits, waits_logged _⟩, fun later => ?_⟩
    rw [polled_append, polled_logged, List.append_nil, hpoll.acknowledged_iff later]
    simp

/-! ## The step -/

/-- What the end of subscribing makes of a step. -/
def subscribeFailure (topics : Topics) : AttemptsError String → StepError
  | .exhausted attempts reason => .subscribeFailed topics.accepted attempts reason
  | .noEntropy reason => .noEntropy reason

theorem path_subscribeWithRetry_machine {policy : RetryPolicy}
    (hpolicy : 1 ≤ policy.maxAttempts.toNat) {settings : StepSettings} {topics : Topics}
    {s s' : Session} {t : List Event} {o : Except StepError Unit}
    (h : Path (subscribeWithRetry policy settings topics s) t (s', o)) :
    ∃ o', RetryMachine policy (SubscribeAttempt settings topics) 0 s t s' o' ∧
      o = o'.mapError (subscribeFailure topics) := by
  rw [subscribeWithRetry_eq] at h
  obtain ⟨t₁, t₂, ⟨s₁, outcome⟩, rfl, h₁, h₂⟩ := path_bind.1 h
  obtain ⟨rfl, hr⟩ := path_pure.1 h₂
  cases hr
  have hmachine := ((path_attemptUnder_iff hpolicy).1 h₁).mono (fun failed hfailed _ _ _ _ =>
    SubscribeAttempt.of_path (Nat.lt_trans hfailed policy.maxAttempts.toNat_lt)) hpolicy
  rw [List.append_nil]
  refine ⟨outcome, hmachine, ?_⟩
  match outcome with
  | .ok () | .error (.exhausted ..) | .error (.noEntropy _) => rfl

/-- The calls that retrying makes. -/
def Call.retries : Call → Bool
  | .connect _ | .subscribe _ | .draw | .pause _ => true
  | _ => false

/-- How a step goes by its subscribing. Behind it nothing is retried, and if it fails, the step
fails and nothing is published at all. -/
inductive SubscribePhase {α : Type} (policy : RetryPolicy) (settings : StepSettings)
    (request : StepRequest) (s : Session) : List Event → Except StepError α → Prop
  | subscribed {line : LogLine} {t rest : List Event} {s' : Session} {reply : Except LinkFault Unit}
      {result : Except StepError α} :
      RetryMachine policy (SubscribeAttempt settings request.topics) 0
        (s.begun request.step request.topics) t s' (.ok ()) →
      (∀ e ∈ rest, e.call.retries = false) →
      SubscribePhase policy settings request s
        (⟨.log line, ()⟩ :: (t ++ ⟨.publish request.topics.publish request.body, reply⟩ :: rest))
        result
  | failed {line : LogLine} {t rest : List Event} {s' : Session} {e : AttemptsError String} :
      RetryMachine policy (SubscribeAttempt settings request.topics) 0
        (s.begun request.step request.topics) t s' (.error e) →
      (∀ e ∈ rest, e.call.retries = false) →
      (∀ e ∈ t ++ rest, e.call.isPublish = false) →
      SubscribePhase policy settings request s (⟨.log line, ()⟩ :: (t ++ rest))
        (.error (subscribeFailure request.topics e))

section Step

variable {α : Type} {policy : RetryPolicy} {codec : Codec} {settings : StepSettings}
  {request : StepRequest} {read : Bytes → Except CodecError α} {s : Session} {t : List Event}
  {report : StepReport α}

theorem Call.retries_of_isWait {c : Call} (h : c.isWait) : c.retries = false := by
  cases c <;> first | rfl | cases h

theorem Waits.not_retries (h : Waits t) : ∀ e ∈ t, e.call.retries = false := fun e he =>
  Call.retries_of_isWait (h e he)

theorem Closing.not_retries {filters : List String} {clean : Bool} (h : Closing filters t clean) :
    ∀ e ∈ t, e.call.retries = false := by
  intro e he
  obtain hwait | ⟨f, -, hcall⟩ := h.calls e he
  · exact Call.retries_of_isWait hwait
  · rw [hcall]
    rfl

theorem path_runStep_machine (hpolicy : 1 ≤ policy.maxAttempts.toNat) (hidle : s.active = none)
    (h : Path (runStep policy codec settings request read s) t report) :
    SubscribePhase policy settings request s t report.result := by
  cases path_runStep hidle h with
  | @made t u exchanged s' clean first last hexchange hunsubscribe =>
    obtain ⟨-, hclosing⟩ := path_unsubscribeEach hunsubscribe
    have hclosed : ∀ e ∈ u ++ logged [last], e.call.retries = false :=
      List.forall_mem_append.2 ⟨hclosing.not_retries, (waits_logged _).not_retries⟩
    cases path_exchange hexchange with
    | unsubscribed hsubscribe =>
      obtain ⟨o, hmachine, ho⟩ := path_subscribeWithRetry_machine hpolicy hsubscribe
      cases o with
      | ok => cases ho
      | error e =>
        obtain rfl := Except.error.inj ho
        have hsilent : ∀ e ∈ t ++ (u ++ logged [last]), e.call.isPublish = false := by
          refine List.forall_mem_append.2 ⟨fun e he =>
            ((path_subscribeWithRetry hsubscribe).1.calls e he).not_publish,
            List.forall_mem_append.2 ⟨hclosing.not_publish, fun e he =>
              Call.isPublish_of_isWait (waits_logged _ e he)⟩⟩
        have hphase : SubscribePhase policy settings request s
            (⟨.log first, ()⟩ :: (t ++ (u ++ logged [last])))
            (.error (subscribeFailure request.topics e) : Except StepError α) :=
          .failed hmachine hclosed hsilent
        simpa [logged, readAnswer] using hphase
    | @unpublished t _ fault hsubscribe =>
      obtain ⟨o, hmachine, ho⟩ := path_subscribeWithRetry_machine hpolicy hsubscribe
      cases o with
      | error e => cases ho
      | ok =>
        simpa [logged] using SubscribePhase.subscribed hmachine hclosed
    | @asked t v _ answered hsubscribe hresponse =>
      obtain ⟨o, hmachine, ho⟩ := path_subscribeWithRetry_machine hpolicy hsubscribe
      cases o with
      | error e => cases ho
      | ok =>
        have hrest : ∀ e ∈ v ++ (u ++ logged [last]), e.call.retries = false :=
          List.forall_mem_append.2 ⟨hresponse.waits.not_retries, hclosed⟩
        simpa [logged, StepRequest.sent] using SubscribePhase.subscribed hmachine hrest

theorem countP_of_not_retries {c : Call} (hc : c.retries)
    (h : ∀ e ∈ t, e.call.retries = false) : t.countP (fun e => e.call = c) = 0 := by
  refine List.countP_eq_zero.2 fun e he => ?_
  rw [decide_eq_true_eq]
  rintro rfl
  exact absurd (h e he) (Bool.ne_false_iff.2 hc)

theorem SubscribeAttempt.countP_le {topics : Topics} {failed : Nat} {s' : Session}
    {o : Except String Unit} (h : SubscribeAttempt settings topics failed s t s' o) :
    t.countP (fun e => e.call = .subscribe topics.responseFilters) ≤ 1 := by
  obtain ⟨reply, u, rfl, hwaits, -⟩ := h.ok_iff
  rw [List.countP_cons, countP_of_not_retries rfl hwaits.not_retries]
  simp

theorem SubscribePhase.countP_le (hpolicy : 1 ≤ policy.maxAttempts.toNat)
    {result : Except StepError α} (h : SubscribePhase policy settings request s t result) :
    t.countP (fun e => e.call = .subscribe request.topics.responseFilters) ≤
      policy.maxAttempts.toNat := by
  cases h with
  | subscribed hmachine hrest | failed hmachine hrest _ =>
    have hcount := hmachine.countP_le (fun _ _ _ _ _ => SubscribeAttempt.countP_le) nofun nofun
      hpolicy
    have hnone := countP_of_not_retries (c := .subscribe request.topics.responseFilters) rfl hrest
    simpa [List.countP_cons, hnone] using hcount

end Step

theorem ConnectAttempt.countP_le {request : ConnectRequest} {failed : Nat} {t : List Event}
    {o : Except ConnectFault Unit} (h : ConnectAttempt request failed () t () o) :
    t.countP (fun e => e.call = .connect request) ≤ 1 := by
  obtain ⟨reply, rfl, -⟩ := h
  simp

/-- Opening a link and the subscribing of a step follow the same machine, and no pause is longer
than its window. -/
theorem retries_follow_machine {policy : RetryPolicy} (hpolicy : 1 ≤ policy.maxAttempts.toNat) :
    (∀ failed draw, policy.pauseFor failed draw ≤ policy.window failed) ∧
    (∀ request t o,
      (Path (connectWithRetry policy request) t o ↔
        RetryMachine policy (ConnectAttempt request) 0 () t () o) ∧
      (Path (connectWithRetry policy request) t o →
        t.countP (fun e => e.call = .connect request) ≤ policy.maxAttempts.toNat)) ∧
    (∀ (α : Type) (codec : Codec) (settings : StepSettings) (request : StepRequest)
        (read : Bytes → Except CodecError α) (s : Session) (t : List Event) (report : StepReport α),
      s.active = none → Path (runStep policy codec settings request read s) t report →
      SubscribePhase policy settings request s t report.result ∧
        t.countP (fun e => e.call = .subscribe request.topics.responseFilters) ≤
          policy.maxAttempts.toNat) ∧
    (∀ settings topics failed s t s' o, SubscribeAttempt settings topics failed s t s' o →
      ∃ reply u, t = ⟨.subscribe [topics.accepted, topics.rejected], reply⟩ :: u ∧ Waits u ∧
        ∀ later, o = .ok () ↔ reply = .ok () ∧
          (s.recordSubscriptions topics.responseFilters).resetLastPacket.Grants
            settings.budget.maxPolls (polled u ++ later)) := by
  refine ⟨policy.pauseFor_le_window, fun request t o => ⟨path_connectWithRetry_iff hpolicy, ?_⟩,
    fun α codec settings request read s t report hidle h => ?_,
    fun settings topics failed s t s' o h => h.ok_iff⟩
  · intro h
    exact ((path_connectWithRetry_iff hpolicy).1 h).countP_le
      (fun _ _ _ _ _ => ConnectAttempt.countP_le) nofun nofun hpolicy
  · have hphase := path_runStep_machine hpolicy hidle h
    exact ⟨hphase, hphase.countP_le hpolicy⟩

/-- The first attempt to subscribe is refused, and the second one granted. -/
def secondGrant : List (Except LinkFault (Option Packet)) :=
  [.ok (some (.subAck false)), .ok none, .ok (some (.subAck true)),
    .ok (some (.publish "$aws/certificates/create-from-csr/cbor/accepted" [1])),
    .ok (some .unsubAck), .ok (some .unsubAck)]

theorem briefStep_follows_machine :
    1 ≤ RetryPolicy.standard.maxAttempts.toNat ∧ (Session.new 16).active = none ∧
      ∃ t report, Path briefStep t report ∧ report.result = .ok [1] ∧
        t.countP (fun e => e.call = .subscribe verbatimRequest.topics.responseFilters) = 2 ∧
        t.countP (fun e => e.call = .pause 0) = 1 ∧
        SubscribePhase .standard ⟨⟨.ofMillis 700, 4⟩, .tolerate⟩ verbatimRequest (.new 16) t
          report.result := by
  have hpolicy : 1 ≤ RetryPolicy.standard.maxAttempts.toNat := by decide
  have hpath := path_trace polling briefStep secondGrant
  refine ⟨hpolicy, rfl, _, _, hpath, rfl, by decide +kernel, by decide +kernel, ?_⟩
  exact ((retries_follow_machine hpolicy).2.2.1 _ _ _ _ _ _ _ _ rfl hpath).1

end Enrolment
