import Enrolment.Proofs.RetryMachine
import Enrolment.Proofs.Teardown
import Mathlib.Algebra.Group.Action.Defs
import Mathlib.Algebra.Order.Group.Nat
import Mathlib.Algebra.Order.Monoid.Unbundled.Pow
import Mathlib.Algebra.Order.Pi
import Mathlib.Data.List.Perm.Subperm
import Mathlib.Tactic.Abel
import Mathlib.Tactic.Ring

/-!
# Enrolment.Proofs.Effort

How much a run can do. What the link, the store and the source of random numbers answer decides how
often a run calls them, but not without limit: every loop of a run has a budget of its own, a step
never has more than two filters to unsubscribe from, and every pause stands behind a failed attempt.

* `Within`: the bound on what a run costs, with one rule for each way to put runs together.
* `within_attemptFrom`: a repeated attempt, where the pauses are.
* `within_exchange`, `StepPath.costs`, `RunPath.costs`: an exchange, a step and a whole run.
* `Provisioner.run_is_bounded`: the bounds, call by call.
-/

namespace Enrolment

open Interaction

/-! ## What is counted -/

/-- The kinds of calls that are counted. -/
inductive Deed
  | connect
  | subscribe
  | publish
  | unsubscribe
  | disconnect
  | poll
  | pause
  deriving DecidableEq

def Call.deed? : Call → Option Deed
  | .connect _ => some .connect
  | .subscribe _ => some .subscribe
  | .publish .. => some .publish
  | .unsubscribe _ => some .unsubscribe
  | .disconnect => some .disconnect
  | .poll _ => some .poll
  | .pause _ => some .pause
  | _ => none

/-- How many calls of a kind there are. -/
def effort (t : List Event) (k : Deed) : Nat := t.countP fun e => e.call.deed? = some k

/-- One call of a kind. -/
def once (k : Deed) : Deed → Nat := Pi.single k 1

theorem effort_nil : effort [] = 0 := rfl

theorem effort_append (t u : List Event) : effort (t ++ u) = effort t + effort u := by
  funext k
  exact List.countP_append

/-- What one call costs. -/
def Call.cost (c : Call) : Deed → Nat := c.deed?.elim 0 once

theorem effort_cons (e : Event) (t : List Event) : effort (e :: t) = e.call.cost + effort t := by
  funext k
  rw [Call.cost]
  cases h : e.call.deed? with
  | none => simp [effort, h]
  | some k' =>
    by_cases hk : k' = k
    · simp [effort, h, hk, once, Nat.add_comm]
    · have hk' : k ≠ k' := fun hkk => hk hkk.symm
      simp [effort, h, hk, hk', once]

/-- An attempt to open the link or to subscribe that failed: it was refused, or no acknowledgement
that grants it was among the packets of the wait behind it. -/
def Event.fails (later : List Event) : Event → Bool
  | ⟨.connect _, reply⟩ => !reply.isOk
  | ⟨.subscribe _, reply⟩ =>
    !(reply.isOk && true ∈ subAcks (later.takeWhile fun e => e.call.isWait))
  | _ => false

/-- The number of failed attempts. -/
def failures : List Event → Nat
  | [] => 0
  | e :: rest => (if e.fails rest then 1 else 0) + failures rest

theorem failures_le_cons (e : Event) (t : List Event) : failures t ≤ failures (e :: t) := by
  rw [failures]
  omega

theorem failures_le_append (t u : List Event) : failures u ≤ failures (t ++ u) := by
  induction t with
  | nil => exact Nat.le_refl _
  | cons e t ih => exact Nat.le_trans ih (failures_le_cons e _)

/-- A SUBSCRIBE counts as failed when nothing grants it up to the draw behind it. -/
theorem failures_subscribe {filters : List String} {reply : Except LinkFault Unit} {w : List Event}
    (hw : Waits w) (hn : true ∉ subAcks w) (draw : Except String UInt64) (u : List Event) :
    failures u < failures (⟨.subscribe filters, reply⟩ :: w ++ ⟨.draw, draw⟩ :: u) := by
  have hwait : (w ++ ⟨.draw, draw⟩ :: u).takeWhile (fun e => e.call.isWait) = w := by
    rw [List.takeWhile_append_of_pos hw]
    exact List.append_nil w
  have hfails : Event.fails (w ++ ⟨.draw, draw⟩ :: u) ⟨.subscribe filters, reply⟩ = true := by
    simp [Event.fails, hwait, hn]
  have hrest : failures u ≤ failures (w ++ ⟨.draw, draw⟩ :: u) :=
    Nat.le_trans (failures_le_cons _ u) (failures_le_append w _)
  rw [List.cons_append, failures, if_pos hfails]
  omega

/-! ## Bounds -/

/-- No kind of call is made more often than `cost` says, no pause is longer than `limit`, and there
are no more pauses than failed attempts, whatever comes behind. -/
structure Costs (limit : Nat) (cost : Deed → Nat) (t : List Event) : Prop where
  effort_le : effort t ≤ cost
  pause_le : ∀ ms, ⟨.pause ms, ()⟩ ∈ t → ms ≤ limit
  pauses_le : ∀ u, effort t .pause + failures u ≤ failures (t ++ u)

namespace Costs

variable {limit : Nat} {cost cost' : Deed → Nat} {t u : List Event}

theorem mono (h : Costs limit cost t) (hle : cost ≤ cost') : Costs limit cost' t :=
  ⟨h.effort_le.trans hle, h.pause_le, h.pauses_le⟩

theorem append (h : Costs limit cost t) (h' : Costs limit cost' u) :
    Costs limit (cost + cost') (t ++ u) where
  effort_le := by
    rw [effort_append]
    exact add_le_add h.effort_le h'.effort_le
  pause_le := fun ms hms => (List.mem_append.1 hms).elim (h.pause_le ms) (h'.pause_le ms)
  pauses_le := fun v => by
    have ht := h.pauses_le (u ++ v)
    have hu := h'.pauses_le v
    rw [effort_append, Pi.add_apply, List.append_assoc]
    omega

/-- Where nothing pauses, only the number of calls matters. -/
theorem of_no_pause (h : effort t ≤ cost) (hpause : ∀ e ∈ t, e.call.deed? ≠ some .pause) :
    Costs limit cost t where
  effort_le := h
  pause_le := fun ms hms => absurd rfl (hpause _ hms)
  pauses_le := fun u => by
    have hnone : effort t .pause = 0 := List.countP_eq_zero.2 fun e he => by simpa using hpause e he
    rw [hnone, Nat.zero_add]
    exact failures_le_append t u

theorem single {c : Call} (reply : c.Reply) (h : c.deed? ≠ some .pause) :
    Costs limit c.cost [⟨c, reply⟩] := by
  refine of_no_pause ?_ (by simpa using h)
  rw [effort_cons, effort_nil, add_zero]

/-- Calls that are not counted cost nothing. -/
theorem uncounted (h : ∀ e ∈ t, e.call.deed? = none) : Costs limit 0 t := by
  have hnone : effort t = 0 := by
    funext k
    exact List.countP_eq_zero.2 fun e he => by simp [h e he]
  exact of_no_pause (le_of_eq hnone) fun e he => by simp [h e he]

theorem append_uncounted (h : Costs limit cost t) (hu : ∀ e ∈ u, e.call.deed? = none) :
    Costs limit cost (t ++ u) := by
  have happend := h.append (uncounted hu)
  rwa [add_zero] at happend

theorem uncounted_append (ht : ∀ e ∈ t, e.call.deed? = none) (h : Costs limit cost u) :
    Costs limit cost (t ++ u) := by
  have happend := (uncounted ht).append h
  rwa [zero_add] at happend

end Costs

theorem effort_polled (t : List Event) : effort t .poll = (polled t).length := by
  induction t with
  | nil => rfl
  | cons e t ih =>
    obtain ⟨c, reply⟩ := e
    rw [effort_cons, Pi.add_apply, ih]
    cases c
    case poll => rw [polled_poll, List.length_cons, Nat.add_comm]; rfl
    all_goals exact Nat.zero_add _

/-- A wait costs its polls. -/
theorem Waits.costs {t : List Event} (h : Waits t) (limit : Nat) {polls : Nat}
    (hpolls : (polled t).length ≤ polls) : Costs limit (polls • once .poll) t := by
  refine .of_no_pause (fun k => ?_) fun e he hpause => ?_
  · by_cases hk : k = .poll
    · subst hk
      rw [effort_polled]
      simpa [once] using hpolls
    · have hnone : effort t k = 0 := by
        refine List.countP_eq_zero.2 fun e he => ?_
        have hwait := h e he
        cases hc : e.call <;> simp_all [Call.isWait, Call.deed?, eq_comm]
      rw [hnone]
      exact Nat.zero_le _
  · have hwait := h e he
    cases hc : e.call <;> simp_all [Call.isWait, Call.deed?]

theorem uncounted_logged (lines : List LogLine) : ∀ e ∈ logged lines, e.call.deed? = none := by
  intro e he
  obtain ⟨line, -, rfl⟩ := List.mem_map.1 he
  rfl

/-! ## Rules for runs -/

/-- However a run goes, it costs no more than that. -/
def Interaction.Within {α : Type} (limit : Nat) (cost : Deed → Nat) (run : Interaction α) : Prop :=
  ∀ t a, Path run t a → Costs limit cost t

section Rules

variable {α β : Type} {limit : Nat} {cost cost' : Deed → Nat}

theorem Interaction.Within.mono {run : Interaction α} (h : run.Within limit cost)
    (hle : cost ≤ cost') : run.Within limit cost' :=
  fun t a hpath => (h t a hpath).mono hle

theorem within_pure {a : α} : (pure a : Interaction α).Within limit cost := by
  intro t b h
  obtain ⟨rfl, rfl⟩ := path_pure.1 h
  exact .of_no_pause (Pi.le_def.2 fun k => Nat.zero_le _) (by simp)

theorem Interaction.Within.bind {first : Interaction α} {next : α → Interaction β}
    (h : first.Within limit cost) (h' : ∀ a, (next a).Within limit cost') :
    (first >>= next).Within limit (cost + cost') := by
  intro t b hpath
  obtain ⟨t₁, t₂, a, rfl, h₁, h₂⟩ := path_bind.1 hpath
  exact (h t₁ a h₁).append (h' a t₂ b h₂)

/-- What comes after may cost nothing. -/
theorem Interaction.Within.bind_free {first : Interaction α} {next : α → Interaction β}
    (h : first.Within limit cost) (h' : ∀ a, (next a).Within limit 0) :
    (first >>= next).Within limit cost :=
  (h.bind h').mono (le_of_eq (add_zero _))

theorem within_perform (c : Call) (hc : c.deed? ≠ some .pause) :
    (perform c).Within limit c.cost := by
  intro t a h
  cases h with
  | call _ h =>
    cases h
    exact .single _ hc

/-- A call that is not counted may come first. -/
theorem within_uncounted_bind {c : Call} {next : c.Reply → Interaction α} (hc : c.deed? = none)
    (h : ∀ reply, (next reply).Within limit cost) : (perform c >>= next).Within limit cost := by
  intro t a hpath
  obtain ⟨reply, t', rfl, h'⟩ := path_perform_bind.1 hpath
  exact .uncounted_append (t := [⟨c, reply⟩]) (by simpa using hc) (h reply t' a h')

theorem within_log_bind {level : LogLevel} {text : String} {next : Unit → Interaction α}
    (h : (next ()).Within limit cost) : (log level text >>= next).Within limit cost :=
  within_uncounted_bind (c := .log ⟨level, text⟩) rfl fun _ => h

end Rules

/-! ## Waiting -/

theorem PollPath.polled_le {expected : PacketKind} {budget : WaitBudget} {left : Nat}
    {s s' : Session} {t : List Event} {r : Except WaitError Nat}
    (h : PollPath expected budget left s t s' r) : (polled t).length ≤ left := by
  induction h with
  | spent s => exact Nat.le_refl 0
  | fault s fault => simp
  | empty _ ih => simpa using ih
  | refused lines _ | found lines _ _ => simp
  | other lines _ _ _ ih => simpa using ih

theorem within_waitFor {limit : Nat} {expected : PacketKind} {budget : WaitBudget} {s : Session} :
    (waitFor expected budget s).Within limit (budget.maxPolls • once .poll) := by
  intro t r h
  have hpoll := path_pollFor h
  exact hpoll.waits.costs limit hpoll.polled_le

/-- All rounds together make no more polls than the step has. -/
theorem ResponsePath.polled_le {codec : Codec} {settings : StepSettings} {step : Step}
    {remaining : Nat} {s : Session} {t : List Event} {report : StepReport Unit}
    (h : ResponsePath codec settings step remaining s t report) :
    (polled t).length ≤ remaining := by
  induction h with
  | spent s => exact Nat.le_refl 0
  | failed hpoll | accepted hpoll _ | rejected hpoll _ | unexpected hpoll _ _ =>
    exact hpoll.polled_le
  | stray hpoll _ _ _ ih =>
    have hused : _ = _ + _ := (hpoll.used (Nat.le_refl _)).2
    have hround := hpoll.polled_le
    simp only [WaitBudget.withPolls] at hused
    rw [polled_append, List.length_append]
    omega

/-! ## Repeated attempts -/

theorem Retry.delay_le (r : Retry) (n : UInt64) : r.delay n ≤ r.policy.maxDelayMs.toNat :=
  (r.delay_le_windowMs n).trans r.windowMs_le_max

section Attempts

variable {σ ε α : Type} {policy : RetryPolicy} {cost : Deed → Nat}
  {attempt : UInt32 → σ → Interaction (σ × Except ε α)}

/-- An attempt that fails is counted as a failure by the time of the draw behind it. -/
def ShowsFailure (attempt : UInt32 → σ → Interaction (σ × Except ε α)) : Prop :=
  ∀ failed s t s' e, Path (attempt failed s) t (s', .error e) →
    ∀ draw u, failures u < failures (t ++ ⟨.draw, draw⟩ :: u)

/-- A failed attempt with the draw and the pause behind it. -/
theorem Costs.paused {limit ms : Nat} {t : List Event} (h : Costs limit cost t)
    (hcost : cost .pause = 0) (hms : ms ≤ limit) {draw : Except String UInt64}
    (hfail : ∀ u, failures u < failures (t ++ ⟨.draw, draw⟩ :: u)) :
    Costs limit (cost + once .pause) (t ++ [⟨.draw, draw⟩, ⟨.pause ms, ()⟩]) where
  effort_le := by
    have hpair : effort [⟨.draw, draw⟩, ⟨.pause ms, ()⟩] = once .pause := by
      simp [effort_cons, effort_nil, Call.cost, Call.deed?]
    rw [effort_append, hpair]
    exact add_le_add_left h.effort_le _
  pause_le := fun ms' hms' => by
    rcases List.mem_append.1 hms' with ht | hpair
    · exact h.pause_le ms' ht
    · simp only [List.mem_cons, List.not_mem_nil, or_false] at hpair
      rcases hpair with hdraw | hpause
      · cases hdraw
      · cases hpause; exact hms
  pauses_le := fun u => by
    have hnone : effort t .pause ≤ 0 := hcost ▸ h.effort_le .pause
    have hone : effort [⟨.draw, draw⟩, ⟨.pause ms, ()⟩] .pause = 1 := rfl
    have hmore := hfail (⟨.pause ms, ()⟩ :: u)
    have hrest := failures_le_cons ⟨.pause ms, ()⟩ u
    rw [effort_append, Pi.add_apply, hone, List.append_assoc]
    change _ ≤ failures (t ++ ⟨.draw, draw⟩ :: ⟨.pause ms, ()⟩ :: u)
    omega

theorem Ended.costs {r : Retry} {s s' : σ} {t : List Event} {o : Except (AttemptsError ε) α}
    (hattempt : ∀ failed s, (attempt failed s).Within policy.maxDelayMs.toNat cost)
    (h : Ended attempt r s t s' o) : Costs policy.maxDelayMs.toNat cost t := by
  cases h with
  | ok hpath | exhausted _ hpath => exact hattempt _ _ _ _ hpath
  | noEntropy _ hpath =>
    exact (hattempt _ _ _ _ hpath).append_uncounted (by simp [Call.deed?])

/-- Each failed attempt is one of those that were left, and makes one pause. -/
theorem Retried.costs {r r' : Retry} {s s' : σ} {t u : List Event}
    (hattempt : ∀ failed s, (attempt failed s).Within policy.maxDelayMs.toNat cost)
    (hcost : cost .pause = 0) (hfails : ShowsFailure attempt) (h : Retried attempt r s t r' s')
    (hended : Costs policy.maxDelayMs.toNat cost u) (hr : r.policy = policy) :
    Costs policy.maxDelayMs.toNat ((r.left + 1) • cost + r.left • once .pause) (t ++ u) := by
  induction h with
  | start r s =>
    refine hended.mono ?_
    rw [succ_nsmul', add_assoc]
    exact le_self_add
  | @again r _ _ _ _ t v _ n hmore hpath _ ih =>
    have hpaused := (hattempt _ _ _ _ hpath).paused hcost (hr ▸ r.delay_le n)
      (hfails _ _ _ _ _ hpath (.ok n))
    have hsum : (r.left + 1) • cost + r.left • once .pause =
        cost + once .pause + ((r.record.left + 1) • cost + r.record.left • once .pause) := by
      rw [← Retry.left_record hmore, succ_nsmul cost (r.record.left + 1), succ_nsmul (once .pause)]
      abel
    rw [hsum]
    simpa using hpaused.append (ih hr)

theorem within_attemptFrom
    (hattempt : ∀ failed s, (attempt failed s).Within policy.maxDelayMs.toNat cost)
    (hcost : cost .pause = 0) (hfails : ShowsFailure attempt) {r : Retry} {s : σ}
    (hr : r.policy = policy) :
    (attemptFrom attempt r s).Within policy.maxDelayMs.toNat
      ((r.left + 1) • cost + r.left • once .pause) := by
  rintro t ⟨s', o⟩ h
  obtain ⟨t₁, t₂, r₁, s₁, rfl, hretried, hended⟩ := path_attemptFrom.1 h
  exact hretried.costs hattempt hcost hfails (hended.costs hattempt) hr

/-- What a repeated attempt costs, if there are `n` attempts. -/
def repeated (n : Nat) (cost : Deed → Nat) : Deed → Nat := n • cost + (n - 1) • once .pause

/-- There is always a first attempt. -/
def RetryPolicy.attempts (policy : RetryPolicy) : Nat := max 1 policy.maxAttempts.toNat

theorem within_attemptUnder (hattempt : ∀ failed s,
      (attempt failed s).Within policy.maxDelayMs.toNat cost) (hcost : cost .pause = 0)
    (hfails : ShowsFailure attempt) {s : σ} :
    (attemptUnder policy attempt s).Within policy.maxDelayMs.toNat
      (repeated policy.attempts cost) := by
  have hattempts : policy.attempts = (Retry.start policy).left + 1 := by
    simp only [RetryPolicy.attempts, Retry.left, Retry.start, UInt32.toNat_zero]
    omega
  rw [repeated, hattempts]
  exact within_attemptFrom hattempt hcost hfails rfl

end Attempts

/-! ## The parts of a run -/

section Parts

variable {policy : RetryPolicy}

/-- A call that is refused is a failure. -/
theorem failures_connect {request : ConnectRequest} {fault : LinkFault} (t : List Event) :
    failures t < failures (⟨.connect request, .error fault⟩ :: t) := by
  have hfails : Event.fails t ⟨.connect request, .error fault⟩ = true := rfl
  rw [failures, if_pos hfails]
  omega

theorem connectAttempt_showsFailure (request : ConnectRequest) :
    ShowsFailure (connectAttempt request) := by
  intro failed _ t _ e h draw u
  obtain ⟨reply, rfl, hreply⟩ :=
    (attempts_connectAttempt_iff failed.toNat_lt).1 (attempts_toNat.2 h)
  cases reply with
  | ok _ => cases hreply
  | error fault =>
    refine Nat.lt_of_le_of_lt ?_ (failures_connect _)
    exact failures_le_append [_, _] u

theorem within_connectWithRetry (request : ConnectRequest) :
    (connectWithRetry policy request).Within policy.maxDelayMs.toNat
      (repeated policy.attempts (once .connect)) := by
  have hattempt (failed : UInt32) (u : Unit) :
      (connectAttempt request failed u).Within policy.maxDelayMs.toNat (once .connect) := by
    have honce : (connectOnce request failed).Within policy.maxDelayMs.toNat
        (once .connect) := by
      refine (within_perform (.connect request) nofun).bind_free fun reply => ?_
      cases reply <;> exact within_log_bind within_pure
    exact honce.bind_free fun _ => within_pure
  rw [connectWithRetry_eq]
  exact (within_attemptUnder hattempt rfl (connectAttempt_showsFailure request)).bind_free
    fun _ => within_pure

/-- One attempt to subscribe: a SUBSCRIBE and a wait. -/
def subscribeCost (polls : Nat) : Deed → Nat := once .subscribe + polls • once .poll

theorem within_subscribeAttempt (settings : StepSettings) (topics : Topics) (failed : UInt32)
    (s : Session) (limit : Nat) :
    (subscribeAttempt settings topics failed s).Within limit
      (subscribeCost settings.budget.maxPolls) := by
  have honce : (subscribeOnce settings topics.responseFilters s).Within limit
      (subscribeCost settings.budget.maxPolls) := by
    refine (within_perform (.subscribe topics.responseFilters) nofun).bind fun reply => ?_
    cases reply with
    | error fault => exact within_pure
    | ok _ =>
      refine within_waitFor.bind_free fun (s, r) => ?_
      cases r with
      | error e => exact within_pure
      | ok used =>
        by_cases hgranted : s.lastSubAck = some true
        · simp only [hgranted, if_true]; exact within_pure
        · simp only [hgranted, if_false]; exact within_pure
  refine honce.bind_free fun (s, outcome) => ?_
  cases outcome with
  | ok _ => exact within_pure
  | error _ => exact within_log_bind within_pure

/-- Whether a SUBSCRIBE was taken or not, nothing but waiting follows it. -/
theorem SubscribeAttempt.waits {settings : StepSettings} {topics : Topics} {failed : Nat}
    {s s' : Session} {t : List Event} {o : Except String Unit}
    (h : SubscribeAttempt settings topics failed s t s' o) :
    ∃ reply w, t = ⟨.subscribe topics.responseFilters, reply⟩ :: w ∧ Waits w := by
  cases h with
  | refused fault => exact ⟨_, _, rfl, waits_logged _⟩
  | waited hpoll => exact ⟨_, _, rfl, waits_append.2 ⟨hpoll.waits, waits_logged _⟩⟩

theorem subscribeAttempt_showsFailure (settings : StepSettings) (topics : Topics) :
    ShowsFailure (subscribeAttempt settings topics) := by
  intro failed s t s' e h draw u
  have hnone : true ∉ subAcks t := (path_subscribeAttempt h).2
  obtain ⟨reply, w, rfl, hw⟩ :=
    (SubscribeAttempt.of_path failed.toNat_lt (attempts_toNat.2 h)).waits
  rw [subAcks_cons] at hnone
  exact failures_subscribe hw (fun hmem => hnone (List.mem_append_right _ hmem)) draw u

/-- An exchange: the attempts to subscribe, the request and the wait for the answer. -/
def exchangeCost (attempts polls : Nat) : Deed → Nat :=
  repeated attempts (subscribeCost polls) + (once .publish + polls • once .poll)

theorem within_exchange (codec : Codec) (settings : StepSettings) (request : StepRequest)
    (s : Session) :
    (exchange policy codec settings request s).Within policy.maxDelayMs.toNat
      (exchangeCost policy.attempts settings.budget.maxPolls) := by
  have hsubscribe : (subscribeWithRetry policy settings request.topics s).Within
      policy.maxDelayMs.toNat
      (repeated policy.attempts (subscribeCost settings.budget.maxPolls)) := by
    rw [subscribeWithRetry_eq]
    have hattempt (failed : UInt32) (s : Session) :=
      within_subscribeAttempt settings request.topics failed s policy.maxDelayMs.toNat
    exact (within_attemptUnder hattempt rfl
      (subscribeAttempt_showsFailure settings request.topics)).bind_free fun _ => within_pure
  refine hsubscribe.bind fun (s, subscribed) => ?_
  cases subscribed with
  | error e => exact within_pure
  | ok _ =>
    refine (within_perform (.publish request.topics.publish request.body) nofun).bind
      fun reply => ?_
    cases reply with
    | error fault => exact within_pure
    | ok _ =>
      have hanswer : (awaitResponse codec settings request.step settings.budget.maxPolls
          settings.budget.maxPolls s).Within policy.maxDelayMs.toNat
          (settings.budget.maxPolls • once .poll) := by
        intro t report h
        have hresponse := path_awaitResponse h (Nat.le_refl _)
        exact hresponse.waits.costs _ hresponse.polled_le
      exact hanswer.bind_free fun _ => within_pure

/-- Unsubscribing from one filter: an UNSUBSCRIBE and a wait. -/
def unsubscribeCost (polls : Nat) : Deed → Nat := once .unsubscribe + polls • once .poll

theorem within_unsubscribeOne (settings : StepSettings) (filter : String) (s : Session)
    {limit : Nat} :
    (unsubscribeOne settings filter s).Within limit
      (unsubscribeCost settings.budget.maxPolls) := by
  have hrequest : (requestUnsubscribe settings filter s).Within limit
      (unsubscribeCost settings.budget.maxPolls) := by
    refine (within_perform (.unsubscribe filter) nofun).bind fun reply => ?_
    cases reply with
    | error fault => exact within_pure
    | ok _ =>
      exact within_waitFor.bind_free fun _ => within_pure
  exact hrequest.bind_free fun _ => within_pure

theorem within_unsubscribeEach (settings : StepSettings) (filters : List String) (s : Session)
    (limit : Nat) :
    (unsubscribeEach settings filters s).Within limit
      (filters.length • unsubscribeCost settings.budget.maxPolls) := by
  induction filters generalizing s with
  | nil => exact within_pure
  | cons filter filters ih =>
    rw [List.length_cons, succ_nsmul']
    refine (within_unsubscribeOne settings filter s).bind fun unsubscribed => ?_
    obtain ⟨s, _ | _⟩ := unsubscribed
    · exact within_log_bind ((ih s).bind_free fun _ => within_pure)
    · exact (ih s).bind_free fun _ => within_pure

/-- A step: an exchange, and unsubscribing from two filters. -/
def stepCost (attempts polls : Nat) : Deed → Nat :=
  exchangeCost attempts polls + 2 • unsubscribeCost polls

/-- A session with no filters before an exchange has two at most after it. -/
theorem ExchangePath.length_subscriptions_le {codec : Codec} {settings : StepSettings}
    {request : StepRequest} {s : Session} {t : List Event} {report : StepReport Unit}
    (h : ExchangePath policy codec settings request s t report) (hs : s.subscriptions = []) :
    report.session.subscriptions.length ≤ 2 := by
  have hsub : report.session.subscriptions ⊆ request.topics.responseFilters := by
    intro f hf
    obtain hold | ⟨-, hnew⟩ := (h.mem_subscriptions f).1 hf
    · rw [hs] at hold
      cases hold
    · exact hnew
  have hnodup : report.session.subscriptions.Nodup := by
    rw [h.session.subscriptions]
    exact Session.nodup_after (by rw [hs]; exact List.nodup_nil) t
  exact (hnodup.subperm hsub).length_le

theorem StepPath.costs {α : Type} {codec : Codec} {settings : StepSettings}
    {request : StepRequest} {read : Bytes → Except CodecError α} {s : Session} {t : List Event}
    {report : StepReport α} (h : StepPath policy codec settings request read s t report)
    (hs : s.subscriptions = []) :
    Costs policy.maxDelayMs.toNat (stepCost policy.attempts settings.budget.maxPolls) t := by
  cases h with
  | @made t u exchanged s' clean first last hexchange hu =>
    have hlength := (path_exchange hexchange).length_subscriptions_le
      ((Session.begun_subscriptions ..).trans hs)
    have hopening := within_exchange codec settings request _ _ _ hexchange
    have hclosing := within_unsubscribeEach settings _ _ policy.maxDelayMs.toNat _ _ hu
    have htwo := hclosing.mono (nsmul_le_nsmul_left (Pi.le_def.2 fun _ => Nat.zero_le _) hlength)
    exact ((hopening.append htwo).uncounted_append (uncounted_logged [first])).append_uncounted
      (uncounted_logged [last])

end Parts

/-! ## The run -/

namespace Provision

variable {plan : ProvisionPlan} {policy : RetryPolicy} {codec : Codec} {t : List Event}
  {report : ProvisionReport}

theorem RegisterPath.costs {credential : Credential} {s : Session}
    (h : RegisterPath plan policy codec credential s t report) (hidle : s.active = none)
    (hs : s.subscriptions = []) :
    Costs policy.maxDelayMs.toNat
      (stepCost policy.attempts plan.settings.budget.maxPolls) t := by
  cases h with
  | unwritten _ => exact within_pure _ _ (.done ())
  | failed _ hmade _ => exact (path_runStep hidle hmade).costs hs
  | recorded _ hmade _ =>
    exact ((path_runStep hidle hmade).costs hs).append_uncounted (by simp [Call.deed?])

theorem ObtainPath.costs {artifact : KeyArtifact}
    (h : ObtainPath plan policy codec artifact t report) :
    Costs policy.maxDelayMs.toNat
      (2 • stepCost policy.attempts plan.settings.budget.maxPolls) t := by
  have hone : stepCost policy.attempts plan.settings.budget.maxPolls ≤
      2 • stepCost policy.attempts plan.settings.budget.maxPolls := by
    rw [two_nsmul]
    exact le_self_add
  cases h with
  | unwritten _ => exact within_pure _ _ (.done ())
  | failed _ hmade _ => exact ((path_runStep rfl hmade).costs rfl).mono hone
  | unstored _ hmade _ =>
    exact (((path_runStep rfl hmade).costs rfl).append_uncounted (by simp [Call.deed?])).mono hone
  | @stored _ t u _ credential line _ _ hmade _ hregister =>
    have hstep := path_runStep rfl hmade
    have hfirst := (hstep.costs rfl).append_uncounted (u := [⟨.log line, ()⟩,
      ⟨.storeCertificate artifact.handle plan.certificateLabel credential.certificatePem, .ok ()⟩])
      (by simp [Call.deed?])
    have hboth := hfirst.append (hregister.costs hstep.idle hstep.subscriptions)
    rw [two_nsmul]
    simpa using hboth

/-- A run: the attempts to open the link, two steps, and closing the link. -/
def runCost (attempts polls : Nat) : Deed → Nat :=
  repeated attempts (once .connect) + 2 • stepCost attempts polls + once .disconnect

/-- The cost of a run, kind by kind. -/
theorem runCost_apply (attempts polls : Nat) (k : Deed) :
    runCost attempts polls k = match k with
      | .connect => attempts
      | .subscribe => 2 * attempts
      | .publish => 2
      | .unsubscribe => 4
      | .disconnect => 1
      | .poll => 2 * (attempts + 3) * polls
      | .pause => 3 * (attempts - 1) := by
  simp only [runCost, stepCost, exchangeCost, repeated, subscribeCost, unsubscribeCost, once,
    Pi.add_apply, Pi.smul_apply, smul_eq_mul, Pi.single_apply]
  cases k with
  | poll =>
    simp only [reduceCtorEq, if_false, if_true]
    ring
  | _ =>
    simp only [reduceCtorEq, if_false, if_true]
    omega

theorem DrivePath.costs (h : DrivePath plan policy codec t report) :
    Costs policy.maxDelayMs.toNat
      (runCost policy.attempts plan.settings.budget.maxPolls) t := by
  cases h with
  | noKey => exact .mono (.uncounted (by simp [Call.deed?])) (Pi.le_def.2 fun _ => Nat.zero_le _)
  | @noLink artifact t _ hconnect =>
    refine .uncounted_append (t := [_]) (by simp [Call.deed?]) ?_
    refine (within_connectWithRetry _ _ _ hconnect).mono ?_
    rw [runCost, add_assoc]
    exact le_self_add
  | @linked artifact t u _ reply lines hconnect hobtain =>
    have hopen := (within_connectWithRetry _ _ _ hconnect).uncounted_append
      (t := [⟨.generateKey plan.keyLabel plan.connect.clientId, .ok artifact⟩])
      (by simp [Call.deed?])
    refine (hopen.append hobtain.costs).append ?_
    exact (Costs.single (c := .disconnect) reply nofun).append_uncounted (uncounted_logged lines)

theorem within_run : (run plan policy codec).Within policy.maxDelayMs.toNat
    (runCost policy.attempts plan.settings.budget.maxPolls) := by
  have hdrive : (drive plan policy codec).Within policy.maxDelayMs.toNat
      (runCost policy.attempts plan.settings.budget.maxPolls) :=
    fun _ _ h => (path_drive h).costs
  refine within_uncounted_bind rfl fun started => hdrive.bind_free fun driven => ?_
  cases hr : driven.result with
  | ok registration =>
    simp only [after, hr]
    exact within_uncounted_bind rfl fun ended => within_log_bind within_pure
  | error e =>
    simp only [after, hr]
    exact within_log_bind within_pure

end Provision

/-- However the surroundings answer, a run ends, and the number of its calls is bounded by the
attempts and the polls that it is allowed. No pause is longer than the policy's limit, and a run
without a failed attempt makes none. -/
theorem Provisioner.run_is_bounded {σ : Type} (p : Provisioner) (world : World σ) (s : σ) :
    let t := p.run.trace world s
    let attempts := max 1 p.policy.maxAttempts.toNat
    let polls := p.plan.settings.budget.maxPolls
    Path p.run t (p.run.run world s).1 ∧
      effort t .connect ≤ attempts ∧
      effort t .subscribe ≤ 2 * attempts ∧
      effort t .publish ≤ 2 ∧
      effort t .unsubscribe ≤ 4 ∧
      effort t .disconnect ≤ 1 ∧
      effort t .poll ≤ 2 * (attempts + 3) * polls ∧
      effort t .pause ≤ 3 * (attempts - 1) ∧
      (∀ ms, ⟨.pause ms, ()⟩ ∈ t → ms ≤ p.policy.maxDelayMs.toNat) ∧
      (failures t = 0 → effort t .pause = 0) := by
  intro t attempts polls
  have hpath : Path p.run t (p.run.run world s).1 := path_trace world p.run s
  have hcosts : Costs p.policy.maxDelayMs.toNat (Provision.runCost attempts polls) t :=
    (Provision.within_run.bind_free fun _ => within_pure) t _ hpath
  have hle (k : Deed) := Provision.runCost_apply attempts polls k ▸ hcosts.effort_le k
  refine ⟨hpath, hle .connect, hle .subscribe, hle .publish, hle .unsubscribe, hle .disconnect,
    hle .poll, hle .pause, hcosts.pause_le, fun hnone => ?_⟩
  have hpauses := hcosts.pauses_le []
  rw [List.append_nil, hnone] at hpauses
  omega

theorem Provisioner.device_run_is_bounded :
    let p : Provisioner := .new Provision.devicePlan .standard (.standard .standard .cbor)
    let t := p.run.trace polling Provision.deviceAnswers
    failures t = 0 ∧ effort t .poll = 8 ∧ effort t .poll ≤ 2 * (5 + 3) * 2 ∧
      effort t .pause = 0 := by
  intro p t
  have hnone : failures t = 0 := by decide +kernel
  obtain ⟨-, -, -, -, -, -, hpolls, -, -, hpauses⟩ :=
    p.run_is_bounded polling Provision.deviceAnswers
  exact ⟨hnone, by decide +kernel, hpolls, hpauses hnone⟩

end Enrolment
