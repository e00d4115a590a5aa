import Enrolment.Proofs.Operations
import Enrolment.Proofs.Outcome
import Enrolment.Proofs.Provision

/-!
# Enrolment.Proofs.Teardown

What a step leaves behind. However the link behaves, and whatever the result is, a step ends with
nothing in flight and no filter recorded: every filter that the session has when the exchange ends
is unsubscribed, once and in order, and nothing else is asked of the link from then on. So the next
step can always begin.

* `Closing.cleared`: whether unsubscribing was clean can be read off the events.
* `steps_tear_down`: what a step asks of the link and what it leaves, and that no run is ever busy.
-/

namespace Enrolment

open Interaction

/-! ## What is asked of the link -/

/-- The calls that ask the link for something: to subscribe, to publish or to unsubscribe. -/
def Call.isRequest : Call → Bool
  | .subscribe _ | .publish .. | .unsubscribe _ => true
  | _ => false

/-- What some events ask of the link, in order. -/
def requests (t : List Event) : List Call := (t.map Event.call).filter Call.isRequest

@[simp] theorem requests_append (t u : List Event) :
    requests (t ++ u) = requests t ++ requests u := by
  simp [requests]

theorem requests_eq_nil {t : List Event} (h : ∀ e ∈ t, e.call.isRequest = false) :
    requests t = [] := by
  simpa [requests] using h

theorem Call.isRequest_of_isWait {c : Call} (h : c.isWait) : c.isRequest = false := by
  cases c <;> first | rfl | cases h

theorem Call.isRequest_of_isQuiet {c : Call} (h : c.isQuiet) : c.isRequest = false := by
  cases c <;> first | rfl | cases h

theorem Waits.requests {t : List Event} (h : Waits t) : requests t = [] :=
  requests_eq_nil fun e he => Call.isRequest_of_isWait (h e he)

theorem Quiet.requests {t : List Event} (h : Quiet t) : requests t = [] :=
  requests_eq_nil fun e he => Call.isRequest_of_isQuiet (h e he)

theorem Opening.requests {filters : List String} {s s' : Session} {t : List Event}
    (h : Opening filters s t s') : ∃ k, requests t = List.replicate k (.subscribe filters) := by
  refine ⟨(Enrolment.requests t).length, List.eq_replicate_of_mem fun c hc => ?_⟩
  obtain ⟨hmem, hrequest⟩ := List.mem_filter.1 hc
  obtain ⟨e, he, rfl⟩ := List.mem_map.1 hmem
  obtain ho | hw | hq := h.calls e he
  · exact ho
  · rw [Call.isRequest_of_isWait hw] at hrequest; cases hrequest
  · rw [Call.isRequest_of_isQuiet hq] at hrequest; cases hrequest

theorem Closing.requests {filters : List String} {t : List Event} {clean : Bool}
    (h : Closing filters t clean) : requests t = filters.map .unsubscribe := by
  induction h with
  | nil => rfl
  | @cons filter reply filters t u clean hw _ ih =>
    rw [requests_append, ih, List.map_cons]
    show Call.unsubscribe filter :: Enrolment.requests t ++ _ = _
    rw [hw.requests]
    rfl

section Exchange

variable {policy : RetryPolicy} {codec : Codec} {settings : StepSettings} {request : StepRequest}
  {s : Session} {t : List Event} {exchanged : StepReport Unit}

theorem ExchangePath.requests (h : ExchangePath policy codec settings request s t exchanged) :
    ∃ k sent, (sent = [] ∨ sent = [.publish request.topics.publish request.body]) ∧
      requests t = List.replicate k (.subscribe request.topics.responseFilters) ++ sent := by
  cases h with
  | unsubscribed hsub =>
    obtain ⟨k, hk⟩ := (path_subscribeWithRetry hsub).1.requests
    exact ⟨k, [], .inl rfl, by rw [hk, List.append_nil]⟩
  | unpublished hsub =>
    obtain ⟨k, hk⟩ := (path_subscribeWithRetry hsub).1.requests
    exact ⟨k, _, .inr rfl, by rw [requests_append, hk]; rfl⟩
  | @asked t u _ _ hsub hwait =>
    obtain ⟨k, hk⟩ := (path_subscribeWithRetry hsub).1.requests
    refine ⟨k, _, .inr rfl, ?_⟩
    rw [requests_append, hk]
    show _ ++ Call.publish request.topics.publish request.body :: Enrolment.requests u = _
    rw [hwait.waits.requests]

theorem Session.nodup_follow {s : Session} (h : s.subscriptions.Nodup) (e : Event) :
    (s.follow e).subscriptions.Nodup := by
  simp only [follow]
  split
  · exact nodup_recordSubscriptions h _
  · exact h.filter _
  · rw [(dispatch_frame s _).subscriptions]; exact h
  · exact h

theorem Session.nodup_after {s : Session} (h : s.subscriptions.Nodup) (t : List Event) :
    (s.after t).subscriptions.Nodup := by
  induction t generalizing s with
  | nil => exact h
  | cons e t ih => exact ih (nodup_follow h e)

theorem ResponsePath.not_busy {remaining : Nat}
    (h : ResponsePath codec settings request.step remaining s t exchanged) (cause : SessionError) :
    exchanged.result ≠ .error (.busy cause) := by
  induction h with
  | @failed _ _ _ _ e _ => cases e <;> nofun
  | stray _ _ _ _ ih => exact ih
  | _ => nofun

theorem ExchangePath.not_busy (h : ExchangePath policy codec settings request s t exchanged)
    (cause : SessionError) : exchanged.result ≠ .error (.busy cause) := by
  cases h with
  | unsubscribed hsub =>
    obtain ⟨attempts, reason, rfl⟩ | ⟨reason, rfl⟩ := path_subscribeWithRetry_error hsub <;> nofun
  | unpublished _ => nofun
  | asked _ hwait => exact hwait.not_busy cause

end Exchange

/-! ## Clean endings -/

/-- No UNSUBACK is delivered before the next call that is neither a poll nor a line of the log. -/
def Settled (t : List Event) : Prop := unsubAcked (t.takeWhile fun e => e.call.isWait) = false

/-- Every UNSUBSCRIBE of some filters was taken, and the wait after it was given its UNSUBACK. -/
def cleared (filters : List String) : List Event → Bool
  | [] => true
  | ⟨.unsubscribe filter, reply⟩ :: rest =>
    (filter ∉ filters || reply.isOk && unsubAcked (rest.takeWhile fun e => e.call.isWait)) &&
      cleared filters rest
  | _ :: rest => cleared filters rest

/-- None of some filters is unsubscribed. -/
def Keeps (filters : List String) (t : List Event) : Prop :=
  ∀ e ∈ t, ∀ f ∈ filters, e.call ≠ .unsubscribe f

section Cleared

variable {filters : List String} {t u : List Event}

theorem Keeps.nil : Keeps filters [] := List.forall_mem_nil _

theorem Keeps.cons {e : Event} (he : ∀ f, e.call ≠ .unsubscribe f) (h : Keeps filters t) :
    Keeps filters (e :: t) := List.forall_mem_cons.2 ⟨fun f _ => he f, h⟩

theorem Keeps.append (h : Keeps filters t) (h' : Keeps filters u) : Keeps filters (t ++ u) :=
  List.forall_mem_append.2 ⟨h, h'⟩

theorem unsubAcked_append (t u : List Event) :
    unsubAcked (t ++ u) = (unsubAcked t || unsubAcked u) := by
  simp [unsubAcked]

theorem cleared_cons_of_keeps {e : Event} (h : ∀ f ∈ filters, e.call ≠ .unsubscribe f) :
    cleared filters (e :: t) = cleared filters t := by
  obtain ⟨c, r⟩ := e
  cases c with
  | unsubscribe f =>
    have hf : f ∉ filters := fun hmem => h f hmem rfl
    simp [cleared, hf]
  | _ => rfl

theorem Keeps.cleared_append (h : Keeps filters t) (u : List Event) :
    cleared filters (t ++ u) = cleared filters u := by
  induction t with
  | nil => rfl
  | cons e t ih =>
    obtain ⟨he, ht⟩ := List.forall_mem_cons.1 h
    rw [List.cons_append, cleared_cons_of_keeps he, ih ht]

theorem Keeps.cleared (h : Keeps filters t) : cleared filters t = true := by
  have happend := h.cleared_append []
  rwa [List.append_nil] at happend

theorem Waits.keeps (h : Waits t) : Keeps filters t := by
  intro e he f _ hc
  have hw := h e he
  rw [hc] at hw
  cases hw

theorem Quiet.keeps (h : Quiet t) : Keeps filters t := by
  intro e he f _ hc
  have hq := h e he
  rw [hc] at hq
  cases hq

theorem settled_wait (hw : Waits t) (ht : unsubAcked t = false) : Settled (t ++ u) ↔ Settled u := by
  simp only [Settled]
  rw [List.takeWhile_append_of_pos hw, unsubAcked_append, ht, Bool.false_or]

theorem unsubAcked_logged (lines : List LogLine) : unsubAcked (logged lines) = false := by
  rw [unsubAcked, (quiet_logged lines).packets]
  rfl

/-- An exchange unsubscribes from nothing. -/
theorem ExchangePath.keeps {policy : RetryPolicy} {codec : Codec} {settings : StepSettings}
    {request : StepRequest} {s : Session} {exchanged : StepReport Unit}
    (h : ExchangePath policy codec settings request s t exchanged) : Keeps filters t :=
  fun e he f _ => h.not_unsubscribe e he f

theorem Closing.settled {filters' : List String} {clean : Bool} (h : Closing filters' t clean)
    (hu : Settled u) : Settled (t ++ u) := by
  cases h with
  | nil => exact hu
  | cons _ _ => rfl

theorem Closing.cleared {filters' : List String} {clean : Bool} (h : Closing filters' t clean)
    (hsub : filters' ⊆ filters) (hu : Settled u) :
    cleared filters (t ++ u) = (clean && cleared filters u) := by
  induction h with
  | nil => rfl
  | @cons filter reply rest w v clean hw hrest ih =>
    obtain ⟨hfilter, hsub⟩ := List.cons_subset.1 hsub
    have hacked : unsubAcked ((w ++ (v ++ u)).takeWhile fun e => e.call.isWait) = unsubAcked w := by
      rw [List.takeWhile_append_of_pos hw, unsubAcked_append, hrest.settled hu, Bool.or_false]
    rw [List.cons_append, List.cons_append, List.append_assoc, Enrolment.cleared, hacked,
      hw.keeps.cleared_append, ih hsub]
    simp [hfilter, Bool.and_assoc]

/-- Whether a step has unsubscribed cleanly, whatever comes after it that leaves its filters
alone. -/
theorem ExchangePath.cleared {policy : RetryPolicy} {codec : Codec} {settings : StepSettings}
    {request : StepRequest} {s : Session} {exchanged : StepReport Unit} {closing : List Event}
    {clean : Bool} (h : ExchangePath policy codec settings request s t exchanged)
    (hc : Closing exchanged.session.subscriptions closing clean)
    (hsub : exchanged.session.subscriptions ⊆ filters) (first last : LogLine)
    (hsettled : Settled u) (hkeeps : Keeps filters u) :
    cleared filters (logged [first] ++ t ++ closing ++ logged [last] ++ u) = clean := by
  have hlast : Settled (logged [last] ++ u) :=
    (settled_wait (waits_logged _) (unsubAcked_logged _)).2 hsettled
  rw [List.append_assoc, List.append_assoc, List.append_assoc,
    (quiet_logged [first]).keeps.cleared_append, h.keeps.cleared_append, hc.cleared hsub hlast,
    (quiet_logged [last]).keeps.cleared_append, hkeeps.cleared, Bool.and_true]

end Cleared

/-! ## The step -/

/-- What a step asks of the link, and what it leaves: some SUBSCRIBEs and one publish at most, and
then an UNSUBSCRIBE for each filter that the session has when the exchange ends. -/
structure TornDown {α : Type} (request : StepRequest) (s : Session) (t : List Event)
    (exchanged : StepReport Unit) (report : StepReport α) : Prop where
  idle : report.session.active = none
  empty : report.session.subscriptions = []
  requests : ∃ k sent, (sent = [] ∨ sent = [.publish request.topics.publish request.body]) ∧
    requests t = List.replicate k (.subscribe request.topics.responseFilters) ++ sent ++
      exchanged.session.subscriptions.map .unsubscribe
  nodup : exchanged.session.subscriptions.Nodup
  mem : ∀ f ∈ request.topics.responseFilters, f ∈ exchanged.session.subscriptions ↔
    f ∈ s.subscriptions ∨ ⟨.subscribe request.topics.responseFilters, .ok ()⟩ ∈ t

section Step

variable {α : Type} {policy : RetryPolicy} {codec : Codec} {settings : StepSettings}
  {request : StepRequest} {read : Bytes → Except CodecError α} {s : Session} {t : List Event}
  {report : StepReport α}

theorem StepPath.tornDown (h : StepPath policy codec settings request read s t report)
    (hnodup : s.subscriptions.Nodup) :
    ∃ opening closing exchanged first, t = ⟨.log first, ()⟩ :: opening ++ closing ∧
      Path (exchange policy codec settings request (s.begun request.step request.topics)) opening
        exchanged ∧
      TornDown request s t exchanged report := by
  have hempty := h.subscriptions
  cases h with
  | @made opening u exchanged s' clean first last hexchange hu =>
    have hx := path_exchange hexchange
    obtain ⟨-, hc⟩ := path_unsubscribeEach hu
    refine ⟨opening, u ++ logged [last], exchanged, first, by simp [logged], hexchange, ?_⟩
    -- Neither unsubscribing nor the lines of the log are SUBSCRIBEs.
    have hopening : ∀ filters reply,
        ⟨.subscribe filters, reply⟩ ∈ logged [first] ++ opening ++ u ++ logged [last] ↔
          ⟨.subscribe filters, reply⟩ ∈ opening := by
      intro filters reply
      have hclosing : ⟨.subscribe filters, reply⟩ ∉ u := fun hmem => hc.not_subscribe _ hmem _ rfl
      simp [logged, hclosing]
    exact {
      idle := rfl
      empty := hempty
      requests := by
        obtain ⟨k, sent, hsent, hrequests⟩ := hx.requests
        exact ⟨k, sent, hsent, by simp [(quiet_logged _).requests, hrequests, hc.requests]⟩
      nodup := by
        rw [hx.session.subscriptions]
        exact Session.nodup_after (s := s.begun request.step request.topics) hnodup opening
      mem := fun f hf => by
        rw [hx.mem_subscriptions, Session.begun_subscriptions, hopening]
        simp [hf] }

/-- A step that begins while none is in flight never finds another one there. -/
theorem StepPath.not_busy (h : StepPath policy codec settings request read s t report)
    (cause : SessionError) : report.result ≠ .error (.busy cause) := by
  cases h with
  | @made t u exchanged s' clean first last hx hu =>
    have hbusy := (path_exchange hx).not_busy cause
    cases hr : exchanged.result with
    | error e => simpa [readAnswer, hr] using hbusy
    | ok _ =>
      cases hread : read exchanged.session.payload.data <;>
        simp [readAnswer, hr, hread, Except.mapError]

end Step

/-! ## The run -/

namespace Provision

variable {plan : ProvisionPlan} {policy : RetryPolicy} {codec : Codec} {t : List Event}
  {report : ProvisionReport}

theorem RegisterPath.not_busy {credential : Credential} {s : Session}
    (h : RegisterPath plan policy codec credential s t report) (hidle : s.active = none)
    (cause : SessionError) : report.result ≠ .error (.step (.busy cause)) := by
  cases h with
  | unwritten _ => nofun
  | failed _ hmade hr =>
    have hbusy := (path_runStep hidle hmade).not_busy cause
    simpa [hr] using hbusy
  | @recorded _ _ _ _ _ reply _ _ _ => cases reply <;> nofun

theorem ObtainPath.not_busy {artifact : KeyArtifact}
    (h : ObtainPath plan policy codec artifact t report) (cause : SessionError) :
    report.result ≠ .error (.step (.busy cause)) := by
  cases h with
  | unwritten _ | unstored _ _ _ => nofun
  | failed _ hmade hr =>
    have hbusy := (path_runStep rfl hmade).not_busy cause
    simpa [hr] using hbusy
  | stored _ hmade _ hregister => exact hregister.not_busy (path_runStep rfl hmade).idle cause

theorem RunPath.not_busy (h : RunPath plan policy codec t report) (cause : SessionError) :
    report.result ≠ .error (.step (.busy cause)) := by
  cases h with
  | made hdrive _ =>
    cases hdrive with
    | noKey | noLink _ => nofun
    | linked _ _ hobtain => exact hobtain.not_busy cause

end Provision

/-- A step that begins while none is in flight, with whatever filters, leaves none in flight and no
filter; it unsubscribes from every filter that it has when its exchange ends, once and in order,
and asks nothing else of the link after that. So no step of a run finds another one in flight. -/
theorem steps_tear_down :
    (∀ {α : Type} (policy : RetryPolicy) (codec : Codec) (settings : StepSettings)
      (request : StepRequest) (read : Bytes → Except CodecError α) (s : Session) (t : List Event)
      (report : StepReport α), s.Reachable → s.active = none →
      Path (runStep policy codec settings request read s) t report →
        ∃ opening closing exchanged first, t = ⟨.log first, ()⟩ :: opening ++ closing ∧
          Path (exchange policy codec settings request (s.begun request.step request.topics))
            opening exchanged ∧
          TornDown request s t exchanged report) ∧
    (∀ (plan : ProvisionPlan) (policy : RetryPolicy) (codec : Codec) (t : List Event)
      (report : ProvisionReport), Path (Provision.run plan policy codec) t report →
        ∀ cause, report.result ≠ .error (.step (.busy cause))) := by
  constructor
  · intro α policy codec settings request read s t report hreach hidle h
    exact (path_runStep hidle h).tornDown hreach.nodup_subscriptions
  · exact fun plan policy codec t report h => (Provision.path_run h).not_busy

/-- A session with a filter left over, and no step in flight. -/
def leftoverSession : Session := (Session.new 16).recordSubscriptions ["leftover"]

/-- A step with two polls for each wait. -/
def silentStep : Interaction (StepReport Bytes) :=
  runStep .standard (.standard .standard .cbor) ⟨⟨.ofMillis 700, 2⟩, .tolerate⟩ verbatimRequest .ok
    leftoverSession

/-- Nothing arrives: no SUBSCRIBE is granted, and no UNSUBSCRIBE is acknowledged. -/
theorem silentStep_tears_down :
    leftoverSession.Reachable ∧ leftoverSession.active = none ∧
      Path silentStep (silentStep.trace polling []) (silentStep.run polling []).1 ∧
      (∃ opening closing exchanged first,
        silentStep.trace polling [] = ⟨.log first, ()⟩ :: opening ++ closing ∧
        Path (exchange .standard (.standard .standard .cbor) ⟨⟨.ofMillis 700, 2⟩, .tolerate⟩
          verbatimRequest (leftoverSession.begun verbatimRequest.step verbatimRequest.topics))
          opening exchanged ∧
        TornDown verbatimRequest leftoverSession (silentStep.trace polling []) exchanged
          (silentStep.run polling []).1) ∧
      (silentStep.trace polling []).countP (·.call = .unsubscribe "leftover") = 1 ∧
      ∀ cause, (Provision.deviceRun.run polling []).1.result ≠ .error (.step (.busy cause)) := by
  have hreach : leftoverSession.Reachable := ⟨16, [.recordSubscriptions ["leftover"]], rfl⟩
  have hpath := path_trace polling silentStep []
  exact ⟨hreach, rfl, hpath, steps_tear_down.1 _ _ _ _ _ _ _ _ hreach rfl hpath, by decide,
    steps_tear_down.2 _ _ _ _ _ (path_trace polling Provision.deviceRun [])⟩

end Enrolment
