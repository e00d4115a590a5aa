import Enrolment.Proofs.Noninterference
import Enrolment.Proofs.RetryMachine
import Enrolment.Proofs.Teardown

/-!
# Enrolment.Proofs.Overflow

Accepted answers that do not fit the buffer. The session refuses such an answer, and the wait that
has polled it ends at once. What that means for the step depends on what is waited for: the wait for
the answer ends the step, and the wait for a SUBACK ends an attempt to subscribe, which may be
repeated like any other that fails.

* `PollPath.overflowed`: the wait ends.
* `path_subscribe_overflowed`, `ResponsePath.overflowed`: what becomes of the part of the step.
* `overflow_fatal_iff_sent`: the step ends if, and only if, the request has been published.
-/

namespace Enrolment

open Interaction

/-! ## Refused packets -/

/-- Between `earlier` and `later`, a packet is delivered that the session refuses. -/
def Overflowed (cause : SessionError) (s : Session) (t earlier later : List Event) : Prop :=
  ∃ e p, t = earlier ++ e :: later ∧ e.packet? = some p ∧
    ((s.after earlier).dispatch p).2 = .error cause

section Overflowed

variable {cause : SessionError} {s s' : Session} {t u earlier later : List Event}

theorem Overflowed.agrees (h : Overflowed cause s t earlier later) (hs : s.Agrees s') :
    Overflowed cause s' t earlier later := by
  obtain ⟨e, p, rfl, hp, hrefused⟩ := h
  obtain ⟨kind, hkind⟩ := hs.after earlier
  refine ⟨e, p, rfl, hp, ?_⟩
  rw [hkind, Session.dispatch_lastPacket]
  exact hrefused

/-- The packet is delivered in the first of two parts or in the second. -/
theorem Overflowed.append (h : Overflowed cause s (t ++ u) earlier later)
    (hs : (s.after t).Agrees s') :
    (∃ v, later = v ++ u ∧ Overflowed cause s t earlier v) ∨
      ∃ v, earlier = t ++ v ∧ Overflowed cause s' u v later := by
  obtain ⟨e, p, hsplit, hp, hrefused⟩ := h
  obtain ⟨v, rfl, rfl⟩ | ⟨v, rfl, rfl⟩ := append_eq_append_cons hsplit
  · exact .inl ⟨v, rfl, e, p, rfl, hp, hrefused⟩
  · rw [Session.after_append] at hrefused
    have hrest : Overflowed cause (s.after t) (v ++ e :: later) v later :=
      ⟨e, p, rfl, hp, hrefused⟩
    exact .inr ⟨v, rfl, hrest.agrees hs⟩

theorem not_overflowed (h : packets t = []) : ¬ Overflowed cause s t earlier later := by
  rintro ⟨e, p, rfl, hp, -⟩
  simp [hp] at h

/-- What delivers nothing may be left out. -/
theorem Overflowed.of_append (h : Overflowed cause s (t ++ u) earlier later) (ht : packets t = [])
    (hs : (s.after t).Agrees s') :
    ∃ v, earlier = t ++ v ∧ Overflowed cause s' u v later := by
  obtain ⟨v, -, h⟩ | h := h.append hs
  · exact absurd h (not_overflowed ht)
  · exact h

theorem Overflowed.of_append_right (h : Overflowed cause s (t ++ u) earlier later)
    (hu : packets u = []) : ∃ v, later = v ++ u ∧ Overflowed cause s t earlier v := by
  obtain h | ⟨v, -, h⟩ := h.append (.refl _)
  · exact h
  · exact absurd h (not_overflowed hu)

/-- The packet of the first event, or one of a later event. -/
theorem Overflowed.cons {e : Event} (h : Overflowed cause s (e :: t) earlier later) :
    (later = t ∧ ∃ p, e.packet? = some p ∧ (s.dispatch p).2 = .error cause) ∨
      ∃ v, earlier = e :: v ∧ Overflowed cause (s.follow e) t v later := by
  obtain ⟨e', p, hsplit, hp, hrefused⟩ := h
  cases earlier with
  | nil =>
    cases hsplit
    exact .inl ⟨rfl, p, hp, hrefused⟩
  | cons d v =>
    cases hsplit
    exact .inr ⟨v, rfl, e', p, rfl, hp, hrefused⟩

end Overflowed

/-! ## Waits -/

section Wait

variable {cause : SessionError} {expected : PacketKind} {budget : WaitBudget} {left : Nat}
  {s s' : Session} {t earlier later : List Event} {r : Except WaitError Nat}

/-- A wait ends with the packet that the session refuses. -/
theorem PollPath.overflowed (h : PollPath expected budget left s t s' r)
    (hover : Overflowed cause s t earlier later) : r = .error (.payloadTooLarge cause) := by
  induction h generalizing earlier with
  | spent s => exact absurd hover (not_overflowed rfl)
  | fault s fault => exact absurd hover (not_overflowed rfl)
  | empty _ ih =>
    obtain ⟨-, p, hp, -⟩ | ⟨v, -, hover⟩ := hover.cons
    · cases hp
    · exact ih hover
  | refused lines hd =>
    obtain ⟨-, p, hp, hrefused⟩ | ⟨v, -, hover⟩ := hover.cons
    · cases hp
      rw [Except.error.inj (hd.symm.trans hrefused)]
    · exact absurd hover (not_overflowed (quiet_logged lines).packets)
  | found lines hd _ =>
    obtain ⟨-, p, hp, hrefused⟩ | ⟨v, -, hover⟩ := hover.cons
    · cases hp
      cases hd.symm.trans hrefused
    · exact absurd hover (not_overflowed (quiet_logged lines).packets)
  | @other _ s s' p _ _ _ lines hd _ _ ih =>
    obtain ⟨-, p, hp, hrefused⟩ | ⟨v, -, hover⟩ := hover.cons
    · cases hp
      cases hd.symm.trans hrefused
    · have hsame : ((s.dispatch p).1.after (logged lines)).Agrees (s.dispatch p).1 := by
        rw [(quiet_logged lines).session]
        exact .refl _
      obtain ⟨w, -, hover⟩ := hover.of_append (quiet_logged lines).packets hsame
      exact ih hover

/-- The wait for the answer ends the step. -/
theorem ResponsePath.overflowed {codec : Codec} {settings : StepSettings} {step : Step}
    {remaining : Nat} {report : StepReport Unit}
    (h : ResponsePath codec settings step remaining s t report)
    (hover : Overflowed cause s t earlier later) :
    report.result = .error (.payloadTooLarge cause) := by
  induction h generalizing earlier with
  | spent s => exact absurd hover (not_overflowed rfl)
  | @failed _ s _ _ e hpoll =>
    cases hpoll.overflowed (hover.agrees (.reset s))
    rfl
  | @accepted _ _ s _ _ hpoll _ => cases hpoll.overflowed (hover.agrees (.reset s))
  | @rejected _ _ s _ _ hpoll _ => cases hpoll.overflowed (hover.agrees (.reset s))
  | @unexpected _ _ s _ _ hpoll _ _ => cases hpoll.overflowed (hover.agrees (.reset s))
  | @stray _ _ s _ _ _ _ hpoll _ _ _ ih =>
    obtain ⟨v, -, hover⟩ | ⟨v, -, hover⟩ := hover.append hpoll.agrees
    · cases hpoll.overflowed (hover.agrees (.reset s))
    · exact ih hover

end Wait

/-! ## Subscribing -/

/-- The log says that an attempt to subscribe has failed, for this reason. -/
def LogsFailure (topics : Topics) (reason : String) (t : List Event) : Prop :=
  ∃ failed, ∀ line ∈ subscribeLines topics failed (.error reason), ⟨.log line, ()⟩ ∈ t

theorem LogsFailure.mono {topics : Topics} {reason : String} {t u : List Event}
    (h : LogsFailure topics reason t) (hsub : t ⊆ u) : LogsFailure topics reason u := by
  obtain ⟨failed, h⟩ := h
  exact ⟨failed, fun line hline => hsub (h line hline)⟩

section Subscribe

variable {cause : SessionError} {settings : StepSettings} {topics : Topics} {s s' : Session}
  {t earlier later : List Event}

/-- The wait for a SUBACK ends the attempt. -/
theorem SubscribeAttempt.overflowed {failed : Nat} {o : Except String Unit}
    (h : SubscribeAttempt settings topics failed s t s' o)
    (hover : Overflowed cause s t earlier later) :
    o = .error cause.message ∧ LogsFailure topics cause.message later := by
  cases h with
  | refused fault =>
    refine absurd hover (not_overflowed ?_)
    simp [Event.packet?, (quiet_logged _).packets]
  | @waited t _ r hpoll =>
    obtain ⟨-, p, hp, -⟩ | ⟨v, -, hover⟩ := hover.cons
    · cases hp
    obtain ⟨w, rfl, hwait⟩ := hover.of_append_right (quiet_logged _).packets
    cases hpoll.overflowed (hwait.agrees (.reset (s.recordSubscriptions topics.responseFilters)))
    refine ⟨rfl, failed, fun line hline => ?_⟩
    exact List.mem_append_right _ (List.mem_map_of_mem hline)

variable {r r' : Retry}

theorem attempt_of_path {failed : UInt32} {o : Except String Unit}
    (h : Path (subscribeAttempt settings topics failed s) t (s', o)) :
    SubscribeAttempt settings topics failed.toNat s t s' o :=
  .of_path failed.toNat_lt (attempts_toNat.2 h)

theorem retried_overflowed (h : Retried (subscribeAttempt settings topics) r s t r' s')
    (hover : Overflowed cause s t earlier later) : LogsFailure topics cause.message later := by
  induction h generalizing earlier with
  | start r s => exact absurd hover (not_overflowed rfl)
  | again _ hattempt _ ih =>
    obtain ⟨ho, -⟩ := path_subscribeAttempt hattempt
    obtain ⟨v, rfl, hfirst⟩ | ⟨v, -, hpaused⟩ := hover.append ho.session
    · obtain ⟨-, hlogs⟩ := (attempt_of_path hattempt).overflowed hfirst
      exact hlogs.mono (List.subset_append_left ..)
    · obtain ⟨w, -, hrest⟩ := Overflowed.of_append (t := [_, _]) hpaused rfl (.refl _)
      exact ih hrest

theorem ended_overflowed {o : Except (AttemptsError String) Unit}
    (h : Ended (subscribeAttempt settings topics) r s t s' o)
    (hover : Overflowed cause s t earlier later) : LogsFailure topics cause.message later := by
  cases h with
  | ok hattempt => exact ((attempt_of_path hattempt).overflowed hover).2
  | exhausted _ hattempt => exact ((attempt_of_path hattempt).overflowed hover).2
  | noEntropy _ hattempt =>
    obtain ⟨v, rfl, hlast⟩ := hover.of_append_right rfl
    obtain ⟨-, hlogs⟩ := (attempt_of_path hattempt).overflowed hlast
    exact hlogs.mono (List.subset_append_left ..)

/-- While subscribing, a refused packet is the reason why an attempt fails. -/
theorem path_subscribe_overflowed {policy : RetryPolicy} {o : Except StepError Unit}
    (h : Path (subscribeWithRetry policy settings topics s) t (s', o))
    (hover : Overflowed cause s t earlier later) : LogsFailure topics cause.message later := by
  rw [subscribeWithRetry_eq] at h
  obtain ⟨t₁, t₂, ⟨s₁, outcome⟩, rfl, h₁, h₂⟩ := path_bind.1 h
  obtain ⟨rfl, hr⟩ := path_pure.1 h₂
  obtain ⟨t₃, t₄, r, s₂, rfl, hretried, hended⟩ := path_attemptUnder.1 h₁
  rw [List.append_nil] at hover
  obtain ⟨v, rfl, hearly⟩ | ⟨v, -, hlast⟩ := hover.append (path_retriedSubscribe hretried).1.session
  · exact (retried_overflowed hretried hearly).mono (List.subset_append_left ..)
  · exact ended_overflowed hended hlast

end Subscribe

/-! ## Steps -/

/-- Nothing is asked of the link but to unsubscribe. -/
def OnlyUnsubscribes (t : List Event) : Prop := ∀ c ∈ requests t, c.isUnsubscribe

theorem onlyUnsubscribes_append {t u : List Event} :
    OnlyUnsubscribes (t ++ u) ↔ OnlyUnsubscribes t ∧ OnlyUnsubscribes u := by
  rw [OnlyUnsubscribes, requests_append]
  exact List.forall_mem_append

theorem Waits.onlyUnsubscribes {t : List Event} (h : Waits t) : OnlyUnsubscribes t := by
  intro c hc
  rw [h.requests] at hc
  cases hc

theorem Closing.onlyUnsubscribes {filters : List String} {t : List Event} {clean : Bool}
    (h : Closing filters t clean) : OnlyUnsubscribes t := by
  intro c hc
  rw [h.requests, List.mem_map] at hc
  obtain ⟨f, -, rfl⟩ := hc
  rfl

section Step

variable {α : Type} {cause : SessionError} {policy : RetryPolicy} {codec : Codec}
  {settings : StepSettings} {request : StepRequest} {read : Bytes → Except CodecError α}
  {s : Session} {t earlier later : List Event}

/-- The step ends with the refused packet, and does nothing more than unsubscribe. -/
def FatalTo {β : Type} (cause : SessionError) (result : Except StepError β) (later : List Event) :
    Prop :=
  result = .error (.payloadTooLarge cause) ∧ OnlyUnsubscribes later

/-- A packet that is refused is fatal if the request has been published. If not, it is the reason
why an attempt to subscribe has failed. -/
def FatalOnceSent {β : Type} (request : StepRequest) (cause : SessionError)
    (result : Except StepError β) (earlier later : List Event) : Prop :=
  (request.sent ∈ earlier ∧ FatalTo cause result later) ∨
    (request.sent ∉ earlier ∧ ¬ FatalTo cause result later ∧
      LogsFailure request.topics cause.message later)

/-- Before the request, whatever comes later. -/
theorem fatalOnceSent_of_subscribe {β : Type} {s s' : Session} {t v u : List Event}
    {o : Except StepError Unit} {result : Except StepError β}
    (h : Path (subscribeWithRetry policy settings request.topics s) t (s', o))
    (hover : Overflowed cause s t earlier v) (hnot : ¬ FatalTo cause result (v ++ u)) :
    FatalOnceSent request cause result earlier (v ++ u) := by
  refine .inr ⟨fun hsent => ?_, hnot,
    (path_subscribe_overflowed h hover).mono (List.subset_append_left ..)⟩
  obtain ⟨e, p, rfl, -⟩ := hover
  have hpublish :=
    ((path_subscribeWithRetry h).1.calls _ (List.mem_append_left _ hsent)).not_publish
  cases hpublish

theorem ExchangePath.overflowed {report : StepReport Unit}
    (h : ExchangePath policy codec settings request s t report)
    (hover : Overflowed cause s t earlier later) :
    FatalOnceSent request cause report.result earlier later := by
  cases h with
  | unsubscribed hsub =>
    rw [← List.append_nil later]
    refine fatalOnceSent_of_subscribe hsub hover fun hfatal => ?_
    obtain ⟨attempts, reason, rfl⟩ | ⟨reason, rfl⟩ := path_subscribeWithRetry_error hsub
    · cases hfatal.1
    · cases hfatal.1
  | unpublished hsub =>
    obtain ⟨v, rfl, hearly⟩ := hover.of_append_right rfl
    refine fatalOnceSent_of_subscribe hsub hearly fun hfatal => ?_
    cases hfatal.1
  | @asked t₁ t₂ s₁ answered hsub hwait =>
    obtain ⟨v, rfl, hearly⟩ | ⟨v, rfl, hasked⟩ :=
      hover.append (path_subscribeWithRetry hsub).1.session
    · refine fatalOnceSent_of_subscribe hsub hearly fun hfatal => ?_
      -- The request is published later.
      have hpublish := (onlyUnsubscribes_append.1 hfatal.2).2 request.sent.call List.mem_cons_self
      cases hpublish
    · obtain ⟨-, p, hp, -⟩ | ⟨w, rfl, hlate⟩ := hasked.cons
      · cases hp
      · refine .inl ⟨by simp, hwait.overflowed hlate, ?_⟩
        obtain ⟨e, p, rfl, -⟩ := hlate
        exact (waits_cons.1 (waits_append.1 hwait.waits).2).2.onlyUnsubscribes

theorem readAnswer_eq_payloadTooLarge_iff {report : StepReport Unit} :
    readAnswer request read report = .error (.payloadTooLarge cause) ↔
      report.result = .error (.payloadTooLarge cause) := by
  rw [readAnswer]
  cases report.result with
  | ok u => cases read report.session.payload.data <;> simp [Except.mapError]
  | error e => simp

/-- Unsubscribing delivers nothing before its first call. -/
theorem Closing.not_overflowed {filters : List String} {clean : Bool}
    (h : Closing filters t clean) (hbefore : NoUnsubscribe earlier) :
    ¬ Overflowed cause s t earlier later := by
  intro hover
  cases h with
  | nil => exact absurd hover (Enrolment.not_overflowed rfl)
  | cons _ _ =>
    obtain ⟨-, p, hp, -⟩ | ⟨v, rfl, -⟩ := Overflowed.cons hover
    · cases hp
    · cases hbefore _ List.mem_cons_self

variable {report : StepReport α}

theorem StepPath.overflowed (h : StepPath policy codec settings request read s t report)
    (hover : Overflowed cause (s.begun request.step request.topics) t earlier later)
    (hbefore : NoUnsubscribe earlier) :
    FatalOnceSent request cause report.result earlier later := by
  cases h with
  | @made tx u exchanged s' clean first last hexchange hu =>
    have hx := path_exchange hexchange
    obtain ⟨-, hc⟩ := path_unsubscribeEach hu
    obtain ⟨v, rfl, hmade⟩ := hover.of_append_right (quiet_logged [last]).packets
    obtain ⟨w, rfl, hopen⟩ | ⟨w, rfl, hclosing⟩ := hmade.append (.refl _)
    · obtain ⟨x, rfl, hexchanged⟩ := Overflowed.of_append hopen (quiet_logged [first]).packets
        (.refl _)
      have hsent : request.sent ∈ logged [first] ++ x ↔ request.sent ∈ x := by
        simp [logged, StepRequest.sent]
      have hfatal : FatalTo cause (readAnswer request read exchanged) (w ++ u ++ logged [last]) ↔
          FatalTo cause exchanged.result w := by
        rw [FatalTo, FatalTo, readAnswer_eq_payloadTooLarge_iff, onlyUnsubscribes_append,
          onlyUnsubscribes_append]
        simp [hc.onlyUnsubscribes, (waits_logged [last]).onlyUnsubscribes]
      obtain ⟨hmem, hends⟩ | ⟨hmem, hgoes, hlogs⟩ := hx.overflowed hexchanged
      · exact .inl ⟨hsent.2 hmem, hfatal.2 hends⟩
      · exact .inr ⟨mt hsent.1 hmem, mt hfatal.1 hgoes, hlogs.mono (by simp)⟩
    · have hw : NoUnsubscribe w := fun e he => hbefore e (List.mem_append_right _ he)
      exact absurd hclosing (hc.not_overflowed hw)

/-- Let an accepted answer that does not fit be polled while a step has no answer, and before it
unsubscribes. That is fatal to the step if, and only if, the request has been published by then. If
not, it is the reason why an attempt to subscribe has failed. -/
theorem overflow_fatal_iff_sent (hidle : s.active = none)
    (h : Path (runStep policy codec settings request read s) t report) {timeout : Duration}
    {body : Bytes}
    (hpolled : t =
      earlier ++ ⟨.poll timeout, .ok (some (.publish request.topics.accepted body))⟩ :: later)
    (hbefore : NoUnsubscribe earlier) (hlong : s.payload.capacity < body.length)
    (hnone : request.topics.firstAnswer s.payload.capacity (packets earlier) = none) :
    (report.result = .error (.payloadTooLarge (.payloadTooLarge body.length s.payload.capacity)) ∧
        OnlyUnsubscribes later ↔ request.sent ∈ earlier) ∧
      (request.sent ∉ earlier →
        LogsFailure request.topics
          (SessionError.payloadTooLarge body.length s.payload.capacity).message later) := by
  let s₀ := s.begun request.step request.topics
  have hactive : (s₀.after earlier).active = some ⟨request.step, request.topics⟩ := by
    rw [Session.after_active]
    rfl
  have hcapacity : (s₀.after earlier).payload.capacity = s.payload.capacity :=
    Session.after_capacity s₀ earlier
  have hunanswered : (s₀.after earlier).answer? = none := by
    rw [Session.answer?_after (Session.begun_active ..)]
    exact hnone
  have hover : Overflowed (.payloadTooLarge body.length s.payload.capacity) s₀ t earlier later := by
    refine ⟨_, _, hpolled, rfl, (Session.dispatch_eq_error_iff hactive).2 ?_⟩
    rw [hcapacity]
    exact ⟨hunanswered, body, rfl, hlong, rfl⟩
  obtain ⟨hsent, hfatal⟩ | ⟨hsent, hgoes, hlogs⟩ := (path_runStep hidle h).overflowed hover hbefore
  · exact ⟨iff_of_true hfatal hsent, fun hnot => absurd hsent hnot⟩
  · exact ⟨iff_of_false hgoes hsent, fun _ => hlogs⟩

end Step

/-! ## An answer of seventeen bytes -/

/-- An answer that does not fit in a buffer of sixteen bytes. -/
def longAnswer : Packet := .publish verbatimRequest.topics.accepted (List.replicate 17 0)

/-- The long answer comes when the request has been published. -/
def lateOverflow : List (Except LinkFault (Option Packet)) :=
  [.ok (some (.subAck true)), .ok (some longAnswer), .ok (some .unsubAck), .ok (some .unsubAck)]

theorem late_overflow_is_fatal :
    (Session.new 16).active = none ∧ 16 < (List.replicate 17 (0 : UInt8)).length ∧
      ∃ earlier later report,
        Path briefStep (earlier ++ ⟨.poll (.ofMillis 700), .ok (some longAnswer)⟩ :: later)
          report ∧
        NoUnsubscribe earlier ∧
        verbatimRequest.topics.firstAnswer 16 (packets earlier) = none ∧
        verbatimRequest.sent ∈ earlier ∧
        report.result = .error (.payloadTooLarge (.payloadTooLarge 17 16)) ∧
        OnlyUnsubscribes later := by
  let t := briefStep.trace polling lateOverflow
  let earlier := t.takeWhile fun e => e.packet? ≠ some longAnswer
  let later := (t.dropWhile fun e => e.packet? ≠ some longAnswer).tail
  have hpath : Path briefStep (earlier ++ ⟨.poll (.ofMillis 700), .ok (some longAnswer)⟩ :: later)
      (briefStep.run polling lateOverflow).1 := path_trace polling briefStep lateOverflow
  have hbefore : NoUnsubscribe earlier := by
    unfold NoUnsubscribe
    decide
  have hnone : verbatimRequest.topics.firstAnswer 16 (packets earlier) = none := by decide
  have hsent : verbatimRequest.sent ∈ earlier := by
    have hat : earlier[3]? = some verbatimRequest.sent := rfl
    exact List.mem_of_getElem? hat
  have hfatal := (overflow_fatal_iff_sent rfl hpath rfl hbefore (by decide) hnone).1.2 hsent
  exact ⟨rfl, by decide, earlier, later, _, hpath, hbefore, hnone, hsent, hfatal⟩

/-- The long answer comes before the SUBACK, and another one when the request has been published. -/
def earlyOverflow : List (Except LinkFault (Option Packet)) :=
  [.ok (some longAnswer), .ok (some (.subAck true)),
    .ok (some (.publish verbatimRequest.topics.accepted [1])), .ok (some .unsubAck),
    .ok (some .unsubAck)]

/-- The step subscribes again, publishes its request and succeeds. -/
theorem early_overflow_is_retried :
    (Session.new 16).active = none ∧ ∃ earlier later report,
      Path briefStep (earlier ++ ⟨.poll (.ofMillis 700), .ok (some longAnswer)⟩ :: later) report ∧
      NoUnsubscribe earlier ∧
      verbatimRequest.topics.firstAnswer 16 (packets earlier) = none ∧
      .subscribe verbatimRequest.topics.responseFilters ∈ requests later ∧
      .publish verbatimRequest.topics.publish verbatimRequest.body ∈ requests later ∧
      report.result = .ok [1] := by
  let t := briefStep.trace polling earlyOverflow
  let earlier := t.takeWhile fun e => e.packet? ≠ some longAnswer
  let later := (t.dropWhile fun e => e.packet? ≠ some longAnswer).tail
  have hpath : Path briefStep (earlier ++ ⟨.poll (.ofMillis 700), .ok (some longAnswer)⟩ :: later)
      (briefStep.run polling earlyOverflow).1 := path_trace polling briefStep earlyOverflow
  have hbefore : NoUnsubscribe earlier := by
    unfold NoUnsubscribe
    decide
  exact ⟨rfl, earlier, later, _, hpath, hbefore, by decide, by decide, by decide, rfl⟩

end Enrolment
