import Enrolment.Payload.Standard
import Enrolment.Proofs.Exchange

/-!
# Enrolment.Proofs.Outcome

The outcome of a step is the first answer that is polled while the step is in flight, and it is in
flight before its request is published.

* `StepPath.asked`: a step with an outcome has published its request, once, and ends as the first
  answer says.
-/

namespace Enrolment

open Interaction

/-- What a step with a given answer ends with. -/
def verdict {α : Type} (codec : Codec) (step : Step) (read : Bytes → Except CodecError α) :
    Disposition × Bytes → Except StepError α
  | (.accepted, body) => (read body).mapError (.decodeFailed step)
  | (.rejected, body) =>
    .error (.serverRejected step ((codec.readRejection body).getD .unexplained))

/-- A step ended with a verdict on its answer. -/
def HasVerdict {α : Type} : Except StepError α → Prop
  | .ok _ => True
  | .error e => e.isVerdict

/-- The call publishes something. -/
def Call.isPublish : Call → Bool
  | .publish .. => true
  | _ => false

theorem Call.Opens.not_publish {filters : List String} {c : Call} (h : c.Opens filters) :
    c.isPublish = false := by
  obtain rfl | h | h := h
  · rfl
  all_goals cases c <;> first | rfl | cases h

theorem Call.isPublish_of_isWait {c : Call} (h : c.isWait) : c.isPublish = false := by
  cases c <;> first | rfl | cases h

theorem Closing.not_publish {filters : List String} {t : List Event} {clean : Bool}
    (h : Closing filters t clean) :
    ∀ e ∈ t, e.call.isPublish = false := by
  intro e he
  obtain hw | ⟨f, -, hc⟩ := h.calls e he
  · exact Call.isPublish_of_isWait hw
  · rw [hc]; rfl

section Step

variable {α : Type} {policy : RetryPolicy} {codec : Codec} {settings : StepSettings}
  {request : StepRequest} {read : Bytes → Except CodecError α} {s : Session} {t : List Event}
  {report : StepReport α}

/-- A request is published between `opening` and `waiting`, and nothing else is. -/
structure PublishedOnce (request : StepRequest) (t opening waiting : List Event) : Prop where
  events : t = opening ++ request.sent :: waiting
  others : ∀ e ∈ opening ++ waiting, e.call.isPublish = false

/-- The event `e`, between `earlier` and `later`, delivers the first answer to a request. -/
structure FirstAnswered (topics : Topics) (capacity : Nat) (t earlier : List Event) (e : Event)
    (later : List Event) (a : Disposition × Bytes) : Prop where
  events : t = earlier ++ e :: later
  earlier_none : topics.firstAnswer capacity (packets earlier) = none
  answer : e.packet?.bind (topics.answer? capacity) = some a

/-- The request is published between subscribing and waiting for the answer. -/
theorem publishedOnce_of_asked (first last : LogLine) {t₁ t₂ u : List Event} {s₀ s₁ s' : Session}
    {remaining : Nat} {answered : StepReport Unit} {filters : List String} {clean : Bool}
    (ho : Opening request.topics.responseFilters s₀ t₁ s₁)
    (hwait : ResponsePath codec settings request.step remaining s' t₂ answered)
    (hc : Closing filters u clean) :
    PublishedOnce request (logged [first] ++ (t₁ ++ request.sent :: t₂) ++ u ++ logged [last])
      (logged [first] ++ t₁) (t₂ ++ u ++ logged [last]) := by
  refine ⟨by simp, fun e he => ?_⟩
  simp only [List.mem_append] at he
  obtain (hl | ht) | (ht | ht) | hl := he
  · exact Call.isPublish_of_isWait (waits_logged _ e hl)
  · exact (ho.calls e ht).not_publish
  · exact Call.isPublish_of_isWait (hwait.waits e ht)
  · exact hc.not_publish e ht
  · exact Call.isPublish_of_isWait (waits_logged _ e hl)

/-- The answer that a step holds when its wait is over is the first one delivered since it began. -/
theorem ResponsePath.firstAnswer {remaining : Nat} {t₁ t₂ : List Event} {s₁ : Session}
    {answered : StepReport Unit}
    (hwait : ResponsePath codec settings request.step remaining s₁ t₂ answered)
    (ho : Opening request.topics.responseFilters (s.begun request.step request.topics) t₁ s₁) :
    answered.session.answer? =
      request.topics.firstAnswer s.payload.capacity (packets (t₁ ++ t₂)) := by
  rw [(ho.session.append hwait.session).answer?, Session.answer?_after (Session.begun_active ..)]
  simp

/-- A step with a verdict has published its request, once, and its verdict is the one on the first
answer. -/
theorem StepPath.asked (h : StepPath policy codec settings request read s t report)
    (hv : HasVerdict report.result) :
    ∃ opening waiting a,
      PublishedOnce request t opening waiting ∧
        request.topics.firstAnswer s.payload.capacity (packets t) = some a ∧
        report.result = verdict codec request.step read a := by
  cases h with
  | @made t u exchanged s' clean first last hexchange hu =>
    have hx := path_exchange hexchange
    obtain ⟨-, hc⟩ := path_unsubscribeEach hu
    cases hx with
    | @unsubscribed _ _ e hsub =>
      have he : e.isVerdict := hv
      simp [isVerdict_of_path_subscribeWithRetry hsub] at he
    | unpublished hsub => cases hv
    | @asked t₁ t₂ s₁ answered hsub hwait =>
      obtain ⟨ho, -⟩ := path_subscribeWithRetry hsub
      have he := hwait.ends
      have hanswer := hwait.firstAnswer ho
      let whole := logged [first] ++ (t₁ ++ request.sent :: t₂) ++ u ++ logged [last]
      have hpackets : packets whole = packets (t₁ ++ t₂) ++ packets u := by
        simp [whole, (quiet_logged _).packets, StepRequest.sent, Event.packet?]
      have hfirst : ∀ a, answered.session.answer? = some a →
          request.topics.firstAnswer s.payload.capacity (packets whole) = some a := by
        intro a ha
        rw [hpackets, Topics.firstAnswer_append, ← hanswer, ha, Option.some_or]
      have honce := publishedOnce_of_asked first last ho hwait hc
      simp only [readAnswer] at hv ⊢
      cases hresult : answered.result with
      | ok u =>
        rw [hresult] at he
        exact ⟨_, _, _, honce, hfirst _ he, rfl⟩
      | error e =>
        rw [hresult] at he
        simp only [hresult] at hv
        obtain ⟨ha, rfl⟩ := he hv
        exact ⟨_, _, _, honce, hfirst _ ha, rfl⟩

/-- Once a step has its answer, it counts every further response as a duplicate. -/
theorem StepPath.duplicateResponses
    (h : StepPath policy codec settings request read s t report) {earlier later : List Event}
    {e : Event} {a : Disposition × Bytes}
    (ha : FirstAnswered request.topics s.payload.capacity t earlier e later a) :
    report.session.duplicateResponses =
      s.duplicateResponses + (packets later).countP request.topics.isResponse := by
  obtain ⟨s', hs, hr⟩ := h.after
  let s₀ := s.begun request.step request.topics
  have hactive : (s₀.after earlier).active = some ⟨request.step, request.topics⟩ := by
    rw [Session.after_active]; rfl
  have hnone : (s₀.after earlier).answer? = none := by
    rw [Session.answer?_after (Session.begun_active ..)]
    exact ha.earlier_none
  have hsome : ((s₀.after earlier).follow e).answer? = some a := by
    rw [Session.answer?_follow hactive, hnone, Session.after_capacity]
    exact ha.answer
  have hfollow : ((s₀.after earlier).follow e).duplicateResponses = s.duplicateResponses := by
    rw [Session.duplicateResponses_follow hactive, hnone,
      Session.duplicateResponses_after_of_none (Session.begun_active ..) rfl ha.earlier_none]
    simp
  rw [hr]
  show s'.duplicateResponses = _
  rw [hs.duplicateResponses, ha.events, Session.after_append, Session.after_cons,
    Session.duplicateResponses_after_of_some ((Session.follow_active _ e).trans hactive) later
      hsome,
    hfollow]

/-- The event that delivers the first answer. -/
theorem exists_firstAnswered {topics : Topics} {capacity : Nat} {a : Disposition × Bytes}
    (h : topics.firstAnswer capacity (packets t) = some a) :
    ∃ earlier e later, FirstAnswered topics capacity t earlier e later a := by
  induction t with
  | nil => simp at h
  | cons e t ih =>
    rw [packets_cons, Topics.firstAnswer_append, Topics.firstAnswer_toList] at h
    cases he : e.packet?.bind (topics.answer? capacity) with
    | none =>
      rw [he, Option.none_or] at h
      obtain ⟨earlier, e', later, rfl, hn, ha⟩ := ih h
      refine ⟨e :: earlier, e', later, rfl, ?_, ha⟩
      rw [packets_cons, Topics.firstAnswer_append, Topics.firstAnswer_toList, he, hn]
      rfl
    | some b =>
      rw [he, Option.some_or] at h
      exact ⟨[], e, t, rfl, rfl, he.trans h⟩

/-- The first answer comes after the request if, and only if, none comes before. -/
theorem FirstAnswered.sent_mem_iff {capacity : Nat} {earlier later opening waiting : List Event}
    {e : Event} {a : Disposition × Bytes}
    (h : FirstAnswered request.topics capacity t earlier e later a)
    (hp : PublishedOnce request t opening waiting) :
    request.sent ∈ earlier ↔ request.topics.firstAnswer capacity (packets opening) = none := by
  have hsplit : opening ++ request.sent :: waiting = earlier ++ e :: later :=
    hp.events.symm.trans h.events
  obtain ⟨u, hu, -⟩ | ⟨u, hu, hrest⟩ := append_eq_append_cons hsplit
  · refine iff_of_false (fun hmem => ?_) fun hn => ?_
    · have hsent := hp.others _ (List.mem_append_left _ (hu ▸ List.mem_append_left _ hmem))
      cases hsent
    · rw [hu, packets_append, packets_cons, Topics.firstAnswer_append, Topics.firstAnswer_append,
        Topics.firstAnswer_toList, h.earlier_none, h.answer] at hn
      cases hn
  · cases u with
    | nil =>
      -- The request is no answer, so it is not `e`.
      have ha := h.answer
      rw [← (List.cons.inj hrest).1] at ha
      cases ha
    | cons e' u =>
      cases hrest
      have hn := h.earlier_none
      rw [hu, packets_append, Topics.firstAnswer_append, Option.or_eq_none_iff] at hn
      exact iff_of_true (by simp [hu]) hn.1

/-- A step with a verdict has published its request once. Its verdict is the one on the first answer
delivered since it began, and every response after that is a duplicate. That answer was polled after
the request was published if, and only if, there was none before. -/
theorem verdict_answers_request_iff (hidle : s.active = none)
    (h : Path (runStep policy codec settings request read s) t report)
    (hv : HasVerdict report.result) :
    ∃ opening waiting earlier e later a,
      PublishedOnce request t opening waiting ∧
      FirstAnswered request.topics s.payload.capacity t earlier e later a ∧
      report.result = verdict codec request.step read a ∧
      report.session.duplicateResponses =
        s.duplicateResponses + (packets later).countP request.topics.isResponse ∧
      (request.sent ∈ earlier ↔
        request.topics.firstAnswer s.payload.capacity (packets opening) = none) := by
  have hstep := path_runStep hidle h
  obtain ⟨opening, waiting, a, honce, hfirst, hverdict⟩ := hstep.asked hv
  obtain ⟨earlier, e, later, hanswered⟩ := exists_firstAnswered hfirst
  exact ⟨opening, waiting, earlier, e, later, a, honce, hanswered, hverdict,
    hstep.duplicateResponses hanswered, hanswered.sent_mem_iff honce⟩

end Step

/-! ## An answer before its request -/

/-- The link answers a SUBSCRIBE with a publish and an acknowledgement, and the request with a stray
publish and the answer. -/
def earlyAnswer : List (Except LinkFault (Option Packet)) :=
  [.ok (some (.publish "$aws/certificates/create-from-csr/cbor/accepted" [1])),
    .ok (some (.subAck true)), .ok (some (.publish "stray" [])),
    .ok (some (.publish "$aws/certificates/create-from-csr/cbor/accepted" [2])),
    .ok (some .unsubAck), .ok (some .unsubAck)]

def verbatimRequest : StepRequest := ⟨.createCertificate, .createCertificate .cbor, [0]⟩

/-- The step that takes its answer as it is. -/
def verbatimStep : Interaction (StepReport Bytes) :=
  runStep .standard (.standard .standard .cbor) ⟨.standard, .tolerate⟩ verbatimRequest .ok (.new 16)

theorem verbatimStep_answers_request :
    (Session.new 16).active = none ∧
      HasVerdict (verbatimStep.run polling earlyAnswer.tail).1.result ∧
      ∃ opening waiting earlier e later a,
        PublishedOnce verbatimRequest (verbatimStep.trace polling earlyAnswer.tail) opening
          waiting ∧
        FirstAnswered verbatimRequest.topics 16 (verbatimStep.trace polling earlyAnswer.tail)
          earlier e later a ∧
        (verbatimStep.run polling earlyAnswer.tail).1.result =
          verdict (.standard .standard .cbor) .createCertificate .ok a ∧
        (verbatimStep.run polling earlyAnswer.tail).1.session.duplicateResponses =
          0 + (packets later).countP verbatimRequest.topics.isResponse ∧
        (verbatimRequest.sent ∈ earlier ↔
          verbatimRequest.topics.firstAnswer 16 (packets opening) = none) :=
  ⟨rfl, trivial, verdict_answers_request_iff rfl (path_trace polling verbatimStep _) trivial⟩

/-- The early answer is the verdict, and the answer to the request is dropped as a duplicate. -/
theorem early_answer_is_verdict :
    ∃ t report opening waiting, Path verbatimStep t report ∧
      PublishedOnce verbatimRequest t opening waiting ∧ report.result = .ok [1] ∧
      .publish verbatimRequest.topics.accepted [1] ∈ packets opening ∧
      .publish verbatimRequest.topics.accepted [1] ∉ packets waiting ∧
      .publish verbatimRequest.topics.accepted [2] ∈ packets waiting ∧
      report.session.duplicateResponses = 1 := by
  let t := verbatimStep.trace polling earlyAnswer
  refine ⟨t, _, t.takeWhile (!·.call.isPublish), (t.dropWhile (!·.call.isPublish)).tail,
    path_trace .., ⟨rfl, ?_⟩, rfl, ?_, ?_, ?_, rfl⟩
  all_goals decide

end Enrolment
