import Enrolment.Proofs.Outcome
import Enrolment.Proofs.StepOrder
import Mathlib.Data.List.Basic

/-!
# Enrolment.Proofs.Scan

The wait for an answer, seen from the link. A step waits in rounds: each is a wait for a publish
with a budget of its own, and a stray publish starts the next one with the polls that are left. The
link sees nothing of the rounds. It sees one scan of the replies to the polls, from left to right
and within the budget of the step, that stops at the first reply that decides.

* `PollPath.scan`: what a round makes of its polls is what the scan makes of them.
* `path_awaitResponse_scan`: and so it is with all the rounds.
* `response_eq_scan`: the result of a step, and how often it polls for its answer.
-/

namespace Enrolment

open Interaction

/-! ## What a reply decides -/

section Step

variable {α : Type} (request : StepRequest) (codec : Codec) (settings : StepSettings)
  (read : Bytes → Except CodecError α)

namespace StepRequest

/-- What the reply to a poll means for a step that has no answer yet: how the step ends, if it
does. Bodies are longer than `capacity` or fit. -/
def decision (capacity : Nat) : Except LinkFault (Option Packet) → Option (Except StepError α)
  | .error fault => some (.error (.transport request.step fault))
  | .ok (some (.publish topic body)) =>
    if topic = request.topics.accepted then
      if body.length ≤ capacity then some ((read body).mapError (.decodeFailed request.step))
      else some (.error (.payloadTooLarge (.payloadTooLarge body.length capacity)))
    else if topic = request.topics.rejected then
      let details := codec.readRejection (if body.length ≤ capacity then body else [])
      some (.error (.serverRejected request.step (details.getD .unexplained)))
    else match settings.strayPolicy with
      | .reject => some (.error (.unexpectedResponse request.step topic))
      | .tolerate => none
  | .ok _ => none

/-- Goes through the replies to some polls from left to right, `n` at most, up to the first that
decides. The result is how the step ends, and the number of replies taken; there is none if the
replies end too early. -/
def scan (capacity : Nat) :
    (n : Nat) → List (Except LinkFault (Option Packet)) → Option (Except StepError α × Nat)
  | 0, _ => some (.error (.noResponse request.step settings.budget.maxPolls), 0)
  | _ + 1, [] => none
  | n + 1, reply :: replies =>
    match request.decision codec settings read capacity reply with
    | some result => some (result, 1)
    | none => (scan capacity n replies).map (Prod.map id (· + 1))

/-- How a step ends when a publish has been taken, if it does. -/
def taken (s : Session) : Option (Except StepError α) :=
  match s.lastOutcome with
  | .accepted => some ((read s.payload.data).mapError (.decodeFailed request.step))
  | .rejected =>
    some (.error (.serverRejected request.step
      ((codec.readRejection s.payload.data).getD .unexplained)))
  | .notReceived =>
    match settings.strayPolicy with
    | .tolerate => none
    | .reject => some (.error (.unexpectedResponse request.step (s.lastUnmatchedTopic.getD "")))

end StepRequest

variable {request codec settings read} {s s' : Session}

variable (codec settings read) in
/-- A publish decides what the session that has taken it says. -/
theorem decision_publish (hactive : s.active = some ⟨request.step, request.topics⟩)
    (hnone : s.lastOutcome = .notReceived) (topic : String) (body : Bytes) :
    request.decision codec settings read s.payload.capacity (.ok (some (.publish topic body))) =
      match (s.dispatch (.publish topic body)).2 with
      | .error cause => some (.error (.payloadTooLarge cause))
      | .ok _ => request.taken codec settings read (s.dispatch (.publish topic body)).1 := by
  have hactive' : Session.active { s with lastPacket := some .publish } =
      some ⟨request.step, request.topics⟩ := hactive
  rw [Session.dispatch_publish, Session.classify_of_active hactive', StepRequest.decision]
  obtain ⟨ha, hd⟩ | ⟨ha, hr, hd⟩ | ⟨ha, hr, hd⟩ := request.topics.dispositionOf_cases topic
  · simp only [hd, if_pos ha, hnone, ne_eq, not_true_eq_false, if_false, Session.receive_accepted]
    split <;> rfl
  · simp only [hd, if_neg ha, if_pos hr, hnone, ne_eq, not_true_eq_false, if_false,
      Session.receive_rejected]
    rfl
  · simp only [hd, if_neg ha, if_neg hr, StepRequest.taken, hnone, Except.map]
    cases settings.strayPolicy <;> rfl

section Scan

variable {capacity n : Nat} {reply : Except LinkFault (Option Packet)}
  {replies : List (Except LinkFault (Option Packet))}

theorem scan_cons_of_some {result : Except StepError α}
    (h : request.decision codec settings read capacity reply = some result) :
    request.scan codec settings read capacity (n + 1) (reply :: replies) = some (result, 1) := by
  simp only [StepRequest.scan, h]

theorem scan_cons_of_none (h : request.decision codec settings read capacity reply = none) :
    request.scan codec settings read capacity (n + 1) (reply :: replies) =
      (request.scan codec settings read capacity n replies).map (Prod.map id (· + 1)) := by
  simp only [StepRequest.scan, h]

/-- A scan, when its first `k` replies have ended the step or left it open, and `rest` is the scan
of the others. -/
def resume {β : Type} (k : Nat) (rest : Option (β × Nat)) : Option β → Option (β × Nat)
  | some result => some (result, k)
  | none => rest.map (Prod.map id (· + k))

theorem resume_succ {β : Type} (k : Nat) (rest : Option (β × Nat)) (o : Option β) :
    (resume k rest o).map (Prod.map id (· + 1)) = resume (k + 1) rest o := by
  cases o with
  | some result => rfl
  | none => cases rest <;> rfl

end Scan

/-! ## What the rounds make of the polls -/

theorem Packet.eq_publish {p : Packet} (h : p.kind = .publish) :
    ∃ topic body, p = .publish topic body := by
  cases p with
  | publish topic body => exact ⟨topic, body, rfl⟩
  | _ => cases h

theorem decision_of_kind_ne {capacity : Nat} {p : Packet} (h : p.kind ≠ .publish) :
    request.decision codec settings read capacity (.ok (some p)) = none := by
  cases p <;> first | rfl | exact absurd rfl h

theorem Session.lastOutcome_dispatch_of_kind_ne (s : Session) {p : Packet}
    (h : p.kind ≠ .publish) : (s.dispatch p).1.lastOutcome = s.lastOutcome := by
  cases p <;> first | rfl | exact absurd rfl h

/-- How a step ends after a round, if it does. -/
def StepRequest.afterRound (request : StepRequest) (codec : Codec) (settings : StepSettings)
    (read : Bytes → Except CodecError α) (s : Session) :
    Except WaitError Nat → Option (Except StepError α)
  | .error e => some (.error (responseError settings request.step e))
  | .ok _ => request.taken codec settings read s

variable (codec settings read) in
/-- What the scan makes of the polls of a round, whatever is polled after it: it stops where the
step ends, and otherwise goes on with the polls that are left. -/
theorem PollPath.scan {budget : WaitBudget} {left : Nat} {t : List Event}
    {r : Except WaitError Nat} (h : PollPath .publish budget left s t s' r)
    (hactive : s.active = some ⟨request.step, request.topics⟩)
    (hnone : s.lastOutcome = .notReceived) (later : List (Except LinkFault (Option Packet))) :
    request.scan codec settings read s.payload.capacity left (polled t ++ later) =
      resume (polled t).length
        (request.scan codec settings read s.payload.capacity (left - (polled t).length) later)
        (request.afterRound codec settings read s' r) := by
  induction h with
  | spent s => rfl
  | fault s fault => exact scan_cons_of_some rfl
  | @empty left s s' t r _ ih =>
    rw [polled_poll, List.cons_append, List.length_cons, Nat.add_sub_add_right,
      scan_cons_of_none rfl, ih hactive hnone, resume_succ]
  | @refused left s p cause lines hd =>
    obtain ⟨topic, body, rfl⟩ := Packet.eq_publish (Session.kind_of_dispatch_error hd)
    have hdecision := decision_publish codec settings read hactive hnone topic body
    rw [hd] at hdecision
    rw [polled_poll, polled_logged]
    exact scan_cons_of_some hdecision
  | @found left s p c lines hd hk =>
    obtain ⟨topic, body, rfl⟩ := Packet.eq_publish hk
    have hdecision := decision_publish codec settings read hactive hnone topic body
    rw [hd] at hdecision
    rw [polled_poll, polled_logged, StepRequest.afterRound]
    cases ht : request.taken codec settings read (s.dispatch (.publish topic body)).1 with
    | some result => exact scan_cons_of_some (hdecision.trans ht)
    | none => exact scan_cons_of_none (hdecision.trans ht)
  | @other left s s' p c t r lines hd hk _ ih =>
    have hframe := s.dispatch_frame p
    have hrest := ih (hframe.active.trans hactive)
      ((s.lastOutcome_dispatch_of_kind_ne hk).trans hnone)
    rw [show (s.dispatch p).1.payload.capacity = s.payload.capacity from hframe.capacity] at hrest
    rw [polled_poll, polled_append, polled_logged, List.nil_append, List.cons_append,
      List.length_cons, Nat.add_sub_add_right, scan_cons_of_none (decision_of_kind_ne hk), hrest,
      resume_succ]

/-- All rounds together make of the polls what the scan makes of them, whatever is polled later. -/
theorem ResponsePath.scan {remaining : Nat} {t : List Event} {report : StepReport Unit}
    (h : ResponsePath codec settings request.step remaining s t report)
    (hactive : s.active = some ⟨request.step, request.topics⟩)
    (hnone : s.lastOutcome = .notReceived) (later : List (Except LinkFault (Option Packet))) :
    request.scan codec settings read s.payload.capacity remaining (polled t ++ later) =
      some (readAnswer request read report, (polled t).length) := by
  induction h with
  | spent s => rfl
  | failed hpoll => exact hpoll.scan codec settings read hactive hnone later
  | accepted hpoll ho =>
    have hscan := hpoll.scan codec settings read hactive hnone later
    rw [StepRequest.afterRound, StepRequest.taken, ho] at hscan
    exact hscan
  | rejected hpoll ho =>
    have hscan := hpoll.scan codec settings read hactive hnone later
    rw [StepRequest.afterRound, StepRequest.taken, ho] at hscan
    exact hscan
  | unexpected hpoll ho hp =>
    have hscan := hpoll.scan codec settings read hactive hnone later
    simp only [StepRequest.afterRound, StepRequest.taken, ho, hp] at hscan
    exact hscan
  | @stray remaining used s s' t u report hpoll ho hp _ ih =>
    have hscan := hpoll.scan codec settings read hactive hnone (polled u ++ later)
    simp only [StepRequest.afterRound, StepRequest.taken, ho, hp] at hscan
    have hactive' : s'.active = some ⟨request.step, request.topics⟩ := by
      rw [hpoll.agrees.active, Session.after_active, hactive]
    have hcapacity : s'.payload.capacity = s.payload.capacity := by
      rw [hpoll.agrees.payload, Session.after_capacity]
    have hused : used = (polled t).length := by
      have hsum := (hpoll.used (Nat.le_refl _)).2
      simp only [WaitBudget.withPolls] at hsum
      omega
    have hrest := ih hactive' ho
    rw [hcapacity, hused] at hrest
    -- The stray publish leaves the scan open, so it goes on with the next round.
    calc request.scan codec settings read s.payload.capacity remaining (polled (t ++ u) ++ later)
      _ = request.scan codec settings read s.payload.capacity remaining
            (polled t ++ (polled u ++ later)) := by rw [polled_append, List.append_assoc]
      _ = resume (polled t).length (some (readAnswer request read report, (polled u).length))
            none := by rw [← hrest]; exact hscan
      _ = some (readAnswer request read report, (polled (t ++ u)).length) := by
        simp [resume, Nat.add_comm]

/-! ## The step -/

/-- The call unsubscribes from something. -/
def Call.isUnsubscribe : Call → Bool
  | .unsubscribe _ => true
  | _ => false

/-- The polls for the answer, among the events after the request: those before the first filter is
unsubscribed. -/
def responsePolls (rest : List Event) : List (Except LinkFault (Option Packet)) :=
  polled (rest.takeWhile fun e => !e.call.isUnsubscribe)

theorem Call.isUnsubscribe_of_isWait {c : Call} (h : c.isWait) : c.isUnsubscribe = false := by
  cases c <;> first | rfl | cases h

theorem PublishedOnce.unique {t opening opening' waiting waiting' : List Event}
    (h : PublishedOnce request t opening waiting) (ht : t = opening' ++ request.sent :: waiting') :
    opening = opening' ∧ waiting = waiting' := by
  have hn : request.sent ∉ opening ++ waiting := by
    intro hmem
    have hp := h.others _ hmem
    cases hp
  rw [List.mem_append, not_or] at hn
  obtain ⟨ho, -, hw⟩ :=
    (List.append_cons_inj_of_notMem hn.1 hn.2).1 (h.events.symm.trans ht)
  exact ⟨ho, hw⟩

variable {policy : RetryPolicy} {opening rest : List Event} {report : StepReport α}

/-- After its request, a step waits for the answer, and then unsubscribes. -/
theorem StepPath.sent
    (h : StepPath policy codec settings request read s (opening ++ request.sent :: rest) report) :
    ∃ s₁ waiting filter reply closing exchanged,
      ((s.begun request.step request.topics).after opening).Agrees s₁ ∧
      rest = waiting ++ ⟨.unsubscribe filter, reply⟩ :: closing ∧
      ResponsePath codec settings request.step settings.budget.maxPolls s₁ waiting exchanged ∧
      report.result = readAnswer request read exchanged := by
  generalize ht : opening ++ request.sent :: rest = t at h
  cases h with
  | @made t u exchanged s' clean first last hexchange hu =>
    have hx := path_exchange hexchange
    obtain ⟨-, hc⟩ := path_unsubscribeEach hu
    have hfilters := hx.mem_subscriptions request.topics.accepted
    have hmem : request.sent ∈ logged [first] ++ t ++ u ++ logged [last] := by
      rw [← ht]
      simp
    have hsent : request.sent ∈ t := by
      simp only [List.mem_append] at hmem
      obtain ((hl | hmem) | hclosing) | hl := hmem
      · cases waits_logged _ _ hl
      · exact hmem
      · cases hc.not_publish _ hclosing
      · cases waits_logged _ _ hl
    cases hx with
    | unsubscribed hsub =>
      cases ((path_subscribeWithRetry hsub).1.calls _ hsent).not_publish
    | unpublished hsub =>
      obtain hopening | hfailed := List.mem_append.1 hsent
      · cases ((path_subscribeWithRetry hsub).1.calls _ hopening).not_publish
      · cases List.mem_singleton.1 hfailed
    | @asked t₁ t₂ s₁ answered hsub hwait =>
      obtain ⟨ho, hg⟩ := path_subscribeWithRetry hsub
      obtain ⟨rfl, rfl⟩ := (publishedOnce_of_asked first last ho hwait hc).unique ht.symm
      obtain ⟨filter, reply, closing, rfl⟩ := hc.head (hfilters.2
        (.inr ⟨List.mem_append_left _ hg.mem, List.mem_cons_self⟩))
      refine ⟨s₁, t₂, filter, reply, closing ++ logged [last], answered, ?_, by simp, hwait, rfl⟩
      rw [Session.after_append, (quiet_logged _).session]
      exact ho.session

/-- Let a step publish its request when it has no answer yet. How it ends, and how often it polls
for the answer, is what one scan of the replies to the following polls says. -/
theorem response_eq_scan (hidle : s.active = none)
    (h : Path (runStep policy codec settings request read s)
      (opening ++ request.sent :: rest) report)
    (hnone : ((s.begun request.step request.topics).after opening).lastOutcome = .notReceived) :
    request.scan codec settings read s.payload.capacity settings.budget.maxPolls (polled rest) =
      some (report.result, (responsePolls rest).length) := by
  obtain ⟨s₁, waiting, filter, reply, closing, exchanged, hs₁, rfl, hwait, hresult⟩ :=
    (path_runStep hidle h).sent
  have hactive : s₁.active = some ⟨request.step, request.topics⟩ := by
    rw [hs₁.active, Session.after_active, Session.begun_active]
  have hcapacity : s₁.payload.capacity = s.payload.capacity := by
    rw [hs₁.payload, Session.after_capacity, Session.begun_capacity]
  have hpolls : responsePolls (waiting ++ ⟨.unsubscribe filter, reply⟩ :: closing) =
      polled waiting := by
    have hwaits : ∀ e ∈ waiting, !e.call.isUnsubscribe := by
      intro e he
      rw [Call.isUnsubscribe_of_isWait (hwait.waits e he)]
      rfl
    rw [responsePolls, List.takeWhile_append_of_pos hwaits]
    simp [Call.isUnsubscribe]
  rw [polled_append, ← hcapacity, hwait.scan hactive (hs₁.lastOutcome.trans hnone), hresult, hpolls]

end Step

/-! ## An answer on the last poll -/

/-- A step with four polls for its answer, which it takes as it is. -/
def briefStep : Interaction (StepReport Bytes) :=
  runStep .standard (.standard .standard .cbor) ⟨⟨.ofMillis 700, 4⟩, .tolerate⟩ verbatimRequest .ok
    (.new 16)

/-- The request is rejected on the last poll, with a body that does not fit. -/
def lateRejection : List (Except LinkFault (Option Packet)) :=
  [.ok (some (.subAck true)), .ok (some (.publish "stray" [])), .ok none, .ok (some .pubAck),
    .ok (some (.publish "$aws/certificates/create-from-csr/cbor/rejected" (List.replicate 17 0))),
    .ok (some .unsubAck), .ok (some .unsubAck)]

theorem briefStep_eq_scan :
    (Session.new 16).active = none ∧ ∃ opening rest report,
      Path briefStep (opening ++ verbatimRequest.sent :: rest) report ∧
      (((Session.new 16).begun verbatimRequest.step verbatimRequest.topics).after
        opening).lastOutcome = .notReceived ∧
      verbatimRequest.scan (.standard .standard .cbor) ⟨⟨.ofMillis 700, 4⟩, .tolerate⟩ .ok 16 4
        (polled rest) = some (report.result, (responsePolls rest).length) ∧
      report.result = .error (.serverRejected .createCertificate .unexplained) ∧
      (responsePolls rest).length = 4 := by
  let t := briefStep.trace polling lateRejection
  have hpath : Path briefStep (t.takeWhile (!·.call.isPublish) ++ verbatimRequest.sent ::
      (t.dropWhile (!·.call.isPublish)).tail) (briefStep.run polling lateRejection).1 :=
    path_trace polling briefStep lateRejection
  exact ⟨rfl, _, _, _, hpath, rfl, response_eq_scan rfl hpath rfl, rfl, rfl⟩

end Enrolment
