import Enrolment.Proofs.Scan
import Enrolment.Proofs.Visited

/-!
# Enrolment.Proofs.Noninterference

Two runs of one step, over links that reply alike until the step starts to unsubscribe. From then on
the links may differ: they may fail, stay silent, or deliver late answers of any size, which the
session still takes because the step is still in flight. The two runs end alike, because the answer
has been read by then.

* `Path.eq_of_alike`: a part of a run that unsubscribes from nothing goes one way only.
* `unsubscribing_keeps_result`: the result and the progress of a step do not depend on how it
  unsubscribes, but for the last item, which says that it did.
-/

namespace Enrolment

open Interaction

/-! ## Replying alike -/

/-- As long as two runs make the same calls and unsubscribe from nothing, they get the same
replies. -/
def AlikeUntilUnsubscribe : List Event → List Event → Prop
  | e :: t, e' :: t' =>
    e.call = e'.call → e.call.isUnsubscribe = false → e = e' ∧ AlikeUntilUnsubscribe t t'
  | _, _ => True

/-- Nothing is unsubscribed. -/
def NoUnsubscribe (t : List Event) : Prop := ∀ e ∈ t, e.call.isUnsubscribe = false

theorem alike_of_takeWhile_eq {t t' : List Event}
    (h : (t.takeWhile fun e => !e.call.isUnsubscribe) =
      t'.takeWhile fun e => !e.call.isUnsubscribe) : AlikeUntilUnsubscribe t t' := by
  induction t generalizing t' with
  | nil => trivial
  | cons e t ih =>
    cases t' with
    | nil => trivial
    | cons e' t' =>
      intro hcall he
      have he' : e'.call.isUnsubscribe = false := hcall ▸ he
      simp only [List.takeWhile_cons, he, he', Bool.not_false, if_true, List.cons.injEq] at h
      exact ⟨h.1, ih h.2⟩

/-- What a run does next depends on the replies alone, so a part that unsubscribes from nothing has
the same events and the same value both times. -/
theorem Interaction.Path.eq_of_alike {α : Type} {first : Interaction α} {t t' u u' : List Event}
    {a a' : α} (h : Path first t a) (h' : Path first t' a') (ht : NoUnsubscribe t)
    (halike : AlikeUntilUnsubscribe (t ++ u) (t' ++ u')) :
    t = t' ∧ a = a' ∧ AlikeUntilUnsubscribe u u' := by
  induction h generalizing t' with
  | done a =>
    cases h'
    exact ⟨rfl, rfl, halike⟩
  | @call c next reply t a _ ih =>
    cases h' with
    | call reply' h' =>
      obtain ⟨hc, ht⟩ := List.forall_mem_cons.1 ht
      obtain ⟨hreply, hrest⟩ := halike rfl hc
      cases hreply
      obtain ⟨rfl, rfl, hu⟩ := ih h' ht hrest
      exact ⟨rfl, rfl, hu⟩

/-! ## The step -/

section Step

variable {α : Type} {policy : RetryPolicy} {codec : Codec} {settings : StepSettings}
  {request : StepRequest} {read : Bytes → Except CodecError α} {s : Session} {t t' : List Event}
  {report report' : StepReport α}

theorem ExchangePath.noUnsubscribe {exchanged : StepReport Unit}
    (h : ExchangePath policy codec settings request s t exchanged) : NoUnsubscribe t := by
  intro e he
  cases hc : e.call with
  | unsubscribe f => exact absurd hc (h.not_unsubscribe e he f)
  | _ => rfl

theorem ExchangePath.unsubscribed_not_mem {exchanged : StepReport Unit}
    (h : ExchangePath policy codec settings request s t exchanged) :
    .unsubscribed ∉ exchanged.progress := by
  cases h with
  | unsubscribed _ | unpublished _ => simp
  | asked _ hwait =>
    obtain ⟨-, hp⟩ | ⟨e, -, hp | hp⟩ := hwait.progress <;> simp [hp]

theorem path_runStep_started (hidle : s.active = none)
    (h : Path (runStep policy codec settings request read s) t report) :
    ∃ u, t = ⟨.log ⟨.info, s!"{request.step.name} started"⟩, ()⟩ :: u := by
  simp only [runStep, Session.begin_of_idle hidle] at h
  obtain ⟨u, rfl, -⟩ := path_log_bind.1 h
  exact ⟨u, rfl⟩

/-- A step, with the exchange that it goes through and with what it makes of its end. -/
theorem StepPath.exchanged (h : StepPath policy codec settings request read s t report) :
    ∃ first opening rest exchanged,
      t = ⟨.log first, ()⟩ :: (opening ++ rest) ∧
      Path (exchange policy codec settings request (s.begun request.step request.topics)) opening
        exchanged ∧
      report.result = readAnswer request read exchanged ∧
      report.progress = exchanged.progress ++
        if report.result.isOk && cleared (s.subscriptions ++ request.topics.responseFilters) t
        then [.unsubscribed] else [] := by
  cases h with
  | @made opening closing exchanged s' clean first last hexchange hu =>
    have hx := path_exchange hexchange
    obtain ⟨-, hc⟩ := path_unsubscribeEach hu
    have hsub : exchanged.session.subscriptions ⊆
        s.subscriptions ++ request.topics.responseFilters := by
      intro f hf
      obtain hf | ⟨-, hf⟩ := (hx.mem_subscriptions f).1 hf
      · exact List.mem_append_left _ hf
      · exact List.mem_append_right _ hf
    have hclean := hx.cleared hc hsub first last (u := []) rfl .nil
    rw [List.append_nil] at hclean
    refine ⟨first, opening, closing ++ logged [last], exchanged, by simp [logged], hexchange, rfl,
      ?_⟩
    rw [hclean]

/-- Two runs of one step get the same replies until they start to unsubscribe, and any replies after
that. They have the same result and the same progress, but that one may have unsubscribed cleanly
where the other has not. -/
theorem unsubscribing_keeps_result (hidle : s.active = none)
    (h : Path (runStep policy codec settings request read s) t report)
    (h' : Path (runStep policy codec settings request read s) t' report')
    (halike : AlikeUntilUnsubscribe t t') :
    report.result = report'.result ∧ ∃ progress, .unsubscribed ∉ progress ∧
      (report.progress = progress ++
        if report.result.isOk && cleared (s.subscriptions ++ request.topics.responseFilters) t
        then [.unsubscribed] else []) ∧
      (report'.progress = progress ++
        if report'.result.isOk && cleared (s.subscriptions ++ request.topics.responseFilters) t'
        then [.unsubscribed] else []) := by
  obtain ⟨v, ht⟩ := path_runStep_started hidle h
  obtain ⟨v', ht'⟩ := path_runStep_started hidle h'
  obtain ⟨first, opening, rest, exchanged, hevents, hx, hresult, hprogress⟩ :=
    (path_runStep hidle h).exchanged
  obtain ⟨first', opening', rest', exchanged', hevents', hx', hresult', hprogress'⟩ :=
    (path_runStep hidle h').exchanged
  -- The first line of the log is the same, and then the exchange is.
  have hsplit : AlikeUntilUnsubscribe (opening ++ rest) (opening' ++ rest') := by
    rw [ht, ht'] at halike
    obtain ⟨-, hv⟩ := halike rfl rfl
    rw [ht] at hevents
    rw [ht'] at hevents'
    rwa [(List.cons.inj hevents).2, (List.cons.inj hevents').2] at hv
  obtain ⟨-, rfl, -⟩ := hx.eq_of_alike hx' (path_exchange hx).noUnsubscribe hsplit
  exact ⟨hresult.trans hresult'.symm, exchanged.progress,
    (path_exchange hx).unsubscribed_not_mem, hprogress, hprogress'⟩

end Step

/-- The request is answered, and answered again while the step waits for its first UNSUBACK. The
second one never comes: the link fails. -/
def lateAnswers : List (Except LinkFault (Option Packet)) :=
  [.ok (some (.subAck true)),
    .ok (some (.publish "$aws/certificates/create-from-csr/cbor/accepted" [2])),
    .ok (some (.publish "$aws/certificates/create-from-csr/cbor/rejected" [3])),
    .ok (some (.publish "$aws/certificates/create-from-csr/cbor/accepted" (List.replicate 17 4))),
    .ok (some .unsubAck), .error (.transport "gone")]

/-- The same, but the link is quiet after the answer. -/
def promptAnswer : List (Except LinkFault (Option Packet)) :=
  lateAnswers.take 2 ++ [.ok (some .unsubAck), .ok (some .unsubAck)]

theorem verbatimStep_keeps_result :
    (Session.new 16).active = none ∧
      AlikeUntilUnsubscribe (verbatimStep.trace polling promptAnswer)
        (verbatimStep.trace polling lateAnswers) ∧
      ((verbatimStep.run polling promptAnswer).1.result =
          (verbatimStep.run polling lateAnswers).1.result ∧
        ∃ progress, .unsubscribed ∉ progress ∧
          ((verbatimStep.run polling promptAnswer).1.progress = progress ++
            if (verbatimStep.run polling promptAnswer).1.result.isOk &&
              cleared ([] ++ verbatimRequest.topics.responseFilters)
                (verbatimStep.trace polling promptAnswer)
            then [.unsubscribed] else []) ∧
          ((verbatimStep.run polling lateAnswers).1.progress = progress ++
            if (verbatimStep.run polling lateAnswers).1.result.isOk &&
              cleared ([] ++ verbatimRequest.topics.responseFilters)
                (verbatimStep.trace polling lateAnswers)
            then [.unsubscribed] else [])) ∧
      .unsubscribed ∈ (verbatimStep.run polling promptAnswer).1.progress ∧
      .unsubscribed ∉ (verbatimStep.run polling lateAnswers).1.progress := by
  have halike : AlikeUntilUnsubscribe (verbatimStep.trace polling promptAnswer)
      (verbatimStep.trace polling lateAnswers) := alike_of_takeWhile_eq rfl
  exact ⟨rfl, halike, unsubscribing_keeps_result rfl (path_trace polling verbatimStep promptAnswer)
    (path_trace polling verbatimStep lateAnswers) halike, by decide, by decide⟩

end Enrolment
