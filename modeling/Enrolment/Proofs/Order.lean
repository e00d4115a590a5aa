import Enrolment.Proofs.Provision

/-!
# Enrolment.Proofs.Order

What the order of a run rules out. However the link and the credential store behave, a run publishes
each of its requests once at most, asks to register the thing only after the exchange before it was
cleared away and the certificate was kept, and closes the link exactly if it has opened it, last.

* `run_calls_in_order`: the order of the calls of a run, and these three consequences.
-/

namespace Enrolment

open Interaction

/-- The call publishes on a topic. -/
def Call.publishesOn (topic : String) : Call → Bool
  | .publish topic' _ => topic' = topic
  | _ => false

/-! ## Requests -/

/-- Nothing is published. -/
def Silent (t : List Event) : Prop := ∀ e ∈ t, ∀ topic, e.call.publishesOn topic = false

theorem Silent.countP {t : List Event} (h : Silent t) (topic : String) :
    t.countP (·.call.publishesOn topic) = 0 :=
  List.countP_eq_zero.2 fun e he => by simp [h e he topic]

theorem Call.publishesOn_of_isPoll {c : Call} (h : c.isPoll) (topic : String) :
    c.publishesOn topic = false := by
  cases c <;> first | rfl | cases h

theorem Polls.silent {t : List Event} (h : Polls t) : Silent t :=
  fun e he => Call.publishesOn_of_isPoll (h e he)

theorem Subscribing.silent {filters : List String} {t : List Event} (h : Subscribing filters t) :
    Silent t := by
  intro e he topic
  obtain hp | hc := h e he
  · exact Call.publishesOn_of_isPoll hp topic
  · rw [hc]; rfl

theorem Unsubscribing.silent {filters : List String} {t : List Event}
    (h : Unsubscribing filters t) : Silent t := by
  intro e he topic
  obtain hp | ⟨f, -, hc⟩ := h e he
  · exact Call.publishesOn_of_isPoll hp topic
  · rw [hc]; rfl

theorem Opened.silent {request : ConnectRequest} {t : List Event}
    {r : Except ConnectError Unit} (h : Opened request t r) : Silent t := by
  intro e he topic
  rw [h.calls e he]
  rfl

section Step

variable {α : Type} {request : StepRequest} {t : List Event} {result : Except StepError α}

theorem StepRequest.Makes.publishesOn {topic : String} {c : Call} (h : request.Makes c)
    (hc : c.publishesOn topic) : topic = request.topics.publish := by
  obtain h | rfl | ⟨f, rfl⟩ | rfl := h
  · rw [Call.publishesOn_of_isPoll h] at hc; cases hc
  · cases hc
  · cases hc
  · simpa [Call.publishesOn, eq_comm] using hc

/-- A step publishes nothing but its request. -/
theorem StepOrder.countP_publishesOn_eq_zero (h : StepOrder request t result) {topic : String}
    (ht : topic ≠ request.topics.publish) : t.countP (·.call.publishesOn topic) = 0 :=
  List.countP_eq_zero.2 fun e he hp => ht ((h.makes e he).publishesOn hp)

theorem StepOrder.countP_publishesOn_le_one (h : StepOrder request t result) (topic : String) :
    t.countP (·.call.publishesOn topic) ≤ 1 := by
  cases h with
  | unpublished ho hc =>
    rw [List.countP_append, ho.silent.countP, hc.silent.countP]
    exact Nat.zero_le 1
  | published ho hw hc _ =>
    rw [List.countP_append, List.countP_append, List.countP_cons, ho.silent.countP,
      hw.silent.countP, hc.silent.countP]
    split <;> simp

/-- A step that ends well has unsubscribed from both topics of its answer. -/
theorem StepOrder.unsubscribed {a : α} (h : StepOrder request t (.ok a)) :
    ∀ f ∈ request.topics.responseFilters, ∃ e ∈ t, e.call = .unsubscribe f := by
  cases h with
  | published _ _ _ hu =>
    intro f hf
    obtain ⟨e, he, hc⟩ := hu f hf
    exact ⟨e, List.mem_append_right _ he, hc⟩

theorem StepOrder.not_disconnect (h : StepOrder request t result) :
    ∀ e ∈ t, e.call ≠ .disconnect := by
  intro e he hc
  have hm := h.makes e he
  rw [hc] at hm
  obtain hm | hm | ⟨f, hm⟩ | hm := hm
  all_goals cases hm

end Step

/-! ## The run -/

/-- The exchange for a certificate was cleared away, and the certificate was kept. -/
def Certified (plan : ProvisionPlan) (t : List Event) : Prop :=
  (∀ f ∈ (Topics.createCertificate plan.format).responseFilters,
    ∃ e ∈ t, e.call = .unsubscribe f) ∧
  ∃ handle label pem, ⟨.storeCertificate handle label pem, .ok ()⟩ ∈ t

theorem Certified.append_left {plan : ProvisionPlan} {t : List Event}
    (h : Certified plan t) (u : List Event) :
    Certified plan (u ++ t) := by
  obtain ⟨hu, handle, label, pem, hmem⟩ := h
  refine ⟨fun f hf => ?_, handle, label, pem, List.mem_append_right u hmem⟩
  obtain ⟨e, he, hc⟩ := hu f hf
  exact ⟨e, List.mem_append_right u he, hc⟩

/-- The link is closed once, and last, if it was opened, and never if it was not. -/
def ClosesLink (plan : ProvisionPlan) (t : List Event) : Prop :=
  (⟨.connect plan.connect, .ok ()⟩ ∈ t →
    ∃ u reply, t = u ++ [⟨.disconnect, reply⟩] ∧ ∀ e ∈ u, e.call ≠ .disconnect) ∧
  (⟨.connect plan.connect, .ok ()⟩ ∉ t → ∀ e ∈ t, e.call ≠ .disconnect)

namespace Provision

variable {plan : ProvisionPlan} {policy : RetryPolicy} {codec : Codec} {t : List Event}

variable {artifact : KeyArtifact} {credential : Credential} {s : Session}
  {o : Except ProvisionError Registration}

/-! ### Publishing once -/

theorem RegisterOrder.countP_publishesOn (h : RegisterOrder plan policy codec credential s t o)
    (topic : String) :
    t.countP (·.call.publishesOn topic) ≤ 1 ∧
      (topic ≠ (Topics.registerThing plan.template plan.format).publish →
        t.countP (·.call.publishesOn topic) = 0) := by
  cases h with
  | unwritten _ => simp
  | failed _ hstep _ =>
    exact ⟨hstep.order.countP_publishesOn_le_one topic, hstep.order.countP_publishesOn_eq_zero⟩
  | @recorded _ _ _ registration now reply _ hstep _ =>
    have hs : Silent [⟨.storeIdentity (plan.record credential registration now), reply⟩] := by
      simp [Silent, Call.publishesOn]
    rw [List.countP_append, hs.countP]
    exact ⟨hstep.order.countP_publishesOn_le_one topic, hstep.order.countP_publishesOn_eq_zero⟩

/-- Whatever the topic, a run publishes on it once at most. -/
theorem ObtainOrder.countP_publishesOn (h : ObtainOrder plan policy codec artifact t o)
    (topic : String) : t.countP (·.call.publishesOn topic) ≤ 1 := by
  cases h with
  | unwritten _ => simp
  | failed _ hstep _ => exact hstep.order.countP_publishesOn_le_one topic
  | @unstored _ _ _ credential e _ hstep _ =>
    have hs : Silent [⟨.storeCertificate artifact.handle plan.certificateLabel
        credential.certificatePem, .error e⟩] := by simp [Silent, Call.publishesOn]
    rw [List.countP_append, hs.countP]
    exact hstep.order.countP_publishesOn_le_one topic
  | stored _ hstep _ hregister =>
    rw [List.countP_append, List.countP_cons_of_neg (by simp [Call.publishesOn])]
    obtain ⟨hle, hzero⟩ := hregister.countP_publishesOn topic
    by_cases ht : topic = (Topics.createCertificate plan.format).publish
    · rw [hzero (by rw [ht]; exact createCertificate_ne_registerThing _ _ _)]
      exact hstep.order.countP_publishesOn_le_one topic
    · rw [hstep.order.countP_publishesOn_eq_zero ht, Nat.zero_add]
      exact hle

theorem RunOrder.countP_publishesOn (h : RunOrder plan policy codec t o) (topic : String) :
    t.countP (·.call.publishesOn topic) ≤ 1 := by
  cases h with
  | noKey => simp [Call.publishesOn]
  | noLink hopened =>
    rw [List.countP_cons_of_neg (by simp [Call.publishesOn]), hopened.silent.countP]
    exact Nat.zero_le 1
  | @linked _ _ _ _ reply hopened hobtain =>
    have hs : Silent [⟨.disconnect, reply⟩] := by simp [Silent, Call.publishesOn]
    rw [List.countP_append, List.countP_append,
      List.countP_cons_of_neg (by simp [Call.publishesOn]), hopened.silent.countP, hs.countP,
      Nat.zero_add, Nat.add_zero]
    exact hobtain.countP_publishesOn topic

/-! ### What comes before the second request -/

theorem ObtainOrder.certified (h : ObtainOrder plan policy codec artifact t o) :
    AtEach (fun earlier e =>
      e.call.publishesOn (Topics.registerThing plan.template plan.format).publish →
        Certified plan earlier) t := by
  refine h.atEach (fun _ hs => .of_forall fun e he _ hp => ?_) (fun _ _ _ hp => by cases hp) ?_
  · -- The first step publishes on its own topic alone.
    have htopic := (hs.order.makes e he).publishesOn hp
    exact absurd htopic.symm (createCertificate_ne_registerThing _ _ _)
  · -- Whatever comes now, the first step and the certificate are before it.
    intro body t u report credential o hs hr _
    refine .of_forall fun e _ earlier _ => ⟨fun f hf => ?_, artifact.handle,
      plan.certificateLabel, credential.certificatePem, by simp⟩
    obtain ⟨e', he', hc⟩ := (hr ▸ hs.order).unsubscribed f hf
    exact ⟨e', List.mem_append_left _ he', hc⟩

theorem RunOrder.certified (h : RunOrder plan policy codec t o) :
    AtEach (fun earlier e =>
      e.call.publishesOn (Topics.registerThing plan.template plan.format).publish →
        Certified plan earlier) t := by
  refine h.atEach (fun earlier e he hp => ?_) fun _ hobtain => ?_
  · obtain hc | hc | hc := he <;> (rw [hc] at hp; cases hp)
  · exact hobtain.certified.mono fun earlier e _ hcertified hp => (hcertified hp).append_left _

/-! ### Closing the link -/

theorem ObtainOrder.not_disconnect (h : ObtainOrder plan policy codec artifact t o) :
    ∀ e ∈ t, e.call ≠ .disconnect := by
  refine AtEach.forall_mem (h.atEach (fun _ hs => .of_forall fun e he _ => ?_) (by simp) ?_)
  · exact hs.order.not_disconnect e he
  · intro body t u report credential o _ _ hregister
    refine hregister.atEach (fun _ hs => .of_forall fun e he _ => ?_) (by simp)
    exact hs.order.not_disconnect e he

theorem RunOrder.closesLink (h : RunOrder plan policy codec t o) : ClosesLink plan t := by
  cases h with
  | noKey => exact ⟨by simp, by simp⟩
  | @noLink artifact u e hopened =>
    constructor
    · intro hmem
      obtain hmem | hmem := List.mem_cons.1 hmem
      · cases hmem
      · cases hopened with
        | refused hrefused =>
          obtain ⟨fault, hf⟩ := hrefused _ hmem
          cases hf
    · refine fun _ => List.forall_mem_cons.2 ⟨by simp, fun e he hc => ?_⟩
      rw [hopened.calls e he] at hc
      cases hc
  | @linked artifact u v _ reply hopened hobtain =>
    constructor
    · refine fun _ => ⟨_, reply, rfl, List.forall_mem_append.2 ⟨List.forall_mem_cons.2
        ⟨by simp, fun e he hc => ?_⟩, hobtain.not_disconnect⟩⟩
      rw [hopened.calls e he] at hc
      cases hc
    · intro hn
      cases hopened with
      | taken _ => exact absurd (by simp) hn

/-- The calls of a run, whatever their replies, come in order. Each request is published once at
most; the thing is registered only once the exchange for the certificate was cleared away and the
certificate kept; and the link is closed exactly if it was opened, last. -/
theorem run_calls_in_order {report : ProvisionReport} (h : Path (run plan policy codec) t report) :
    RunOrder plan policy codec (effects t) report.result ∧
      (∀ topic, (effects t).countP (·.call.publishesOn topic) ≤ 1) ∧
      AtEach (fun earlier e =>
        e.call.publishesOn (Topics.registerThing plan.template plan.format).publish →
          Certified plan earlier) (effects t) ∧
      ClosesLink plan (effects t) := by
  have horder := (path_run h).order
  exact ⟨horder, horder.countP_publishesOn, horder.certified, horder.closesLink⟩

theorem deviceRun_calls_in_order :
    Path deviceRun (deviceRun.trace polling deviceAnswers) (deviceRun.run polling deviceAnswers).1 ∧
      RunOrder devicePlan .standard (.standard .standard .cbor)
        (effects (deviceRun.trace polling deviceAnswers)) (.ok ⟨"thing", .empty⟩) ∧
      (∀ topic, (effects (deviceRun.trace polling deviceAnswers)).countP
        (·.call.publishesOn topic) ≤ 1) ∧
      AtEach (fun earlier e =>
        e.call.publishesOn (Topics.registerThing "FleetTemplate" .cbor).publish →
          Certified devicePlan earlier) (effects (deviceRun.trace polling deviceAnswers)) ∧
      ClosesLink devicePlan (effects (deviceRun.trace polling deviceAnswers)) :=
  ⟨path_trace .., run_calls_in_order (path_trace polling deviceRun deviceAnswers)⟩

end Provision

end Enrolment
