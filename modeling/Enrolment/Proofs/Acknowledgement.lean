import Enrolment.Proofs.Outcome
import Enrolment.Proofs.Provision

/-!
# Enrolment.Proofs.Acknowledgement

Which acknowledgement a request is published on. A SUBACK does not say which SUBSCRIBE it answers,
and a wait takes the next one that comes. A broker that answers every SUBSCRIBE in turn, however
late, may therefore leave acknowledgements of the first step to the second.

* `StepPath.granted`: a request is published on the first SUBACK that grants, and that one was taken
  in the wait after a SUBSCRIBE for the step.
* `publish_acknowledged`: what that means for the two requests of a run.
-/

namespace Enrolment

open Interaction

/-! ## SUBSCRIBEs and their answers -/

/-- The filters of a SUBSCRIBE that was taken. -/
def Event.subscribed? : Event → Option (List String)
  | ⟨.subscribe filters, .ok ()⟩ => some filters
  | _ => none

/-- The SUBSCRIBEs among some events. -/
def subscribes (t : List Event) : List (List String) := t.filterMap Event.subscribed?

@[simp] theorem subscribes_append (t u : List Event) :
    subscribes (t ++ u) = subscribes t ++ subscribes u := List.filterMap_append

/-- At no point are there more acknowledgements than SUBSCRIBEs. -/
def AcknowledgedInTurn (t : List Event) : Prop :=
  ∀ n ≤ t.length, (subAcks (t.take n)).length ≤ (subscribes (t.take n)).length

instance (t : List Event) : Decidable (AcknowledgedInTurn t) :=
  inferInstanceAs (Decidable (∀ n ≤ t.length, _))

theorem AcknowledgedInTurn.earlier {t u v : List Event} (h : AcknowledgedInTurn t)
    (ht : t = u ++ v) : (subAcks u).length ≤ (subscribes u).length := by
  have hn := h u.length (by simp [ht])
  rwa [ht, List.take_left] at hn

/-- Every acknowledgement with the filters of the SUBSCRIBE that it answers, if they are in turn. -/
def answered (t : List Event) : List (List String × Bool) := (subscribes t).zip (subAcks t)

section Zip

variable {α : Type} {fs gs : List α} {bs : List Bool} {g : α}

theorem mem_zip_last (hg : ∀ f ∈ gs, f = g) (hlen : bs.length < gs.length) :
    (g, true) ∈ gs.zip (bs ++ [true]) := by
  induction bs generalizing gs with
  | nil =>
    cases gs with
    | nil => simp at hlen
    | cons f gs => simp [hg f List.mem_cons_self]
  | cons b bs ih =>
    cases gs with
    | nil => simp at hlen
    | cons f gs =>
      exact List.mem_cons_of_mem _ (ih (List.forall_mem_cons.1 hg).2 (Nat.lt_of_succ_lt_succ hlen))

/-- The last acknowledgement answers one of the later SUBSCRIBEs if, and only if, there are enough
before it for the earlier ones. -/
theorem mem_zip_last_iff (hf : ∀ f ∈ fs, f ≠ g) (hg : ∀ f ∈ gs, f = g)
    (hlen : bs.length < (fs ++ gs).length) :
    (g, true) ∈ (fs ++ gs).zip (bs ++ [true]) ↔ fs.length ≤ bs.length := by
  induction fs generalizing bs with
  | nil => simpa using mem_zip_last hg hlen
  | cons f fs ih =>
    obtain ⟨hne, hf⟩ := List.forall_mem_cons.1 hf
    cases bs with
    | nil => simp [Ne.symm hne]
    | cons b bs =>
      have hbs := ih hf (Nat.lt_of_succ_lt_succ hlen)
      simpa [Ne.symm hne] using hbs

end Zip

/-! ## The step -/

/-- Nothing but the filters of a step was subscribed to, and the last SUBSCRIBE was followed by one
acknowledgement, which grants. -/
structure Granted (filters : List String) (t : List Event) : Prop where
  own : ∀ l ∈ subscribes t, l = filters
  taken : ∃ u v, t = u ++ ⟨.subscribe filters, .ok ()⟩ :: v ∧ subAcks v = [true]

theorem mem_subscribes {t : List Event} {l : List String} :
    l ∈ subscribes t ↔ ⟨.subscribe l, .ok ()⟩ ∈ t := by
  simp only [subscribes, List.mem_filterMap]
  constructor
  · rintro ⟨e, he, hl⟩
    simp only [Event.subscribed?] at hl
    split at hl
    · cases hl; exact he
    · cases hl
  · intro h
    exact ⟨_, h, rfl⟩

/-- A step subscribes to the filters of its answer alone. -/
theorem StepRequest.Makes.filters_eq {request : StepRequest} {l : List String}
    (h : request.Makes (.subscribe l)) : l = request.topics.responseFilters := by
  obtain h | h | ⟨f, h⟩ | h := h
  · cases h
  · cases h; rfl
  · cases h
  · cases h

theorem subAcks_effects (t : List Event) : subAcks (effects t) = subAcks t := by
  rw [subAcks, packets_effects, subAcks]

/-- Before its request, a step has followed the wait of its last SUBSCRIBE to the end. -/
theorem GrantedBy.granted {filters : List String} {s s' : Session} {t : List Event}
    (h : GrantedBy filters t) (ho : Opening filters s t s') : Granted filters (effects t) := by
  constructor
  · intro l hl
    obtain ⟨he, -⟩ := mem_effects.1 (mem_subscribes.1 hl)
    obtain hc | hc | hc := ho.calls _ he
    · cases hc; rfl
    · cases hc
    · cases hc
  · obtain ⟨u, v, rfl, -, hv, -⟩ := h
    refine ⟨effects u, effects v, by simp [Call.isQuiet], ?_⟩
    rw [subAcks_effects, hv]

theorem StepPath.granted {α : Type} {policy : RetryPolicy} {codec : Codec}
    {settings : StepSettings} {request : StepRequest} {read : Bytes → Except CodecError α}
    {s : Session} {t : List Event} {report : StepReport α}
    (h : StepPath policy codec settings request read s t report) :
    AtEach (fun earlier e => e.call.isPublish →
      Granted request.topics.responseFilters earlier) (effects t) := by
  have hsilent : ∀ {t : List Event}, (∀ e ∈ t, e.call.isPublish = false) → ∀ e ∈ effects t,
      ∀ earlier, e.call.isPublish → Granted request.topics.responseFilters earlier := by
    intro t ht e he earlier hp
    rw [ht e (mem_effects.1 he).1] at hp
    cases hp
  cases h with
  | @made t u exchanged s' clean first last hexchange hu =>
    have hx := path_exchange hexchange
    obtain ⟨-, hc⟩ := path_unsubscribeEach hu
    have heffects : effects (logged [first] ++ t ++ u ++ logged [last]) =
        effects t ++ effects u := by
      simp [(quiet_logged _).effects]
    rw [heffects]
    refine .append ?_ (.of_forall fun e he _ => hsilent hc.not_publish e he _)
    cases hx with
    | unsubscribed hsub =>
      obtain ⟨ho, -⟩ := path_subscribeWithRetry hsub
      exact .of_forall (hsilent fun e he => (ho.calls e he).not_publish)
    | unpublished hsub =>
      obtain ⟨ho, hg⟩ := path_subscribeWithRetry hsub
      rw [effects_append]
      refine .append (.of_forall (hsilent fun e he => (ho.calls e he).not_publish))
        (.cons (fun _ => ?_) (.of_forall (by simp)))
      rw [List.append_nil]
      exact hg.granted ho
    | asked hsub hwait =>
      obtain ⟨ho, hg⟩ := path_subscribeWithRetry hsub
      have hw := hwait.waits
      rw [effects_append]
      refine .append (.of_forall (hsilent fun e he => (ho.calls e he).not_publish))
        (.cons (fun _ => ?_) (.of_forall fun e he _ => ?_))
      · rw [List.append_nil]
        exact hg.granted ho
      · exact hsilent (fun e he => Call.isPublish_of_isWait (hw e he)) e he _

/-! ## The run -/

theorem Granted.append_left {filters : List String} {t u : List Event} (h : Granted filters t)
    (hu : subscribes u = []) : Granted filters (u ++ t) := by
  obtain ⟨hown, v, w, rfl, hw⟩ := h
  exact ⟨by rw [subscribes_append, hu]; exact hown, u ++ v, w, by simp, hw⟩

namespace Provision

variable (plan : ProvisionPlan)

theorem signingFilters_ne_registrationFilters :
    plan.signingFilters ≠ plan.registrationFilters := by
  intro h
  have hmem : (Topics.createCertificate plan.format).accepted ∈ plan.signingFilters :=
    List.mem_cons_self ..
  exact not_mem_responseFilters_registerThing hmem (h ▸ hmem)

/-- What has been subscribed to and granted when something is published. -/
def Subscribed (earlier : List Event) : Call → Prop
  | .publish topic _ =>
    (topic = (Topics.createCertificate plan.format).publish ∧
      Granted plan.signingFilters earlier) ∨
    (topic = (Topics.registerThing plan.template plan.format).publish ∧
      ∃ u v, earlier = u ++ v ∧ (∀ l ∈ subscribes u, l = plan.signingFilters) ∧
        Granted plan.registrationFilters v)
  | _ => True

variable {plan} {policy : RetryPolicy} {codec : Codec} {artifact : KeyArtifact}
  {credential : Credential} {t u : List Event} {o : Except ProvisionError Registration}

theorem subscribed_of_makes {request : StepRequest} {c : Call} (h : request.Makes c)
    (hp : c.isPublish → Subscribed plan t (.publish request.topics.publish request.body)) :
    Subscribed plan t c := by
  obtain h | rfl | ⟨f, rfl⟩ | rfl := h
  · cases c <;> trivial
  · trivial
  · trivial
  · exact hp rfl

/-- `u` is what comes before registering the thing. -/
theorem RegisterOrder.subscribed {s : Session}
    (h : RegisterOrder plan policy codec credential s t o) (hidle : s.active = none)
    (hu : ∀ l ∈ subscribes u, l = plan.signingFilters) :
    AtEach (fun earlier e => Subscribed plan (u ++ earlier) e.call) t := by
  refine h.atEach (fun _ hs => ?_) (fun _ _ _ _ => trivial)
  refine (path_runStep hidle hs.path).granted.mono fun earlier e he hg => ?_
  exact subscribed_of_makes (hs.order.makes e he) fun hp => .inr ⟨rfl, u, earlier, rfl, hu, hg hp⟩

/-- `u` is what comes before obtaining the certificate. -/
theorem ObtainOrder.subscribed (h : ObtainOrder plan policy codec artifact t o)
    (hu : subscribes u = []) :
    AtEach (fun earlier e => Subscribed plan (u ++ earlier) e.call) t := by
  refine h.atEach (fun _ hs => ?_) (fun _ _ _ => trivial) ?_
  · refine (path_runStep rfl hs.path).granted.mono fun earlier e he hg => ?_
    exact subscribed_of_makes (hs.order.makes e he) fun hp =>
      .inl ⟨rfl, (hg hp).append_left hu⟩
  · intro body t v report credential o hs _ hregister
    have hown : ∀ l ∈ subscribes (u ++ effects t ++ [⟨.storeCertificate artifact.handle
        plan.certificateLabel credential.certificatePem, .ok ()⟩]), l = plan.signingFilters := by
      intro l hl
      simp only [subscribes_append, hu, List.nil_append, List.mem_append] at hl
      obtain hl | hl := hl
      · exact (hs.order.makes _ (mem_subscribes.1 hl)).filters_eq
      · cases hl
    have hsub := hregister.subscribed (path_runStep rfl hs.path).idle hown
    simpa only [List.append_assoc, List.singleton_append] using hsub

theorem RunOrder.subscribed (h : RunOrder plan policy codec t o) :
    AtEach (fun earlier e => Subscribed plan earlier e.call) t := by
  refine h.atEach (fun earlier e he => ?_) fun hopened hobtain => hobtain.subscribed ?_
  · obtain hc | hc | hc := he
    all_goals rw [hc]; trivial
  · refine List.eq_nil_iff_forall_not_mem.2 fun l hl => ?_
    obtain he | he := List.mem_cons.1 (mem_subscribes.1 hl)
    · cases he
    · cases hopened.calls _ he

variable (plan) in
/-- What has been acknowledged when a request is published. For the second request, an
acknowledgement that grants has come after its SUBSCRIBE. It answers a SUBSCRIBE of that step
exactly if the SUBSCRIBEs of the first step do not use up all acknowledgements. -/
def Acknowledged (earlier : List Event) : Call → Prop
  | .publish topic _ =>
    (topic = (Topics.createCertificate plan.format).publish →
      (plan.signingFilters, true) ∈ answered earlier) ∧
    (topic = (Topics.registerThing plan.template plan.format).publish →
      (∃ u v, earlier = u ++ ⟨.subscribe plan.registrationFilters, .ok ()⟩ :: v ∧
        true ∈ subAcks v) ∧
      ((plan.registrationFilters, true) ∈ answered earlier ↔
        (subscribes earlier).count plan.signingFilters < (subAcks earlier).length))
  | _ => True

theorem Subscribed.acknowledged {c : Call} (h : Subscribed plan t c)
    (hturn : (subAcks t).length ≤ (subscribes t).length) : Acknowledged plan t c := by
  cases c with
  | publish topic body =>
    obtain ⟨rfl, hown, a, b, ht, hb⟩ | ⟨rfl, u, v, ht, hu, hown, a, b, hv, hb⟩ := h
    · refine ⟨fun _ => ?_, fun htopic => absurd htopic (createCertificate_ne_registerThing _ _ _)⟩
      have hacks : subAcks t = subAcks a ++ [true] := by
        rw [ht, subAcks_append, subAcks_cons, hb]; rfl
      rw [hacks, List.length_append] at hturn
      rw [answered, hacks]
      exact mem_zip_last hown hturn
    · refine ⟨fun htopic => absurd htopic.symm (createCertificate_ne_registerThing _ _ _),
        fun _ => ⟨⟨u ++ a, b, by rw [ht, hv, List.append_assoc], by simp [hb]⟩, ?_⟩⟩
      have hacks : subAcks t = subAcks (u ++ a) ++ [true] := by
        rw [ht, hv, ← List.append_assoc, subAcks_append _ (_ :: b), subAcks_cons, hb]; rfl
      have hsubs : subscribes t = subscribes u ++ subscribes v := by rw [ht, subscribes_append]
      have hne := signingFilters_ne_registrationFilters plan
      have hcount : (subscribes t).count plan.signingFilters = (subscribes u).length := by
        have hzero : (subscribes v).count plan.signingFilters = 0 :=
          List.count_eq_zero.2 fun hmem => hne (hown _ hmem)
        rw [hsubs, List.count_append, hzero,
          List.count_eq_length.2 fun l hl => (hu l hl).symm, Nat.add_zero]
      rw [hacks, hsubs, List.length_append] at hturn
      rw [hcount, answered, hacks, hsubs, List.length_append,
        mem_zip_last_iff (fun l hl => hu l hl ▸ hne) hown hturn]
      exact Nat.lt_succ_iff.symm
  | _ => trivial

/-- If the broker answers every SUBSCRIBE in turn, the certificate is asked for only once a
SUBSCRIBE for the answer was granted, and the thing is registered only once a granting
acknowledgement has come after a SUBSCRIBE for that answer. -/
theorem publish_acknowledged {report : ProvisionReport} (h : Path (run plan policy codec) t report)
    (hturn : AcknowledgedInTurn (effects t)) :
    AtEach (fun earlier e => Acknowledged plan earlier e.call) (effects t) := by
  intro earlier e later ht
  have hsubscribed := (path_run h).order.subscribed earlier e later ht
  exact hsubscribed.acknowledged (hturn.earlier ht)

theorem deviceRun_acknowledged :
    AcknowledgedInTurn (effects (deviceRun.trace polling deviceAnswers)) ∧
      AtEach (fun earlier e => Acknowledged devicePlan earlier e.call)
        (effects (deviceRun.trace polling deviceAnswers)) :=
  have hturn : AcknowledgedInTurn (effects (deviceRun.trace polling deviceAnswers)) := by decide
  ⟨hturn, publish_acknowledged (path_trace polling deviceRun deviceAnswers) hturn⟩

/-- The first SUBSCRIBE is acknowledged only after its wait, and so is the next one, each in the
wait that follows. The SUBSCRIBE of the second step is refused once its request is published. -/
def lateAnswers : List (Except LinkFault (Option Packet)) :=
  [.ok none, .ok none] ++
    [.subAck true, credentialAnswer, .unsubAck, .unsubAck, .subAck true, .subAck false].map
      fun p => .ok (some p)

/-- The second request is published on an acknowledgement that answers a SUBSCRIBE of the first
step, and its own SUBSCRIBE is refused later. -/
theorem stale_acknowledgement_is_taken :
    ∃ t report earlier e later, Path deviceRun t report ∧ AcknowledgedInTurn (effects t) ∧
      effects t = earlier ++ e :: later ∧
      (∃ body, e.call = .publish (Topics.registerThing devicePlan.template
        devicePlan.format).publish body) ∧
      (devicePlan.registrationFilters, true) ∉ answered earlier ∧
      answered (effects t) = [(devicePlan.signingFilters, true), (devicePlan.signingFilters, true),
        (devicePlan.registrationFilters, false)] := by
  let t := deviceRun.trace polling lateAnswers
  refine ⟨t, _, (effects t).take 16, (effects t).get ⟨16, by decide⟩, (effects t).drop 17,
    path_trace .., ?_, ?_, ⟨Payload.Binary.registration "token" .empty, ?_⟩, ?_, ?_⟩
  · decide
  · rw [List.get_eq_getElem, List.getElem_cons_drop, List.take_append_drop]
  all_goals decide

end Provision

end Enrolment
