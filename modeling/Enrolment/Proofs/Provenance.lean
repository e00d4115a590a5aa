import Enrolment.Proofs.Outcome
import Enrolment.Proofs.Provision

/-!
# Enrolment.Proofs.Provenance

Where what a run sends and keeps comes from. Both steps share a session and its buffer, and packets
may come at any time; all the same, every request is written from what the run has obtained before,
and everything kept was read from the answer of the step that asked for it.

* `StepPath.read_answer`: a step that ends well has read the first answer to its request.
* `run_provenance`: every call of a run carries what it should.
-/

namespace Enrolment

open Interaction

namespace Topics

variable {topics : Topics} {capacity : Nat} {ps : List Packet} {body : Bytes}

/-- The first answer among some packets is an accepted one, and its body, as it was delivered, is
`body`. -/
def FirstAccepted (topics : Topics) (capacity : Nat) (ps : List Packet) (body : Bytes) : Prop :=
  topics.firstAnswer capacity ps = some (.accepted, body) ∧ .publish topics.accepted body ∈ ps

theorem firstAccepted_of_firstAnswer (h : topics.firstAnswer capacity ps = some (.accepted, body)) :
    topics.FirstAccepted capacity ps body := by
  refine ⟨h, ?_⟩
  obtain ⟨p, hp, ha⟩ := List.exists_of_findSome?_eq_some h
  cases p with
  | publish topic body' =>
    simp only [answer?, dispositionOf] at ha
    by_cases ht : topic = topics.accepted
    · simp only [ht, if_true, Disposition.answer?, Option.bind_some] at ha
      split at ha
      · cases ha; exact ht ▸ hp
      · cases ha
    · simp only [ht, if_false] at ha
      split at ha <;> cases ha
  | _ => cases ha

theorem FirstAccepted.append (h : topics.FirstAccepted capacity ps body) (qs : List Packet) :
    topics.FirstAccepted capacity (ps ++ qs) body :=
  ⟨by rw [firstAnswer_append, h.1]; rfl, List.mem_append_left qs h.2⟩

end Topics

theorem StepPath.read_answer {α : Type} {policy : RetryPolicy} {codec : Codec}
    {settings : StepSettings} {request : StepRequest} {read : Bytes → Except CodecError α}
    {s : Session} {t : List Event} {report : StepReport α} {a : α}
    (h : StepPath policy codec settings request read s t report) (hr : report.result = .ok a) :
    ∃ body, request.topics.FirstAccepted s.payload.capacity (packets t) body ∧
      read body = .ok a := by
  obtain ⟨opening, waiting, ⟨disposition, body⟩, -, hfirst, hverdict⟩ := h.asked (hr ▸ trivial)
  rw [hr] at hverdict
  cases disposition with
  | accepted =>
    refine ⟨body, Topics.firstAccepted_of_firstAnswer hfirst, ?_⟩
    simp only [verdict] at hverdict
    cases hread : read body with
    | ok b => rw [hread] at hverdict; cases hverdict; rfl
    | error e => rw [hread] at hverdict; cases hverdict
  | rejected => cases hverdict

namespace Provision

variable (plan : ProvisionPlan) (codec : Codec)

/-- The first call of a run has made a key. -/
def MadeKey (t : List Event) (artifact : KeyArtifact) : Prop :=
  ∃ rest, t = ⟨.generateKey plan.keyLabel plan.connect.clientId, .ok artifact⟩ :: rest

/-- The first answer to the certificate request reads as a credential. -/
def Issued (t : List Event) (credential : Credential) : Prop :=
  ∃ body, codec.readCredential body = .ok credential ∧
    (Topics.createCertificate plan.format).FirstAccepted plan.payloadCapacity (packets t) body

/-- The first answer to the registration request, since the certificate was kept, reads as a
registration. -/
def Registered (t : List Event) (registration : Registration) : Prop :=
  ∃ earlier handle label pem later body,
    t = earlier ++ ⟨.storeCertificate handle label pem, .ok ()⟩ :: later ∧
    codec.readRegistration body = .ok registration ∧
    (Topics.registerThing plan.template plan.format).FirstAccepted plan.payloadCapacity
      (packets later) body

/-- What a call of a run carries, after the events of `earlier`. -/
def Carries (earlier : List Event) : Call → Prop
  | .publish topic body =>
    (topic = (Topics.createCertificate plan.format).publish ∧ ∃ artifact,
      MadeKey plan earlier artifact ∧
      codec.writeSigningRequest artifact.signingRequest = .ok body) ∨
    (topic = (Topics.registerThing plan.template plan.format).publish ∧ ∃ credential,
      Issued plan codec earlier credential ∧
      codec.writeRegistration credential.ownershipToken plan.parameters = .ok body)
  | .storeCertificate handle label pem => ∃ artifact credential,
    MadeKey plan earlier artifact ∧ Issued plan codec earlier credential ∧
    handle = artifact.handle ∧ label = plan.certificateLabel ∧ pem = credential.certificatePem
  | .storeIdentity record => ∃ credential registration now,
    Issued plan codec earlier credential ∧ Registered plan codec earlier registration ∧
    record = plan.record credential registration now
  | _ => True

variable {plan codec}

variable {policy : RetryPolicy} {artifact : KeyArtifact} {credential : Credential}
  {t u : List Event} {o : Except ProvisionError Registration}

theorem MadeKey.append (h : MadeKey plan t artifact) (u : List Event) :
    MadeKey plan (t ++ u) artifact := by
  obtain ⟨rest, rfl⟩ := h
  exact ⟨rest ++ u, rfl⟩

theorem Issued.append (h : Issued plan codec t credential) (u : List Event) :
    Issued plan codec (t ++ u) credential := by
  obtain ⟨body, hread, hfirst⟩ := h
  exact ⟨body, hread, by rw [packets_append]; exact hfirst.append _⟩

/-- A call of a step carries what it should, if the request does. -/
theorem carries_of_makes {request : StepRequest} {c : Call} (h : request.Makes c)
    (hp : Carries plan codec t (.publish request.topics.publish request.body)) :
    Carries plan codec t c := by
  obtain h | rfl | ⟨f, rfl⟩ | rfl := h
  · cases c <;> trivial
  · trivial
  · trivial
  · exact hp

/-- `u` is what comes before registering the thing. -/
theorem RegisterOrder.carries {s : Session} (h : RegisterOrder plan policy codec credential s t o)
    (hidle : s.active = none) (hcapacity : s.payload.capacity = plan.payloadCapacity)
    (hissued : Issued plan codec u credential) (handle label pem : String) :
    AtEach (fun earlier e => Carries plan codec
      (u ++ ⟨.storeCertificate handle label pem, .ok ()⟩ :: earlier) e.call) t := by
  refine h.atEach (fun hw hs => .of_forall fun e he earlier => ?_) ?_
  · exact carries_of_makes (hs.order.makes e he) (.inr ⟨rfl, credential, hissued.append _, hw⟩)
  · intro body t report registration now reply hs hr
    obtain ⟨answer, hfirst, hread⟩ := (path_runStep hidle hs.path).read_answer hr
    rw [hcapacity] at hfirst
    refine ⟨credential, registration, now, hissued.append _, ?_, rfl⟩
    exact ⟨u, handle, label, pem, effects t, answer, rfl, hread,
      by rw [packets_effects]; exact hfirst⟩

/-- `u` is what comes before obtaining the certificate. -/
theorem ObtainOrder.carries (h : ObtainOrder plan policy codec artifact t o)
    (hkey : MadeKey plan u artifact) (hpackets : packets u = []) :
    AtEach (fun earlier e => Carries plan codec (u ++ earlier) e.call) t := by
  have hissued : ∀ {body : Bytes} {t : List Event} {report : StepReport Credential}
      {credential : Credential},
      Stepped policy codec plan.settings (plan.signing body) codec.readCredential
        (.new plan.payloadCapacity) t report →
      report.result = .ok credential → Issued plan codec (u ++ effects t) credential := by
    intro body t report credential hs hr
    obtain ⟨answer, hfirst, hread⟩ := (path_runStep rfl hs.path).read_answer hr
    refine ⟨answer, hread, ?_⟩
    rw [packets_append, hpackets, packets_effects]
    exact hfirst
  refine h.atEach (fun hw hs => .of_forall fun e he earlier => ?_) (fun reply hs hr => ?_) ?_
  · exact carries_of_makes (hs.order.makes e he) (.inl ⟨rfl, artifact, hkey.append _, hw⟩)
  · exact ⟨artifact, _, hkey.append _, hissued hs hr, rfl, rfl, rfl⟩
  · intro body t v report credential o hs hr hregister
    have hpath := path_runStep rfl hs.path
    have hcarries := hregister.carries hpath.idle hpath.capacity (hissued hs hr) artifact.handle
      plan.certificateLabel credential.certificatePem
    simpa only [List.append_assoc] using hcarries

theorem RunOrder.carries (h : RunOrder plan policy codec t o) :
    AtEach (fun earlier e => Carries plan codec earlier e.call) t := by
  refine h.atEach (fun earlier e he => ?_) fun hopened hobtain => hobtain.carries ⟨_, rfl⟩ ?_
  · obtain hc | hc | hc := he
    all_goals rw [hc]; trivial
  · refine packets_eq_nil (List.forall_mem_cons.2 ⟨by simp, fun e he timeout => ?_⟩)
    rw [hopened.calls e he]
    simp

theorem RegisterOrder.stored_identity {s : Session} {registration : Registration}
    (h : RegisterOrder plan policy codec credential s t (.ok registration)) :
    ∃ now, ⟨.storeIdentity (plan.record credential registration now), .ok ()⟩ ∈ t := by
  generalize ho : (Except.ok registration : Except ProvisionError Registration) = o at h
  cases h with
  | unwritten _ => cases ho
  | failed _ _ _ => cases ho
  | @recorded _ _ _ _ now reply _ _ _ =>
    match reply, ho with
    | .ok (), ho => cases ho; exact ⟨now, by simp⟩

/-- A run that succeeds has recorded what it returns. -/
theorem RunOrder.stored_identity {registration : Registration}
    (h : RunOrder plan policy codec t (.ok registration)) :
    ∃ credential now, ⟨.storeIdentity (plan.record credential registration now), .ok ()⟩ ∈ t := by
  cases h with
  | linked _ hobtain =>
    cases hobtain with
    | @stored _ _ _ _ credential _ _ _ _ hregister =>
      obtain ⟨now, hmem⟩ := hregister.stored_identity
      exact ⟨credential, now, by simp [hmem]⟩

/-- Every call of a run carries what it should, and a run that succeeds returns the registration
that it has recorded. -/
theorem run_provenance {report : ProvisionReport} (h : Path (run plan policy codec) t report) :
    AtEach (fun earlier e => Carries plan codec earlier e.call) (effects t) ∧
      ∀ registration, report.result = .ok registration → ∃ credential now,
        ⟨.storeIdentity (plan.record credential registration now), .ok ()⟩ ∈ effects t := by
  have horder := (path_run h).order
  exact ⟨horder.carries, fun registration hr => (hr ▸ horder).stored_identity⟩

theorem deviceRun_provenance :
    Path deviceRun (deviceRun.trace polling deviceAnswers) (deviceRun.run polling deviceAnswers).1 ∧
      AtEach (fun earlier e => Carries devicePlan (.standard .standard .cbor) earlier e.call)
        (effects (deviceRun.trace polling deviceAnswers)) ∧
      ∃ credential now,
        ⟨.storeIdentity (devicePlan.record credential ⟨"thing", .empty⟩ now), .ok ()⟩ ∈
          effects (deviceRun.trace polling deviceAnswers) :=
  have h := run_provenance (path_trace polling deviceRun deviceAnswers)
  ⟨path_trace .., h.1, h.2 _ rfl⟩

end Provision

end Enrolment
