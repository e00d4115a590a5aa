import Enrolment.Payload.Standard
import Enrolment.Proofs.StepOrder
import Enrolment.Provision

/-!
# Enrolment.Proofs.Provision

The order of the calls of a run, as far as the link and the credential store see it: which part
follows which, and where each can stop. Every step among them is one that was made, and keeps to the
order of `Enrolment.Proofs.StepOrder`.

* `path_connectWithRetry`: refused attempts, and then one that is taken, if the link is opened.
* `path_register`, `path_obtain`, `path_drive`, `path_run`: the ways in which a run can go, part by
  part.
* `RunPath.order`: the order of the calls of a run.
-/

namespace Enrolment

open Interaction

/-! ## The link -/

/-- A call to open a link, refused. -/
def RefusedLink (request : ConnectRequest) (e : Event) : Prop :=
  ∃ fault, e = ⟨.connect request, .error fault⟩

/-- The calls that opening a link makes: all are refused, or all but the last one. -/
inductive Opened (request : ConnectRequest) : List Event → Except ConnectError Unit → Prop
  | refused {t : List Event} {e : ConnectError} :
      (∀ e ∈ t, RefusedLink request e) → Opened request t (.error e)
  | taken {t : List Event} :
      (∀ e ∈ t, RefusedLink request e) → Opened request (t ++ [⟨.connect request, .ok ()⟩]) (.ok ())

/-- An attempt, in the form that is repeated. -/
def connectAttempt (request : ConnectRequest) (failed : UInt32) (_ : Unit) :
    Interaction (Unit × Except ConnectFault Unit) := do
  return ((), ← connectOnce request failed)

theorem connectWithRetry_eq (policy : RetryPolicy) (request : ConnectRequest) :
    connectWithRetry policy request = (do
      return (← attemptUnder policy (connectAttempt request) ()).2) := rfl

section Connect

variable {policy : RetryPolicy} {request : ConnectRequest} {failed : UInt32} {r r' : Retry}
  {t : List Event}

theorem path_connectAttempt {o : Except ConnectFault Unit}
    (h : Path (connectAttempt request failed ()) t ((), o)) :
    (∃ fault, o = .error fault ∧ ∃ e, RefusedLink request e ∧ effects t = [e]) ∨
      (o = .ok () ∧ effects t = [⟨.connect request, .ok ()⟩]) := by
  obtain ⟨t₁, t₂, outcome, rfl, h₁, h₂⟩ := path_bind.1 h
  obtain ⟨rfl, hr⟩ := path_pure.1 h₂
  cases hr
  obtain ⟨reply, t₃, rfl, h₃⟩ := path_perform_bind.1 h₁
  match reply, h₃ with
  | .ok (), h₃ =>
    obtain ⟨t₄, rfl, h₄⟩ := path_log_bind.1 h₃
    obtain ⟨rfl, rfl⟩ := path_pure.1 h₄
    exact .inr ⟨rfl, by simp [Call.isQuiet]⟩
  | .error fault, h₃ =>
    obtain ⟨t₄, rfl, h₄⟩ := path_log_bind.1 h₃
    obtain ⟨rfl, rfl⟩ := path_pure.1 h₄
    exact .inl ⟨_, rfl, _, ⟨fault, rfl⟩, by simp [Call.isQuiet]⟩

theorem retried_connect {u u' : Unit} (h : Retried (connectAttempt request) r u t r' u') :
    ∀ e ∈ effects t, RefusedLink request e := by
  induction h with
  | start => simp
  | again _ hattempt _ ih =>
    obtain ⟨fault, -, e, he, heff⟩ | ⟨h, -⟩ := path_connectAttempt hattempt
    · simpa [heff, Call.isQuiet, he] using ih
    · cases h

theorem ended_connect {o : Except ConnectError Unit}
    (h : Ended (connectAttempt request) r () t () o) : Opened request (effects t) o := by
  cases h with
  | ok hattempt =>
    obtain ⟨fault, h, -⟩ | ⟨h, heff⟩ := path_connectAttempt hattempt
    · cases h
    · rw [heff]; exact .taken (t := []) (by simp)
  | exhausted _ hattempt =>
    obtain ⟨fault, -, e, he, heff⟩ | ⟨h, -⟩ := path_connectAttempt hattempt
    · rw [heff]
      exact .refused (by simpa using he)
    · cases h
  | noEntropy _ hattempt =>
    obtain ⟨fault, -, e, he, heff⟩ | ⟨h, -⟩ := path_connectAttempt hattempt
    · rw [effects_append, heff]
      exact .refused (by simpa [Call.isQuiet] using he)
    · cases h

theorem Opened.append_left {o : Except ConnectError Unit} {u : List Event}
    (h : Opened request u o) (ht : ∀ e ∈ t, RefusedLink request e) : Opened request (t ++ u) o := by
  cases h with
  | refused hu => exact .refused (List.forall_mem_append.2 ⟨ht, hu⟩)
  | taken hu =>
    rw [← List.append_assoc]
    exact .taken (List.forall_mem_append.2 ⟨ht, hu⟩)

theorem Opened.calls {o : Except ConnectError Unit} (h : Opened request t o) :
    ∀ e ∈ t, e.call = .connect request := by
  cases h with
  | refused ht =>
    intro e he
    obtain ⟨fault, rfl⟩ := ht e he
    rfl
  | taken ht =>
    refine List.forall_mem_append.2 ⟨fun e he => ?_, by simp⟩
    obtain ⟨fault, rfl⟩ := ht e he
    rfl

theorem path_connectWithRetry {o : Except ConnectError Unit}
    (h : Path (connectWithRetry policy request) t o) : Opened request (effects t) o := by
  rw [connectWithRetry_eq] at h
  obtain ⟨t₁, t₂, ⟨⟨⟩, outcome⟩, rfl, h₁, h₂⟩ := path_bind.1 h
  obtain ⟨rfl, rfl⟩ := path_pure.1 h₂
  obtain ⟨t₃, t₄, r, ⟨⟩, rfl, hretried, hended⟩ := path_attemptUnder.1 h₁
  rw [List.append_nil, effects_append]
  exact (ended_connect hended).append_left (retried_connect hretried)

end Connect

/-! ## The run -/

/-- The topics of the two steps, told apart by their first six characters. -/
theorem ne_of_mem_topics {format format' : PayloadFormat} {template topic topic' : String}
    (h : topic ∈ (Topics.createCertificate format).publish ::
      (Topics.createCertificate format).responseFilters)
    (h' : topic' ∈ (Topics.registerThing template format').publish ::
      (Topics.registerThing template format').responseFilters) : topic ≠ topic' := by
  have htake : ∀ t ∈ (Topics.createCertificate format).publish ::
      (Topics.createCertificate format).responseFilters, t.toList.take 6 = "$aws/c".toList := by
    simp [Topics.createCertificate, Topics.ofBase, Topics.responseFilters]
  have htake' : ∀ t ∈ (Topics.registerThing template format').publish ::
      (Topics.registerThing template format').responseFilters,
      t.toList.take 6 = "$aws/p".toList := by
    simp [Topics.registerThing, Topics.ofBase, Topics.responseFilters]
  rintro rfl
  have heq := (htake topic h).symm.trans (htake' topic h')
  simp at heq

/-- The two requests go to two topics. -/
theorem createCertificate_ne_registerThing (format format' : PayloadFormat) (template : String) :
    (Topics.createCertificate format).publish ≠
      (Topics.registerThing template format').publish :=
  ne_of_mem_topics (List.mem_cons_self ..) (List.mem_cons_self ..)

theorem not_mem_responseFilters_registerThing {format format' : PayloadFormat} {template : String}
    {f : String} (h : f ∈ (Topics.createCertificate format).responseFilters) :
    f ∉ (Topics.registerThing template format').responseFilters := fun h' =>
  ne_of_mem_topics (List.mem_cons_of_mem _ h) (List.mem_cons_of_mem _ h') rfl

namespace ProvisionPlan

/-- The request for a certificate. -/
def signing (plan : ProvisionPlan) (body : Bytes) : StepRequest :=
  ⟨.createCertificate, .createCertificate plan.format, body⟩

/-- The request to register the thing. -/
def registration (plan : ProvisionPlan) (body : Bytes) : StepRequest :=
  ⟨.registerThing, .registerThing plan.template plan.format, body⟩

/-- The filters of the first step. -/
def signingFilters (plan : ProvisionPlan) : List String :=
  (Topics.createCertificate plan.format).responseFilters

/-- The filters of the second step. -/
def registrationFilters (plan : ProvisionPlan) : List String :=
  (Topics.registerThing plan.template plan.format).responseFilters

/-- The record that a run leaves. -/
def record (plan : ProvisionPlan) (credential : Credential) (registration : Registration)
    (now : Timestamp) : Identity where
  thingName := registration.thingName
  certificateId := credential.certificateId
  template := plan.template
  keyLabel := plan.keyLabel
  certificateLabel := plan.certificateLabel
  provisionedAt := now
  configuration := registration.configuration

end ProvisionPlan

/-- A step that was made, and the order of its calls. -/
structure Stepped {α : Type} (policy : RetryPolicy) (codec : Codec) (settings : StepSettings)
    (request : StepRequest) (read : Bytes → Except CodecError α) (s : Session) (t : List Event)
    (report : StepReport α) : Prop where
  path : Path (runStep policy codec settings request read s) t report
  order : StepOrder request (effects t) report.result

namespace Provision

variable (plan : ProvisionPlan) (policy : RetryPolicy) (codec : Codec)

/-- The calls of registering the thing, and where they can stop. -/
inductive RegisterOrder (credential : Credential) (s : Session) :
    List Event → Except ProvisionError Registration → Prop
  | unwritten {cause : CodecError} :
      codec.writeRegistration credential.ownershipToken plan.parameters = .error cause →
      RegisterOrder credential s [] (.error (.encode .registerThing cause))
  | failed {body : Bytes} {t : List Event} {report : StepReport Registration} {e : StepError} :
      codec.writeRegistration credential.ownershipToken plan.parameters = .ok body →
      Stepped policy codec plan.settings (plan.registration body) codec.readRegistration s t
        report →
      report.result = .error e →
      RegisterOrder credential s (effects t) (.error (.step e))
  | recorded {body : Bytes} {t : List Event} {report : StepReport Registration}
      {registration : Registration} {now : Timestamp} {reply : Except StoreError Unit} :
      codec.writeRegistration credential.ownershipToken plan.parameters = .ok body →
      Stepped policy codec plan.settings (plan.registration body) codec.readRegistration s t
        report →
      report.result = .ok registration →
      RegisterOrder credential s
        (effects t ++ [⟨.storeIdentity (plan.record credential registration now), reply⟩])
        (reply.map (fun _ => registration) |>.mapError .store)

/-- The calls of obtaining a certificate and of what follows, and where they can stop. -/
inductive ObtainOrder (artifact : KeyArtifact) :
    List Event → Except ProvisionError Registration → Prop
  | unwritten {cause : CodecError} :
      codec.writeSigningRequest artifact.signingRequest = .error cause →
      ObtainOrder artifact [] (.error (.encode .createCertificate cause))
  | failed {body : Bytes} {t : List Event} {report : StepReport Credential} {e : StepError} :
      codec.writeSigningRequest artifact.signingRequest = .ok body →
      Stepped policy codec plan.settings (plan.signing body) codec.readCredential
        (.new plan.payloadCapacity) t report →
      report.result = .error e →
      ObtainOrder artifact (effects t) (.error (.step e))
  | unstored {body : Bytes} {t : List Event} {report : StepReport Credential}
      {credential : Credential} {e : StoreError} :
      codec.writeSigningRequest artifact.signingRequest = .ok body →
      Stepped policy codec plan.settings (plan.signing body) codec.readCredential
        (.new plan.payloadCapacity) t report →
      report.result = .ok credential →
      ObtainOrder artifact
        (effects t ++ [⟨.storeCertificate artifact.handle plan.certificateLabel
          credential.certificatePem, .error e⟩])
        (.error (.store e))
  | stored {body : Bytes} {t u : List Event} {report : StepReport Credential}
      {credential : Credential} {o : Except ProvisionError Registration} :
      codec.writeSigningRequest artifact.signingRequest = .ok body →
      Stepped policy codec plan.settings (plan.signing body) codec.readCredential
        (.new plan.payloadCapacity) t report →
      report.result = .ok credential →
      RegisterOrder plan policy codec credential report.session u o →
      ObtainOrder artifact
        (effects t ++ ⟨.storeCertificate artifact.handle plan.certificateLabel
          credential.certificatePem, .ok ()⟩ :: u)
        o

/-- The calls of a run, and where they can stop. What is done on the link stands between opening and
closing it. -/
inductive RunOrder : List Event → Except ProvisionError Registration → Prop
  | noKey {e : StoreError} :
      RunOrder [⟨.generateKey plan.keyLabel plan.connect.clientId, .error e⟩] (.error (.store e))
  | noLink {artifact : KeyArtifact} {t : List Event} {e : ConnectError} :
      Opened plan.connect t (.error e) →
      RunOrder (⟨.generateKey plan.keyLabel plan.connect.clientId, .ok artifact⟩ :: t)
        (.error (.connect e))
  | linked {artifact : KeyArtifact} {t u : List Event} {o : Except ProvisionError Registration}
      {reply : Except LinkFault Unit} :
      Opened plan.connect t (.ok ()) →
      ObtainOrder plan policy codec artifact u o →
      RunOrder (⟨.generateKey plan.keyLabel plan.connect.clientId, .ok artifact⟩ :: t ++ u ++
        [⟨.disconnect, reply⟩]) o

/-! ### The paths -/

/-- The ways in which registering the thing can go. -/
inductive RegisterPath (credential : Credential) (s : Session) :
    List Event → ProvisionReport → Prop
  | unwritten {cause : CodecError} :
      codec.writeRegistration credential.ownershipToken plan.parameters = .error cause →
      RegisterPath credential s [] (stopped (.encode .registerThing cause))
  | failed {body : Bytes} {t : List Event} {made : StepReport Registration} {e : StepError} :
      codec.writeRegistration credential.ownershipToken plan.parameters = .ok body →
      Path (runStep policy codec plan.settings (plan.registration body) codec.readRegistration s) t
        made →
      made.result = .error e →
      RegisterPath credential s t ⟨made.progress.map (.step .registerThing), .error (.step e)⟩
  | recorded {body : Bytes} {t : List Event} {made : StepReport Registration}
      {registration : Registration} {now : Timestamp} {reply : Except StoreError Unit} :
      codec.writeRegistration credential.ownershipToken plan.parameters = .ok body →
      Path (runStep policy codec plan.settings (plan.registration body) codec.readRegistration s) t
        made →
      made.result = .ok registration →
      RegisterPath credential s
        (t ++ [⟨.calendar, now⟩,
          ⟨.storeIdentity (plan.record credential registration now), reply⟩])
        ⟨made.progress.map (.step .registerThing),
          reply.map (fun _ => registration) |>.mapError .store⟩

/-- The ways in which obtaining a certificate, and what follows, can go. -/
inductive ObtainPath (artifact : KeyArtifact) : List Event → ProvisionReport → Prop
  | unwritten {cause : CodecError} :
      codec.writeSigningRequest artifact.signingRequest = .error cause →
      ObtainPath artifact [] (stopped (.encode .createCertificate cause))
  | failed {body : Bytes} {t : List Event} {made : StepReport Credential} {e : StepError} :
      codec.writeSigningRequest artifact.signingRequest = .ok body →
      Path (runStep policy codec plan.settings (plan.signing body) codec.readCredential
        (.new plan.payloadCapacity)) t made →
      made.result = .error e →
      ObtainPath artifact t ⟨made.progress.map (.step .createCertificate), .error (.step e)⟩
  | unstored {body : Bytes} {t : List Event} {made : StepReport Credential}
      {credential : Credential} {line : LogLine} {e : StoreError} :
      codec.writeSigningRequest artifact.signingRequest = .ok body →
      Path (runStep policy codec plan.settings (plan.signing body) codec.readCredential
        (.new plan.payloadCapacity)) t made →
      made.result = .ok credential →
      ObtainPath artifact
        (t ++ [⟨.log line, ()⟩, ⟨.storeCertificate artifact.handle plan.certificateLabel
          credential.certificatePem, .error e⟩])
        ⟨made.progress.map (.step .createCertificate), .error (.store e)⟩
  | stored {body : Bytes} {t u : List Event} {made : StepReport Credential}
      {credential : Credential} {line : LogLine} {registered : ProvisionReport} :
      codec.writeSigningRequest artifact.signingRequest = .ok body →
      Path (runStep policy codec plan.settings (plan.signing body) codec.readCredential
        (.new plan.payloadCapacity)) t made →
      made.result = .ok credential →
      RegisterPath plan policy codec credential made.session u registered →
      ObtainPath artifact
        (t ++ ⟨.log line, ()⟩ :: ⟨.storeCertificate artifact.handle plan.certificateLabel
          credential.certificatePem, .ok ()⟩ :: u)
        (after (made.progress.map (.step .createCertificate)) registered)

/-- The ways in which a run can go between its first state and its last. -/
inductive DrivePath : List Event → ProvisionReport → Prop
  | noKey {e : StoreError} :
      DrivePath [⟨.generateKey plan.keyLabel plan.connect.clientId, .error e⟩] (stopped (.store e))
  | noLink {artifact : KeyArtifact} {t : List Event} {e : ConnectError} :
      Path (connectWithRetry policy plan.connect) t (.error e) →
      DrivePath (⟨.generateKey plan.keyLabel plan.connect.clientId, .ok artifact⟩ :: t)
        (stopped (.connect e))
  | linked {artifact : KeyArtifact} {t u : List Event} {obtained : ProvisionReport}
      {reply : Except LinkFault Unit} (lines : List LogLine) :
      Path (connectWithRetry policy plan.connect) t (.ok ()) →
      ObtainPath plan policy codec artifact u obtained →
      DrivePath
        (⟨.generateKey plan.keyLabel plan.connect.clientId, .ok artifact⟩ :: t ++ u ++
          ⟨.disconnect, reply⟩ :: logged lines)
        ⟨.connected :: obtained.states ++ if obtained.result.isOk then [.disconnected] else [],
          obtained.result⟩

/-- The last state of a run. -/
def lastState (result : Except ProvisionError Registration) : ProvisionState :=
  if result.isOk then .done else .failed

/-- The ways in which a run can go. -/
inductive RunPath : List Event → ProvisionReport → Prop
  | made {started : Nat} {t u : List Event} {driven : ProvisionReport} :
      DrivePath plan policy codec t driven → Quiet u →
      RunPath (⟨.clock, started⟩ :: t ++ u)
        ⟨.init :: driven.states ++ [lastState driven.result], driven.result⟩

variable {plan policy codec} {t : List Event} {report : ProvisionReport}

theorem path_register {credential : Credential} {s : Session}
    (h : Path (register plan policy codec credential s) t report) :
    RegisterPath plan policy codec credential s t report := by
  simp only [register] at h
  cases hw : codec.writeRegistration credential.ownershipToken plan.parameters with
  | error cause =>
    simp only [hw] at h
    obtain ⟨rfl, rfl⟩ := path_pure.1 h
    exact .unwritten hw
  | ok body =>
    simp only [hw] at h
    obtain ⟨t₁, t₂, made, rfl, h₁, h₂⟩ := path_bind.1 h
    cases hr : made.result with
    | error e =>
      simp only [hr] at h₂
      obtain ⟨rfl, rfl⟩ := path_pure.1 h₂
      rw [List.append_nil]
      exact .failed hw h₁ hr
    | ok registration =>
      simp only [hr] at h₂
      obtain ⟨now, t₃, rfl, h₃⟩ := path_perform_bind.1 h₂
      obtain ⟨reply, t₄, rfl, h₄⟩ := path_perform_bind.1 h₃
      match reply, h₄ with
      | .error e, h₄ | .ok (), h₄ =>
        obtain ⟨rfl, rfl⟩ := path_pure.1 h₄
        exact .recorded hw h₁ hr

theorem path_obtain {artifact : KeyArtifact}
    (h : Path (obtain plan policy codec artifact) t report) :
    ObtainPath plan policy codec artifact t report := by
  simp only [obtain] at h
  cases hw : codec.writeSigningRequest artifact.signingRequest with
  | error cause =>
    simp only [hw] at h
    obtain ⟨rfl, rfl⟩ := path_pure.1 h
    exact .unwritten hw
  | ok body =>
    simp only [hw] at h
    obtain ⟨t₁, t₂, made, rfl, h₁, h₂⟩ := path_bind.1 h
    cases hr : made.result with
    | error e =>
      simp only [hr] at h₂
      obtain ⟨rfl, rfl⟩ := path_pure.1 h₂
      rw [List.append_nil]
      exact .failed hw h₁ hr
    | ok credential =>
      simp only [hr] at h₂
      obtain ⟨t₃, rfl, h₃⟩ := path_log_bind.1 h₂
      obtain ⟨reply, t₄, rfl, h₄⟩ := path_perform_bind.1 h₃
      match reply, h₄ with
      | .error e, h₄ =>
        obtain ⟨rfl, rfl⟩ := path_pure.1 h₄
        exact .unstored hw h₁ hr
      | .ok (), h₄ =>
        obtain ⟨t₅, t₆, registered, rfl, h₅, h₆⟩ := path_bind.1 h₄
        obtain ⟨rfl, rfl⟩ := path_pure.1 h₆
        rw [List.append_nil]
        exact .stored hw h₁ hr (path_register h₅)

theorem path_drive (h : Path (drive plan policy codec) t report) :
    DrivePath plan policy codec t report := by
  obtain ⟨reply, t₁, rfl, h₁⟩ := path_perform_bind.1 h
  match reply, h₁ with
  | .error e, h₁ =>
    obtain ⟨rfl, rfl⟩ := path_pure.1 h₁
    exact .noKey
  | .ok artifact, h₁ =>
    obtain ⟨t₂, t₃, opened, rfl, h₂, h₃⟩ := path_bind.1 h₁
    match opened, h₂, h₃ with
    | .error e, h₂, h₃ =>
      obtain ⟨rfl, rfl⟩ := path_pure.1 h₃
      rw [List.append_nil]
      exact .noLink h₂
    | .ok (), h₂, h₃ =>
      obtain ⟨t₄, t₅, obtained, rfl, h₄, h₅⟩ := path_bind.1 h₃
      obtain ⟨t₆, t₇, closed, rfl, h₆, h₇⟩ := path_bind.1 h₅
      obtain ⟨reply, t₈, rfl, h₈⟩ := path_perform_bind.1 h₆
      obtain ⟨rfl, rfl⟩ := path_pure.1 h₈
      have hlist (lines : List LogLine) :
          (⟨.generateKey plan.keyLabel plan.connect.clientId, .ok artifact⟩ ::
              (t₂ ++ (t₄ ++ (⟨.disconnect, reply⟩ :: [] ++ logged lines))) : List Event) =
            ⟨.generateKey plan.keyLabel plan.connect.clientId, .ok artifact⟩ :: t₂ ++ t₄ ++
              ⟨.disconnect, reply⟩ :: logged lines := by simp
      match reply, h₇ with
      | .error fault, h₇ =>
        obtain ⟨t₉, rfl, h₉⟩ := path_log_bind.1 h₇
        obtain ⟨rfl, rfl⟩ := path_pure.1 h₉
        exact hlist [_] ▸ .linked [_] h₂ (path_obtain h₄)
      | .ok (), h₇ =>
        obtain ⟨rfl, rfl⟩ := path_pure.1 h₇
        exact hlist [] ▸ .linked [] h₂ (path_obtain h₄)

theorem path_run (h : Path (run plan policy codec) t report) :
    RunPath plan policy codec t report := by
  obtain ⟨started, t₁, rfl, h₁⟩ := path_perform_bind.1 h
  obtain ⟨u, v, driven, rfl, h₂, h₃⟩ := path_bind.1 h₁
  have hrest : Quiet v ∧
      report = ⟨.init :: driven.states ++ [lastState driven.result], driven.result⟩ := by
    cases hr : driven.result with
    | ok registration =>
      simp only [after, hr] at h₃
      obtain ⟨ended, t₂, rfl, h₄⟩ := path_perform_bind.1 h₃
      obtain ⟨t₃, rfl, h₅⟩ := path_log_bind.1 h₄
      obtain ⟨rfl, rfl⟩ := path_pure.1 h₅
      exact ⟨by simp [Quiet, Call.isQuiet], rfl⟩
    | error e =>
      simp only [after, hr] at h₃
      obtain ⟨t₂, rfl, h₄⟩ := path_log_bind.1 h₃
      obtain ⟨rfl, rfl⟩ := path_pure.1 h₄
      exact ⟨by simp [Quiet, Call.isQuiet], rfl⟩
  obtain ⟨hq, rfl⟩ := hrest
  rw [← List.cons_append]
  exact .made (path_drive h₂) hq

/-! ### The order of the calls -/

theorem RegisterPath.order {credential : Credential} {s : Session}
    (h : RegisterPath plan policy codec credential s t report) (hidle : s.active = none)
    (hs : s.subscriptions = []) :
    RegisterOrder plan policy codec credential s (effects t) report.result := by
  cases h with
  | unwritten hw => exact .unwritten hw
  | failed hw hmade hr => exact .failed hw ⟨hmade, (path_runStep hidle hmade).order hs⟩ hr
  | recorded hw hmade hr =>
    rw [effects_append]
    exact .recorded hw ⟨hmade, (path_runStep hidle hmade).order hs⟩ hr

theorem ObtainPath.order {artifact : KeyArtifact}
    (h : ObtainPath plan policy codec artifact t report) :
    ObtainOrder plan policy codec artifact (effects t) report.result := by
  cases h with
  | unwritten hw => exact .unwritten hw
  | failed hw hmade hr => exact .failed hw ⟨hmade, (path_runStep rfl hmade).order rfl⟩ hr
  | unstored hw hmade hr =>
    rw [effects_append]
    exact .unstored hw ⟨hmade, (path_runStep rfl hmade).order rfl⟩ hr
  | stored hw hmade hr hregister =>
    have hpath := path_runStep rfl hmade
    rw [effects_append]
    exact .stored hw ⟨hmade, hpath.order rfl⟩ hr (hregister.order hpath.idle hpath.subscriptions)

theorem DrivePath.order (h : DrivePath plan policy codec t report) :
    RunOrder plan policy codec (effects t) report.result := by
  cases h with
  | noKey => exact .noKey
  | noLink hconnect => exact .noLink (path_connectWithRetry hconnect)
  | @linked artifact t u obtained reply lines hconnect hobtain =>
    have hlist : effects (⟨.generateKey plan.keyLabel plan.connect.clientId, .ok artifact⟩ ::
          t ++ u ++ ⟨.disconnect, reply⟩ :: logged lines) =
        ⟨.generateKey plan.keyLabel plan.connect.clientId, .ok artifact⟩ :: effects t ++
          effects u ++ [⟨.disconnect, reply⟩] := by
      simp [(quiet_logged lines).effects, Call.isQuiet]
    rw [hlist]
    exact .linked (path_connectWithRetry hconnect) hobtain.order

theorem RunPath.order (h : RunPath plan policy codec t report) :
    RunOrder plan policy codec (effects t) report.result := by
  cases h with
  | @made started t u driven hdrive hq =>
    have hlist : effects (⟨.clock, started⟩ :: t ++ u) = effects t := by
      simp [hq.effects, Call.isQuiet]
    rw [hlist]
    exact hdrive.order

/-! ## What holds at each call

To show that something holds at each call of a run, it is shown for the calls of the two steps, for
the calls to the store, and for opening and closing the link. -/

section AtEach

variable {P : List Event → Event → Prop} {artifact : KeyArtifact} {credential : Credential}
  {s : Session} {o : Except ProvisionError Registration}

theorem RegisterOrder.atEach (h : RegisterOrder plan policy codec credential s t o)
    (hstep : ∀ {body : Bytes} {t : List Event} {report : StepReport Registration},
      codec.writeRegistration credential.ownershipToken plan.parameters = .ok body →
      Stepped policy codec plan.settings (plan.registration body) codec.readRegistration s t
        report →
      AtEach P (effects t))
    (hstore : ∀ {body : Bytes} {t : List Event} {report : StepReport Registration}
      {registration : Registration} (now : Timestamp) (reply : Except StoreError Unit),
      Stepped policy codec plan.settings (plan.registration body) codec.readRegistration s t
        report →
      report.result = .ok registration →
      P (effects t) ⟨.storeIdentity (plan.record credential registration now), reply⟩) :
    AtEach P t := by
  cases h with
  | unwritten _ => exact .of_forall (by simp)
  | failed hw hs _ => exact hstep hw hs
  | recorded hw hs hr =>
    refine .append (hstep hw hs) (.cons ?_ (.of_forall (by simp)))
    rw [List.append_nil]
    exact hstore _ _ hs hr

theorem ObtainOrder.atEach (h : ObtainOrder plan policy codec artifact t o)
    (hstep : ∀ {body : Bytes} {t : List Event} {report : StepReport Credential},
      codec.writeSigningRequest artifact.signingRequest = .ok body →
      Stepped policy codec plan.settings (plan.signing body) codec.readCredential
        (.new plan.payloadCapacity) t report →
      AtEach P (effects t))
    (hstore : ∀ {body : Bytes} {t : List Event} {report : StepReport Credential}
      {credential : Credential} (reply : Except StoreError Unit),
      Stepped policy codec plan.settings (plan.signing body) codec.readCredential
        (.new plan.payloadCapacity) t report →
      report.result = .ok credential →
      P (effects t) ⟨.storeCertificate artifact.handle plan.certificateLabel
        credential.certificatePem, reply⟩)
    (hregister : ∀ {body : Bytes} {t u : List Event} {report : StepReport Credential}
      {credential : Credential} {o : Except ProvisionError Registration},
      Stepped policy codec plan.settings (plan.signing body) codec.readCredential
        (.new plan.payloadCapacity) t report →
      report.result = .ok credential →
      RegisterOrder plan policy codec credential report.session u o →
      AtEach (fun earlier => P (effects t ++ ⟨.storeCertificate artifact.handle
        plan.certificateLabel credential.certificatePem, .ok ()⟩ :: earlier)) u) :
    AtEach P t := by
  cases h with
  | unwritten _ => exact .of_forall (by simp)
  | failed hw hs _ => exact hstep hw hs
  | unstored hw hs hr =>
    refine .append (hstep hw hs) (.cons ?_ (.of_forall (by simp)))
    rw [List.append_nil]
    exact hstore _ hs hr
  | stored hw hs hr hr' =>
    refine .append (hstep hw hs) (.cons ?_ (hregister hs hr hr'))
    rw [List.append_nil]
    exact hstore _ hs hr

theorem RunOrder.atEach (h : RunOrder plan policy codec t o)
    (hlink : ∀ earlier e, (e.call = .generateKey plan.keyLabel plan.connect.clientId ∨
      e.call = .connect plan.connect ∨ e.call = .disconnect) → P earlier e)
    (hobtain : ∀ {artifact : KeyArtifact} {u v : List Event}
      {o : Except ProvisionError Registration},
      Opened plan.connect u (.ok ()) → ObtainOrder plan policy codec artifact v o →
      AtEach (fun earlier => P (⟨.generateKey plan.keyLabel plan.connect.clientId, .ok artifact⟩ ::
        u ++ earlier)) v) :
    AtEach P t := by
  cases h with
  | noKey => exact .cons (hlink _ _ (.inl rfl)) (.of_forall (by simp))
  | noLink hopened =>
    exact .cons (hlink _ _ (.inl rfl))
      (.of_forall fun e he _ => hlink _ _ (.inr (.inl (hopened.calls e he))))
  | linked hopened ho =>
    refine .append (.append (.cons (hlink _ _ (.inl rfl)) ?_) (hobtain hopened ho))
      (.cons (hlink _ _ (.inr (.inr rfl))) (.of_forall (by simp)))
    exact .of_forall fun e he _ => hlink _ _ (.inr (.inl (hopened.calls e he)))

end AtEach

/-! ## A run that succeeds -/

/-- A plan with waits of two polls. -/
def devicePlan : ProvisionPlan where
  connect := ⟨"SN-0001", .ofSecs 60, .ofSecs 5, .ofSecs 10, 4096⟩
  template := "FleetTemplate"
  format := .cbor
  parameters := .empty
  keyLabel := "device"
  certificateLabel := "device"
  payloadCapacity := 2048
  settings := ⟨⟨.ofMillis 700, 2⟩, .tolerate⟩

def deviceRun : Interaction ProvisionReport :=
  run devicePlan .standard (.standard .standard .cbor)

def credentialAnswer : Packet :=
  .publish "$aws/certificates/create-from-csr/cbor/accepted"
    (Cbor.writeTextMap [(Payload.certificatePemField, "PEM"), (Payload.certificateIdField, "id"),
      (Payload.ownershipTokenField, "token")])

def registrationAnswer : Packet :=
  .publish "$aws/provisioning-templates/FleetTemplate/provision/cbor/accepted"
    (Cbor.writeTextMap [(Payload.thingNameField, "thing")])

/-- What the link delivers when everything goes well. -/
def deviceAnswers : List (Except LinkFault (Option Packet)) :=
  [.subAck true, credentialAnswer, .unsubAck, .unsubAck,
    .subAck true, registrationAnswer, .unsubAck, .unsubAck].map fun p => .ok (some p)

example : (deviceRun.run polling deviceAnswers).1.result = .ok ⟨"thing", .empty⟩ := by rfl

end Provision

end Enrolment
