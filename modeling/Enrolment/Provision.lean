import Enrolment.Exchange

/-!
# Enrolment.Provision

A whole run: make a key and a signing request, open a link with the claim, exchange the signing
request for a certificate and keep it, register the thing with the token that came with it, record
the identity, and close the link. A run stops at the first failure, but a link that was opened is
closed in any case. The report lists the states that the run went through, the last of which says
whether it succeeded. A `Provisioner` makes any number of runs, and keeps the states of the last.
-/

namespace Enrolment

structure ProvisionPlan where
  connect : ConnectRequest
  template : String
  format : PayloadFormat
  parameters : TextMap
  keyLabel : String
  certificateLabel : String
  payloadCapacity : Nat
  settings : StepSettings
  deriving DecidableEq

inductive ProvisionError
  | store (cause : StoreError)
  | connect (cause : ConnectError)
  | encode (step : Step) (cause : CodecError)
  | step (cause : StepError)
  deriving DecidableEq, Repr

def ProvisionError.message : ProvisionError → String
  | store cause => cause.message
  | connect cause => ConnectError.message cause
  | encode exchange cause => s!"{exchange.name} request could not be encoded: {cause.message}"
  | .step cause => cause.message

inductive ProvisionState
  | init
  | connected
  | step (step : Step) (progress : Progress)
  | disconnected
  | done
  | failed
  deriving DecidableEq, Repr

def ProvisionState.name : ProvisionState → String
  | init => "Init"
  | connected => "Connected"
  | step .createCertificate progress => "Csr" ++ progress.name
  | step .registerThing progress => "Register" ++ progress.name
  | disconnected => "Disconnected"
  | done => "Done"
  | failed => "Failed"

/-- How a part of a run ended, and the states that it went through. -/
structure ProvisionReport where
  states : List ProvisionState
  result : Except ProvisionError Registration

namespace Provision

/-- A part of a run that went no further. -/
def stopped (error : ProvisionError) : ProvisionReport := ⟨[], .error error⟩

/-- A report with earlier states before its own. -/
def after (states : List ProvisionState) (report : ProvisionReport) : ProvisionReport :=
  { report with states := states ++ report.states }

/-- Registers the thing with the certificate issued to it, and records its identity. -/
def register (plan : ProvisionPlan) (policy : RetryPolicy) (codec : Codec)
    (credential : Credential) (s : Session) : Interaction ProvisionReport := do
  match codec.writeRegistration credential.ownershipToken plan.parameters with
  | .error cause => return stopped (.encode .registerThing cause)
  | .ok body =>
    let request : StepRequest := ⟨.registerThing, .registerThing plan.template plan.format, body⟩
    let report ← runStep policy codec plan.settings request codec.readRegistration s
    let states := report.progress.map (.step .registerThing)
    match report.result with
    | .error e => return ⟨states, .error (.step e)⟩
    | .ok registration =>
      let record : Identity := {
        thingName := registration.thingName
        certificateId := credential.certificateId
        template := plan.template
        keyLabel := plan.keyLabel
        certificateLabel := plan.certificateLabel
        provisionedAt := ← Interaction.perform .calendar
        configuration := registration.configuration }
      match ← Interaction.perform (.storeIdentity record) with
      | .error e => return ⟨states, .error (.store e)⟩
      | .ok () => return ⟨states, .ok registration⟩

/-- Obtains a certificate for the key, keeps it, and goes on to register the thing. -/
def obtain (plan : ProvisionPlan) (policy : RetryPolicy) (codec : Codec)
    (artifact : KeyArtifact) : Interaction ProvisionReport := do
  match codec.writeSigningRequest artifact.signingRequest with
  | .error cause => return stopped (.encode .createCertificate cause)
  | .ok body =>
    let request : StepRequest := ⟨.createCertificate, .createCertificate plan.format, body⟩
    let report ← runStep policy codec plan.settings request codec.readCredential
      (.new plan.payloadCapacity)
    let states := report.progress.map (.step .createCertificate)
    match report.result with
    | .error e => return ⟨states, .error (.step e)⟩
    | .ok credential =>
      Interaction.log .info s!"certificate {credential.certificateId} issued"
      match ← Interaction.perform
          (.storeCertificate artifact.handle plan.certificateLabel credential.certificatePem) with
      | .error e => return ⟨states, .error (.store e)⟩
      | .ok () => return after states (← register plan policy codec credential report.session)

/-- Everything between the first state and the last. -/
def drive (plan : ProvisionPlan) (policy : RetryPolicy) (codec : Codec) :
    Interaction ProvisionReport := do
  match ← Interaction.perform (.generateKey plan.keyLabel plan.connect.clientId) with
  | .error e => return stopped (.store e)
  | .ok artifact =>
    match ← connectWithRetry policy plan.connect with
    | .error e => return stopped (.connect e)
    | .ok () =>
      let report ← obtain plan policy codec artifact
      if let .error e ← disconnect then Interaction.log .warn e.message
      let report := after [.connected] report
      return { report with
        states := report.states ++ if report.result.isOk then [.disconnected] else [] }

def run (plan : ProvisionPlan) (policy : RetryPolicy) (codec : Codec) :
    Interaction ProvisionReport := do
  let started ← Interaction.perform .clock
  let report := after [.init] (← drive plan policy codec)
  match report.result with
  | .ok registration =>
    let elapsed := (← Interaction.perform .clock) - started
    Interaction.log .info s!"provisioned {registration.thingName} in {elapsed / 1000000}ms"
    return { report with states := report.states ++ [.done] }
  | .error e =>
    Interaction.log .error s!"provisioning failed: {e.message}"
    return { report with states := report.states ++ [.failed] }

end Provision

/-- What makes runs, and the states that its last run went through. -/
structure Provisioner where
  plan : ProvisionPlan
  policy : RetryPolicy
  codec : Codec
  history : List ProvisionState

namespace Provisioner

def new (plan : ProvisionPlan) (policy : RetryPolicy) (codec : Codec) : Provisioner :=
  ⟨plan, policy, codec, []⟩

def state (p : Provisioner) : ProvisionState := p.history.getLast?.getD .init

/-- Makes a run. The states that it goes through take the place of those of the run before. -/
def run (p : Provisioner) : Interaction (Provisioner × Except ProvisionError Registration) := do
  let report ← Provision.run p.plan p.policy p.codec
  return ({ p with history := report.states }, report.result)

end Provisioner

end Enrolment
