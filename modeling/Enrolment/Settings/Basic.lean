import Enrolment.ClaimMaterial
import Enrolment.CredentialStore.Files
import Enrolment.Payload.Standard
import Enrolment.Provision

/-!
# Enrolment.Settings.Basic

What a device is set up with: the broker, the claim, the template to register under, where its
credentials go, and the bounds on attempts, times and sizes. The settings say what a run is made
with (`Settings.plan`) and how its payloads are written and read (`Settings.codec`). Variables of
the environment override the settings that differ from device to device.
-/

namespace Enrolment

/-- The broker, and how the device is known to it. -/
structure BrokerSettings where
  endpoint : String
  port : UInt16
  /-- Also the common name of the signing request. -/
  clientId : String
  keepAliveSecs : UInt64
  /-- The application protocols offered. -/
  protocols : List String
  deriving DecidableEq, Repr

structure RegistrationSettings where
  template : String
  format : PayloadFormat
  parameters : TextMap
  deriving DecidableEq

/-- Where credentials are kept, and under which labels. -/
structure CredentialSettings where
  directory : String
  keyLabel : String
  certificateLabel : String
  deriving DecidableEq, Repr

def CredentialSettings.standard : CredentialSettings := ⟨"credentials", "device", "device"⟩

/-- How long to wait, and what an unexpected publish does meanwhile. -/
structure TimingSettings where
  pollTimeoutMs : UInt64
  maxPolls : UInt32
  transportTimeoutSecs : UInt64
  connackTimeoutMs : UInt64
  strayPolicy : StrayPolicy
  deriving DecidableEq, Repr

def TimingSettings.standard : TimingSettings := ⟨700, 30, 5, 1000, .tolerate⟩

/-- The most bytes of a packet, of its payload, and of the texts in a response. -/
structure SizeSettings where
  networkBuffer : Nat
  fields : FieldLimits
  deriving DecidableEq, Repr

def SizeSettings.standard : SizeSettings := ⟨2048, .standard⟩

inductive LogFormat
  | json
  | pretty
  deriving DecidableEq, Repr

def LogFormat.name : LogFormat → String
  | json => "Json"
  | pretty => "Pretty"

/-- What is logged, and how. -/
structure LogSettings where
  level : Option String
  format : LogFormat
  deriving DecidableEq, Repr

def LogSettings.standard : LogSettings := ⟨none, .json⟩

structure Settings where
  broker : BrokerSettings
  claim : ClaimPaths
  registration : RegistrationSettings
  credentials : CredentialSettings
  retry : RetryPolicy
  timing : TimingSettings
  sizes : SizeSettings
  log : LogSettings
  deriving DecidableEq

namespace Settings

/-- What a session with the broker is opened with. -/
def connectRequest (s : Settings) : ConnectRequest where
  clientId := s.broker.clientId
  keepAlive := .ofSecs s.broker.keepAliveSecs.toNat
  transportTimeout := .ofSecs s.timing.transportTimeoutSecs.toNat
  connackTimeout := .ofMillis s.timing.connackTimeoutMs.toNat
  maxPacketBytes := s.sizes.networkBuffer

def plan (s : Settings) : ProvisionPlan where
  connect := s.connectRequest
  template := s.registration.template
  format := s.registration.format
  parameters := s.registration.parameters
  keyLabel := s.credentials.keyLabel
  certificateLabel := s.credentials.certificateLabel
  payloadCapacity := s.sizes.networkBuffer
  settings := ⟨⟨.ofMillis s.timing.pollTimeoutMs.toNat, s.timing.maxPolls.toNat⟩,
    s.timing.strayPolicy⟩

def codec (s : Settings) : Codec := Codec.standard s.sizes.fields s.registration.format

def store (s : Settings) : FileStore := ⟨s.credentials.directory⟩

end Settings

/-! ## The environment -/

/-- The variables of the environment that count, where they are set. -/
structure Environment where
  settingsPath : Option String
  endpoint : Option String
  template : Option String
  clientId : Option String
  deriving DecidableEq, Repr

namespace Environment

def names : List String :=
  ["FLEETPROV_CONFIG", "FLEETPROV_ENDPOINT", "FLEETPROV_TEMPLATE", "FLEETPROV_CLIENT_ID"]

def ofLookup (lookup : String → Option String) : Environment where
  settingsPath := lookup "FLEETPROV_CONFIG"
  endpoint := lookup "FLEETPROV_ENDPOINT"
  template := lookup "FLEETPROV_TEMPLATE"
  clientId := lookup "FLEETPROV_CLIENT_ID"

end Environment

/-- The settings with what the environment says in place of their own. -/
def Settings.override (env : Environment) (s : Settings) : Settings :=
  { s with
    broker := { s.broker with
      endpoint := env.endpoint.getD s.broker.endpoint
      clientId := env.clientId.getD s.broker.clientId }
    registration := { s.registration with
      template := env.template.getD s.registration.template } }

end Enrolment
