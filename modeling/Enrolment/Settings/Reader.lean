import Enrolment.Settings.Basic
import Enrolment.Toml.Reader

/-!
# Enrolment.Settings.Reader

Reading settings from a file. A file whose name ends in `.json` is read as JSON, any other as TOML.
The settings are a record of sections, and each section is a record. The sections for the
broker, the claim and the registration must be given, and in them whatever has no default; every
other section and field has one. What the settings do not know is passed over.
-/

namespace Enrolment

open Document (RecordForm Slot)

/-! ## Values -/

namespace Document

def word16? (d : Document) : Option UInt16 := (d.natUpTo? 0xffff).map UInt16.ofNat

def word32? (d : Document) : Option UInt32 := (d.natUpTo? 0xffffffff).map UInt32.ofNat

def word64? (d : Document) : Option UInt64 := (d.natUpTo? maxWord).map UInt64.ofNat

def size? (d : Document) : Option Nat := d.natUpTo? maxWord

end Document

def StrayPolicy.ofName? (s : String) : Option StrayPolicy :=
  if s = "tolerate" then some .tolerate else if s = "reject" then some .reject else none

def LogFormat.ofName? (s : String) : Option LogFormat :=
  if s = "json" then some .json else if s = "pretty" then some .pretty else none

/-! ## Sections -/

def BrokerSettings.ofDocument? (form : RecordForm) (d : Document) : Option BrokerSettings := do
  match ← d.slots form ["endpoint", "port", "client_id", "keep_alive_secs", "alpn"] with
  | [endpoint, port, clientId, keepAliveSecs, protocols] =>
    return {
      endpoint := ← endpoint.required Document.text?
      port := ← port.orElse 8883 Document.word16?
      clientId := ← clientId.required Document.text?
      keepAliveSecs := ← keepAliveSecs.orElse 60 Document.word64?
      protocols := ← protocols.orElse [] Document.texts? }
  | _ => none

def ClaimPaths.ofDocument? (form : RecordForm) (d : Document) : Option ClaimPaths := do
  match ← d.slots form ["certificate_path", "private_key_path", "root_ca_path"] with
  | [certificate, privateKey, rootCa] =>
    return {
      certificate := ← certificate.required Document.text?
      privateKey := ← privateKey.required Document.text?
      rootCa := ← rootCa.required Document.text? }
  | _ => none

def RegistrationSettings.ofDocument? (form : RecordForm) (d : Document) :
    Option RegistrationSettings := do
  match ← d.slots form ["template_name", "format", "parameters"] with
  | [template, format, parameters] =>
    return {
      template := ← template.required Document.text?
      format := ← format.orElse .cbor (Document.choice? form PayloadFormat.ofLevel?)
      parameters := ← parameters.orElse .empty Identity.textMap? }
  | _ => none

def CredentialSettings.ofDocument? (form : RecordForm) (d : Document) :
    Option CredentialSettings := do
  let dflt := CredentialSettings.standard
  match ← d.slots form ["dir", "key_label", "certificate_label"] with
  | [directory, keyLabel, certificateLabel] =>
    return {
      directory := ← directory.orElse dflt.directory Document.text?
      keyLabel := ← keyLabel.orElse dflt.keyLabel Document.text?
      certificateLabel := ← certificateLabel.orElse dflt.certificateLabel Document.text? }
  | _ => none

def RetryPolicy.ofDocument? (form : RecordForm) (d : Document) : Option RetryPolicy := do
  let dflt := RetryPolicy.standard
  match ← d.slots form ["max_attempts", "base_delay_ms", "max_delay_ms"] with
  | [maxAttempts, baseDelayMs, maxDelayMs] =>
    return {
      maxAttempts := ← maxAttempts.orElse dflt.maxAttempts Document.word32?
      baseDelayMs := ← baseDelayMs.orElse dflt.baseDelayMs Document.word64?
      maxDelayMs := ← maxDelayMs.orElse dflt.maxDelayMs Document.word64? }
  | _ => none

def TimingSettings.ofDocument? (form : RecordForm) (d : Document) : Option TimingSettings := do
  let dflt := TimingSettings.standard
  match ← d.slots form ["poll_timeout_ms", "max_polls", "transport_timeout_secs",
    "connack_timeout_ms", "stray_publish"] with
  | [pollTimeoutMs, maxPolls, transportTimeoutSecs, connackTimeoutMs, strayPolicy] =>
    return {
      pollTimeoutMs := ← pollTimeoutMs.orElse dflt.pollTimeoutMs Document.word64?
      maxPolls := ← maxPolls.orElse dflt.maxPolls Document.word32?
      transportTimeoutSecs :=
        ← transportTimeoutSecs.orElse dflt.transportTimeoutSecs Document.word64?
      connackTimeoutMs := ← connackTimeoutMs.orElse dflt.connackTimeoutMs Document.word64?
      strayPolicy :=
        ← strayPolicy.orElse dflt.strayPolicy (Document.choice? form StrayPolicy.ofName?) }
  | _ => none

def SizeSettings.ofDocument? (form : RecordForm) (d : Document) : Option SizeSettings := do
  let dflt := SizeSettings.standard
  match ← d.slots form ["network_buffer_bytes", "certificate_pem_bytes", "certificate_id_bytes",
    "ownership_token_bytes", "thing_name_bytes"] with
  | [networkBuffer, certificatePem, certificateId, ownershipToken, thingName] =>
    return {
      networkBuffer := ← networkBuffer.orElse dflt.networkBuffer Document.size?
      fields := {
        certificatePem := ← certificatePem.orElse dflt.fields.certificatePem Document.size?
        certificateId := ← certificateId.orElse dflt.fields.certificateId Document.size?
        ownershipToken := ← ownershipToken.orElse dflt.fields.ownershipToken Document.size?
        thingName := ← thingName.orElse dflt.fields.thingName Document.size? } }
  | _ => none

def LogSettings.ofDocument? (form : RecordForm) (d : Document) : Option LogSettings := do
  let dflt := LogSettings.standard
  match ← d.slots form ["log_level", "log_format"] with
  | [level, format] =>
    return {
      level := ← level.orElse dflt.level (Document.orNull Document.text?)
      format := ← format.orElse dflt.format (Document.choice? form LogFormat.ofName?) }
  | _ => none

/-! ## The settings -/

namespace Settings

def ofDocument? (form : RecordForm) (d : Document) : Option Settings := do
  match ← d.slots form ["broker", "claim", "provisioning", "credentials", "retry", "timing",
    "limits", "telemetry"] with
  | [broker, claim, registration, credentials, retry, timing, sizes, log] =>
    return {
      broker := ← broker.required (BrokerSettings.ofDocument? form)
      claim := ← claim.required (ClaimPaths.ofDocument? form)
      registration := ← registration.required (RegistrationSettings.ofDocument? form)
      credentials := ← credentials.orElse .standard (CredentialSettings.ofDocument? form)
      retry := ← retry.orElse .standard (RetryPolicy.ofDocument? form)
      timing := ← timing.orElse .standard (TimingSettings.ofDocument? form)
      sizes := ← sizes.orElse .standard (SizeSettings.ofDocument? form)
      log := ← log.orElse .standard (LogSettings.ofDocument? form) }
  | _ => none

end Settings

inductive SettingsError
  | notRead (path : String)
  | notJson (path : String)
  | notToml (path : String)
  deriving DecidableEq, Repr

def SettingsError.message : SettingsError → String
  | notRead path => "unable to read config " ++ path
  | notJson path => "invalid JSON config " ++ path
  | notToml path => "invalid TOML config " ++ path

namespace Settings

def load (d : Disk) (path : String) : Except SettingsError Settings :=
  match (d.read path).toOption.bind Bytes.text? with
  | none => .error (.notRead path)
  | some text =>
    if Path.extension? path = some "json" then
      match (Json.read? (utf8 text)).bind (ofDocument? Json.form) with
      | none => .error (.notJson path)
      | some s => .ok s
    else match (Toml.read? text).bind (ofDocument? Toml.form) with
      | none => .error (.notToml path)
      | some s => .ok s

/-- The settings in a file, as far as the environment does not override them. -/
def loadWith (env : Environment) (d : Disk) (path : String) : Except SettingsError Settings :=
  (load d path).map (override env)

/-- The file of the settings, unless another is named. -/
def standardPath : String := "config/fleetprov.toml"

def loadNamed (env : Environment) (d : Disk) : Except SettingsError Settings :=
  loadWith env d (env.settingsPath.getD standardPath)

end Settings

end Enrolment
