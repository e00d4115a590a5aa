import Enrolment.Settings.Basic

/-!
# Enrolment.Settings.Check

What must hold of settings before anything is sent: the broker and the client are named, the
template has a name that can be sent, the files of the claim are there, and no bound is zero that
would stop every run. The first rule that is broken is reported.

* `check_eq_ok_iff`: settings are accepted if they break no rule.
-/

namespace Enrolment

inductive SettingsFault
  | noEndpoint
  | noClientId
  | blankInClientId
  | clientIdTooLong (limit : Nat)
  | noKeepAlive
  | noTransportTimeout
  | template (cause : TemplateNameError)
  /-- A file of the claim, given by the name of its setting, is not there. -/
  | missingFile (setting path : String)
  | noAttempts
  | delaysReversed
  | noPolls
  | bufferTooSmall
  deriving DecidableEq, Repr

def SettingsFault.message : SettingsFault → String
  | noEndpoint => "broker.endpoint is empty"
  | noClientId => "broker.client_id is empty"
  | blankInClientId => "broker.client_id contains whitespace"
  | clientIdTooLong limit => s!"broker.client_id exceeds {limit} bytes"
  | noKeepAlive => "broker.keep_alive_secs must be positive"
  | noTransportTimeout => "timing.transport_timeout_secs must be positive"
  | template cause => "provisioning.template_name: " ++ cause.message
  | missingFile setting path => setting ++ " " ++ path ++ " missing"
  | noAttempts => "retry.max_attempts must be at least 1"
  | delaysReversed => "retry.base_delay_ms exceeds retry.max_delay_ms"
  | noPolls => "timing.max_polls and timing.poll_timeout_ms must be positive"
  | bufferTooSmall => "limits.network_buffer_bytes is smaller than limits.certificate_pem_bytes"

namespace Settings

/-- A rule: the fault, if the rule is broken. -/
def faultUnless (kept : Bool) (fault : SettingsFault) : Option SettingsFault :=
  if kept then none else some fault

def templateFault (s : Settings) : Option SettingsFault :=
  match checkTemplateName s.registration.template with
  | .ok () => none
  | .error cause => some (.template cause)

def fileFault (d : Disk) (setting path : String) : Option SettingsFault :=
  faultUnless (d.pathExists path) (.missingFile setting path)

/-- The rules, in the order in which they are checked. -/
def rules (s : Settings) (d : Disk) : List (Option SettingsFault) := [
  faultUnless (!Text.isAllBlank s.broker.endpoint) .noEndpoint,
  faultUnless (s.broker.clientId != "") .noClientId,
  faultUnless (!Text.hasBlank s.broker.clientId) .blankInClientId,
  faultUnless (s.broker.clientId.utf8ByteSize ≤ s.sizes.fields.thingName)
    (.clientIdTooLong s.sizes.fields.thingName),
  faultUnless (0 < s.broker.keepAliveSecs) .noKeepAlive,
  faultUnless (0 < s.timing.transportTimeoutSecs) .noTransportTimeout,
  s.templateFault,
  fileFault d "claim.certificate_path" s.claim.certificate,
  fileFault d "claim.private_key_path" s.claim.privateKey,
  fileFault d "claim.root_ca_path" s.claim.rootCa,
  faultUnless (0 < s.retry.maxAttempts) .noAttempts,
  faultUnless (s.retry.baseDelayMs ≤ s.retry.maxDelayMs) .delaysReversed,
  faultUnless (0 < s.timing.maxPolls && 0 < s.timing.pollTimeoutMs) .noPolls,
  faultUnless (s.sizes.fields.certificatePem ≤ s.sizes.networkBuffer) .bufferTooSmall]

/-- Reports the first rule that is broken. -/
def check (s : Settings) (d : Disk) : Except SettingsFault Unit :=
  match (s.rules d).findSome? id with
  | some fault => .error fault
  | none => .ok ()

theorem check_eq_ok_iff {s : Settings} {d : Disk} :
    s.check d = .ok () ↔ ∀ rule ∈ s.rules d, rule = none := by
  simp only [check]
  split
  · next fault h =>
    obtain ⟨rule, hr, h⟩ := List.exists_of_findSome?_eq_some h
    simp only [reduceCtorEq, false_iff]
    intro all
    simp [all rule hr] at h
  · next h => simpa using List.findSome?_eq_none_iff.1 h

end Settings

end Enrolment
