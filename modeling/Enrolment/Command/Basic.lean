import Enrolment.Mqtt
import Enrolment.Settings.Check
import Enrolment.Settings.Reader

/-!
# Enrolment.Command.Basic

The commands: make a run (`provision`), see whether one could be made (`validate`), and show the
record of the last one (`show`). Each is given the file of its settings. A command ends with what it
prints, or with an error, which is printed in one line.
-/

namespace Enrolment

inductive Command
  /-- Makes a run. A dry run ends before anything is sent or written. -/
  | provision (settingsPath : String) (logLevel : Option String) (dryRun : Bool)
  | validate (settingsPath : String)
  | identity (settingsPath : String)
  deriving DecidableEq, Repr

inductive CommandError
  | settings (cause : SettingsError)
  | fault (cause : SettingsFault)
  | claim (cause : ClaimError)
  /-- The claim cannot be used, whatever the reason is. -/
  | unusableClaim
  | noIdentity (directory : String)
  | provisioning (cause : ProvisionError)
  /-- The time limits of a connection add up to more than the longest span. -/
  | timeLimits
  deriving DecidableEq, Repr

namespace CommandError

def message : CommandError → String
  | settings cause => cause.message
  | fault cause => cause.message
  | claim cause => cause.message
  | unusableClaim => "claim TLS material"
  | noIdentity directory => "no identity recorded in " ++ directory
  | provisioning _ => "provisioning failed"
  | timeLimits => "time limits of the connection out of range"

def exitStatus : CommandError → Nat
  | timeLimits => 101
  | _ => 1

end CommandError

def textsObject (depth : Nat) (entries : List (String × String)) : String :=
  Json.object depth (entries.map fun e => (e.1, Json.string e.2))

namespace Settings

/-- What a dry run prints. -/
def planSummary (s : Settings) : String :=
  let csr := Topics.createCertificate s.plan.format
  let register := Topics.registerThing s.plan.template s.plan.format
  Json.object 0 [
    ("client_id", Json.string s.plan.connect.clientId),
    ("credentials_dir", Json.string s.credentials.directory),
    ("csr_topic", Json.string csr.publish),
    ("endpoint", Json.string s!"{s.broker.endpoint}:{s.broker.port.toNat}"),
    ("parameters", textsObject 1 s.plan.parameters.entries),
    ("register_topic", Json.string register.publish)] ++ "\n"

/-- What a run prints. -/
def registrationSummary (s : Settings) (r : Registration) : String :=
  Json.object 0 [
    ("credentials_dir", Json.string s.credentials.directory),
    ("device_configuration", textsObject 1 r.configuration.entries),
    ("thing_name", Json.string r.thingName)] ++ "\n"

end Settings

namespace Command

def settingsPath : Command → String
  | provision path .. | validate path | identity path => path

def loadSettings (env : Environment) (d : Disk) (path : String) : Except CommandError Settings :=
  (Settings.loadWith env d path).mapError .settings

/-- The settings of a command that checks them. -/
def checkedSettings (env : Environment) (d : Disk) (path : String) :
    Except CommandError Settings := do
  let s ← loadSettings env d path
  (s.check d).mapError .fault
  return s

def validateSettings (env : Environment) (d : Disk) (path : String) :
    Except CommandError String := do
  let s ← checkedSettings env d path
  match ClaimMaterial.load d s.claim s.broker.protocols with
  | .ok _ => return path ++ ": ok\n"
  | .error _ => throw .unusableClaim

def showIdentity (env : Environment) (d : Disk) (path : String) : Except CommandError String := do
  let s ← loadSettings env d path
  match s.store.loadIdentity d with
  | .ok record => return record.toText ++ "\n"
  | .error _ => throw (.noIdentity s.credentials.directory)

def provisionFault (s : Settings) (cause : ProvisionError) : CommandError :=
  match cause with
  | .connect _ =>
    if (Mqtt.connectLimits? s.plan.connect).isSome then .provisioning cause else .timeLimits
  | _ => .provisioning cause

/-- Makes a run under settings that have been checked, if the claim can be used. -/
def provisionWith (s : Settings) (d : Disk) : Interaction (Except CommandError String) := do
  match ClaimMaterial.load d s.claim s.broker.protocols with
  | .error cause => return .error (.claim cause)
  | .ok _ =>
    Interaction.log .info s!"provisioning {s.plan.connect.clientId} via template {s.plan.template}"
    match (← (Provisioner.new s.plan s.retry s.codec).run).2 with
    | .ok registration => return .ok (s.registrationSummary registration)
    | .error cause => return .error (provisionFault s cause)

/-- Performs a command. The disk is what it finds when it starts. -/
def run (env : Environment) (d : Disk) : Command → Interaction (Except CommandError String)
  | provision path _ dryRun => do
    match checkedSettings env d path with
    | .error e => return .error e
    | .ok s => if dryRun then return .ok s.planSummary else provisionWith s d
  | validate path => return validateSettings env d path
  | identity path => return showIdentity env d path

end Command

end Enrolment
