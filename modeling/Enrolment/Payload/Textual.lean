import Enrolment.Json.Reader
import Enrolment.Json.Writer
import Enrolment.Payload.Basic

/-!
# Enrolment.Payload.Textual

The textual payloads. A response is one object; members of other names are passed over, a known one
stands once at most, and one that is absent counts as `null`. The values of a configuration are
read in full, also those that are no text and are then left out, and of several members of one
name the last counts.
-/

namespace Enrolment.Payload.Textual

/-! ## Requests -/

def signingRequest (csr : String) : Bytes :=
  utf8 (Json.compactObject [(signingRequestField, Json.string csr)])

def textObject (m : TextMap) : String :=
  Json.compactObject (m.entries.map fun e => (e.1, Json.string e.2))

/-- The registration request. Without parameters it does not mention them. -/
def registration (token : String) (parameters : TextMap) : Bytes :=
  utf8 (Json.compactObject ((ownershipTokenField, Json.string token) ::
    if parameters.isEmpty then [] else [(parametersField, textObject parameters)]))

/-! ## Responses -/

/-- The containers that may be nested in a value of a configuration: 127 in all, less the response
and the configuration. -/
def configurationDepth : Nat := 125

/-- The last entry of each key. -/
def lastEntries : List (String × Document) → List (String × Document)
  | [] => []
  | e :: rest => if rest.any (·.1 == e.1) then lastEntries rest else e :: lastEntries rest

def configuration? (d : Document) : Option TextMap := do
  let entries ← d.entries?
  if entries.all fun e => e.2.keepable configurationDepth then
    some (.ofList ((lastEntries entries).filterMap fun e => e.2.text?.map (e.1, ·)))
  else none

def credentialTexts? (payload : Bytes) : Option CredentialTexts := do
  let d ← Json.read? payload
  match ← d.slots Json.form [certificatePemField, certificateIdField, ownershipTokenField] with
  | [pem, id, token] =>
    return ⟨← pem.optional Document.text?, ← id.optional Document.text?,
      ← token.optional Document.text?⟩
  | _ => none

def readCredential (limits : FieldLimits) (payload : Bytes) : Except CodecError Credential :=
  match credentialTexts? payload with
  | some texts => texts.check limits
  | none => .error .json

/-- The name and the configuration of a registration. -/
def registrationParts? (payload : Bytes) : Option (Option String × TextMap) := do
  let d ← Json.read? payload
  match ← d.slots Json.form [thingNameField, configurationField] with
  | [name, configuration] =>
    return (← name.optional Document.text?, ← configuration.orElse .empty configuration?)
  | _ => none

def readRegistration (limits : FieldLimits) (payload : Bytes) :
    Except CodecError Registration :=
  match registrationParts? payload with
  | some (name, configuration) => checkRegistration limits name configuration
  | none => .error .json

def maxStatus : Nat := 0xffff

def readRejection (payload : Bytes) : Option Rejection := do
  let d ← Json.read? payload
  match ← d.slots Json.form [statusField, errorCodeField, errorMessageField] with
  | [status, code, message] =>
    return ⟨← status.orElse none (Document.orNull (Document.natUpTo? maxStatus)),
      ← code.orElse none (Document.orNull Document.text?),
      ← message.orElse none (Document.orNull Document.text?)⟩
  | _ => none

end Enrolment.Payload.Textual
