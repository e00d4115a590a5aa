import Enrolment.Cbor.Reader
import Enrolment.TextMap
import Enrolment.Topic

/-!
# Enrolment.Payload.Basic

What the requests and responses of the two steps carry, and the names that both payload formats give
it. The texts of a response are bounded: a field must be there, must not be empty, and must not
be longer than its limit. A `Codec` is one way to write requests and to read responses.

* `checkText_eq_ok_iff`: the texts that pass the check are those within the limit.
-/

namespace Enrolment

/-- What the broker issues for a certificate request. -/
structure Credential where
  certificatePem : String
  certificateId : String
  ownershipToken : String
  deriving DecidableEq

structure Registration where
  thingName : String
  configuration : TextMap
  deriving DecidableEq

/-- What a rejected response says about the reason. -/
structure Rejection where
  status : Option Nat
  code : Option String
  message : Option String
  deriving DecidableEq, Repr

def Rejection.unexplained : Rejection := ⟨none, none, none⟩

/-- The rejection in one line. What is not said is a question mark. -/
def Rejection.summary (r : Rejection) : String :=
  "status=" ++ (r.status.elim "?" toString) ++ " code=" ++ r.code.getD "?" ++
    " message=" ++ r.message.getD "?"

/-- The most bytes that the texts of a response may have. -/
structure FieldLimits where
  certificatePem : Nat
  certificateId : Nat
  ownershipToken : Nat
  thingName : Nat
  deriving DecidableEq, Repr

def FieldLimits.standard : FieldLimits := ⟨2048, 64, 512, 128⟩

inductive CodecError
  | missing (field : String)
  | empty (field : String)
  | tooLong (field : String) (length limit : Nat)
  /-- An item of indefinite length, where a definite one must stand. -/
  | indefiniteLength
  | trailingBytes
  | cbor (cause : Cbor.ReadError)
  | json
  deriving DecidableEq, Repr

def CodecError.message : CodecError → String
  | missing field => "missing field " ++ field
  | empty field => "field " ++ field ++ " is empty"
  | tooLong field length limit => s!"field {field} is {length} bytes, limit {limit}"
  | indefiniteLength => "indefinite-length cbor item"
  | trailingBytes => "trailing bytes after payload"
  | cbor .endOfInput => "cbor decode failed: end of input bytes"
  | cbor (.typeMismatch pos) => s!"cbor decode failed: unexpected type at position {pos}"
  | cbor (.invalidUtf8 pos) => s!"cbor decode failed: invalid utf-8 at position {pos}"
  | json => "json codec failed: malformed payload"

/-- One way to write requests and to read responses. -/
structure Codec where
  /-- The request for a certificate, from the text of the signing request. -/
  writeSigningRequest : String → Except CodecError Bytes
  readCredential : Bytes → Except CodecError Credential
  /-- The registration request, from the ownership token and the template's parameters. -/
  writeRegistration : String → TextMap → Except CodecError Bytes
  readRegistration : Bytes → Except CodecError Registration
  /-- The reason given in a rejected response, if it can be read. -/
  readRejection : Bytes → Option Rejection

namespace Payload

/-! ## Names of fields -/

def signingRequestField : String := "certificateSigningRequest"
def certificatePemField : String := "certificatePem"
def certificateIdField : String := "certificateId"
def ownershipTokenField : String := "certificateOwnershipToken"
def parametersField : String := "parameters"
def thingNameField : String := "thingName"
def configurationField : String := "deviceConfiguration"
def statusField : String := "statusCode"
def errorCodeField : String := "errorCode"
def errorMessageField : String := "errorMessage"

/-! ## Bounds -/

/-- A text of a response, if it is there, has a character, and is not longer than its limit. -/
def checkText (field : String) (limit : Nat) : Option String → Except CodecError String
  | none => .error (.missing field)
  | some s =>
    if s = "" then .error (.empty field)
    else if limit < s.utf8ByteSize then .error (.tooLong field s.utf8ByteSize limit)
    else .ok s

theorem checkText_eq_ok_iff {field : String} {limit : Nat} {value : Option String} {s : String} :
    checkText field limit value = .ok s ↔ value = some s ∧ s ≠ "" ∧ s.utf8ByteSize ≤ limit := by
  cases value with
  | none => simp [checkText]
  | some t =>
    simp only [checkText]
    split
    · next h =>
      simp only [reduceCtorEq, Option.some.injEq, false_iff]
      rintro ⟨rfl, hs, -⟩
      exact hs h
    · split
      · next hlt =>
        simp only [reduceCtorEq, Option.some.injEq, false_iff]
        rintro ⟨rfl, -, hle⟩
        omega
      · next hne hle =>
        simp only [Except.ok.injEq, Option.some.injEq]
        exact ⟨by rintro rfl; exact ⟨rfl, hne, by omega⟩, fun h => h.1⟩

structure CredentialTexts where
  pem : Option String
  id : Option String
  token : Option String
  deriving DecidableEq, Repr

def CredentialTexts.check (limits : FieldLimits) (t : CredentialTexts) :
    Except CodecError Credential := do
  let certificatePem ← checkText certificatePemField limits.certificatePem t.pem
  let certificateId ← checkText certificateIdField limits.certificateId t.id
  let ownershipToken ← checkText ownershipTokenField limits.ownershipToken t.token
  return { certificatePem, certificateId, ownershipToken }

/-- The registration, from the thing's name, if it was found, and the configuration. -/
def checkRegistration (limits : FieldLimits) (name : Option String) (configuration : TextMap) :
    Except CodecError Registration := do
  let thingName ← checkText thingNameField limits.thingName name
  return { thingName, configuration }

end Payload

end Enrolment
