import Enrolment.Cbor.Skip
import Enrolment.Cbor.Writer
import Enrolment.Payload.Basic

/-!
# Enrolment.Payload.Binary

The binary payloads. A response is one map of definite length with texts of definite length as keys,
and nothing behind it. A known key takes the value of its last entry; the value of an unknown key is
passed over, unless its length is indefinite. Inside what is passed over, lengths may be
indefinite.

The reason of a rejection is read as far as it goes: a status that is no number below `2^16` is
none, what is passed over may have any length, and bytes behind the map do not matter.
-/

namespace Enrolment.Payload.Binary

open Enrolment.Cbor (Cursor Kind)

/-! ## Requests -/

def signingRequest (csr : String) : Bytes := Cbor.writeTextMap [(signingRequestField, csr)]

/-- The registration request. Without parameters it does not mention them. -/
def registration (token : String) (parameters : TextMap) : Bytes :=
  Cbor.writeMapHead (if parameters.isEmpty then 1 else 2) ++
    Cbor.writeEntry (ownershipTokenField, token) ++
    if parameters.isEmpty then []
    else Cbor.writeText parametersField ++ Cbor.writeTextMap parameters.entries

/-! ## Items -/

abbrev Reader (α : Type) := Cursor → Except CodecError (α × Cursor)

/-- A reader of items, as a reader of payloads. -/
def item {α : Type} (read : Cbor.Reader α) : Reader α := fun c =>
  (read c).mapError .cbor

def kind (c : Cursor) : Except CodecError Kind := (Cbor.kindAt c).mapError .cbor

def entryCount : Reader Nat := fun c => do
  let (length, c) ← item Cbor.mapLength c
  match length with
  | some n => return (n, c)
  | none => throw .indefiniteLength

def text : Reader String := fun c => do
  if (← kind c) = .indefiniteText then throw .indefiniteLength
  item Cbor.text c

/-- What follows the next item, whatever it is. -/
def pass (c : Cursor) : Except CodecError Cursor := (Cbor.skip c).mapError .cbor

/-- What follows the next item, which must not have an indefinite length itself. -/
def passDefinite (c : Cursor) : Except CodecError Cursor := do
  match ← kind c with
  | .indefiniteText | .indefiniteBytes | .indefiniteArray | .indefiniteMap =>
    throw .indefiniteLength
  | _ => pass c

/-- Reads `n` entries one after the other: `step` takes the values found so far, the key and the
cursor at the value. -/
def foldEntries {σ : Type} (step : σ → String → Reader σ) : Nat → σ → Reader σ
  | 0, s, c => .ok (s, c)
  | n + 1, s, c => do
    let (key, c) ← text c
    let (s, c) ← step s key c
    foldEntries step n s c

/-- Reads a map, entry by entry. -/
def foldMap {σ : Type} (step : σ → String → Reader σ) (start : σ) : Reader σ := fun c => do
  let (n, c) ← entryCount c
  foldEntries step n start c

/-- Takes an entry of a map of texts. A value that is no text is passed over. -/
def textEntry (m : TextMap) (key : String) : Reader TextMap := fun c => do
  if (← kind c) = .text then
    let (value, c) ← item Cbor.text c
    return (m.insert key value, c)
  else return (m, ← passDefinite c)

def textMap : Reader TextMap := foldMap textEntry .empty

/-- Reads a map that is the whole payload. -/
def wholeMap {σ : Type} (step : σ → String → Reader σ) (start : σ) (payload : Bytes) :
    Except CodecError σ := do
  let (s, c) ← foldMap step start (.ofBytes payload)
  if c.rest.isEmpty then return s else throw .trailingBytes

/-! ## Responses -/

def credentialEntry (t : CredentialTexts) (key : String) : Reader CredentialTexts := fun c => do
  if key = certificatePemField then
    let (s, c) ← text c
    return ({ t with pem := some s }, c)
  else if key = certificateIdField then
    let (s, c) ← text c
    return ({ t with id := some s }, c)
  else if key = ownershipTokenField then
    let (s, c) ← text c
    return ({ t with token := some s }, c)
  else return (t, ← passDefinite c)

def readCredential (limits : FieldLimits) (payload : Bytes) : Except CodecError Credential := do
  let texts ← wholeMap credentialEntry ⟨none, none, none⟩ payload
  texts.check limits

def registrationEntry (found : Option String × TextMap) (key : String) :
    Reader (Option String × TextMap) := fun c => do
  if key = thingNameField then
    let (s, c) ← text c
    return ((some s, found.2), c)
  else if key = configurationField then
    let (m, c) ← textMap c
    return ((found.1, m), c)
  else return (found, ← passDefinite c)

def readRegistration (limits : FieldLimits) (payload : Bytes) :
    Except CodecError Registration := do
  let (name, configuration) ← wholeMap registrationEntry (none, .empty) payload
  checkRegistration limits name configuration

def rejectionEntry (r : Rejection) (key : String) : Reader Rejection := fun c => do
  if key = statusField then
    let (status, c) := Cbor.word16 c
    return ({ r with status }, c)
  else if key = errorCodeField then
    let (s, c) ← text c
    return ({ r with code := some s }, c)
  else if key = errorMessageField then
    let (s, c) ← text c
    return ({ r with message := some s }, c)
  else return (r, ← pass c)

def readRejection (payload : Bytes) : Option Rejection :=
  match foldMap rejectionEntry .unexplained (.ofBytes payload) with
  | .ok (r, _) => some r
  | .error _ => none

end Enrolment.Payload.Binary
