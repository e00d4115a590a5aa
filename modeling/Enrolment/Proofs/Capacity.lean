import Enrolment.Proofs.Answer
import Enrolment.Proofs.Response
import Enrolment.Settings.Check

/-!
# Enrolment.Proofs.Capacity

Whether a device can take the credential that the broker answers with. The settings are checked for
a buffer that holds the certificate alone, but what must fit is the response, which also holds the
other two texts, the three keys and the heads. So the settings that pass the check fall into two
kinds: those whose buffer takes every response within the limits, and those that lose the long ones.
The default settings are of the second kind.

* `length_response`: how long a response is.
* `validated_responses_fit_iff`: what becomes of a response, and which settings take all of them.
* `standard_sizes_lose_response`: a response that the default limits allow, and that is lost.
-/

namespace Enrolment

open Cbor

namespace Payload.Binary

variable {c : Credential} {payload : Bytes} {limits : FieldLimits}

/-! ## Lengths -/

/-- The length of a text with its head. -/
def textLength (n : Nat) : Nat := (head majorText n).length + n

theorem length_writeText (s : String) : (writeText s).length = textLength s.utf8ByteSize := by
  rw [writeText, List.length_append, length_utf8]
  rfl

theorem length_head_mono {m n : Nat} (major : Nat) (h : m ≤ n) :
    (head major m).length ≤ (head major n).length := by
  simp only [head]
  repeat' split
  all_goals simp only [List.length_cons, List.length_nil, length_toBigEndian]
  all_goals omega

theorem textLength_mono {m n : Nat} (h : m ≤ n) : textLength m ≤ textLength n :=
  Nat.add_le_add (length_head_mono majorText h) h

/-- The length of a response, by the lengths of its three texts. The rest is the head of the map and
the keys. -/
def responseLength (pem id token : Nat) : Nat :=
  57 + textLength pem + textLength id + textLength token

/-- A response that says a credential and nothing else, in any order, with the shortest heads. -/
def Says (payload : Bytes) (c : Credential) : Prop :=
  ∃ entries, entries.Perm (credentialTexts c) ∧ payload = writeTextMap entries

theorem length_response (h : Says payload c) :
    payload.length = responseLength c.certificatePem.utf8ByteSize c.certificateId.utf8ByteSize
      c.ownershipToken.utf8ByteSize := by
  obtain ⟨entries, hperm, rfl⟩ := h
  have hentries : (entries.flatMap writeEntry).length =
      ((credentialTexts c).flatMap writeEntry).length :=
    (hperm.flatMap_right writeEntry).length_eq
  have hkeys : (writeText certificatePemField).length = 15 ∧
      (writeText certificateIdField).length = 14 ∧
      (writeText ownershipTokenField).length = 27 := by decide
  have hhead : (writeMapHead 3).length = 1 := rfl
  rw [writeTextMap, List.length_append, hentries, hperm.length_eq]
  simp only [credentialTexts, List.flatMap_cons, List.flatMap_nil, List.length_append, writeEntry,
    List.length_cons, List.length_nil, Nat.zero_add, length_writeText c.certificatePem,
    length_writeText c.certificateId, length_writeText c.ownershipToken, hkeys, hhead,
    responseLength]
  omega

/-! ## Reading -/

theorem spellsMap_writeTextMap {entries : List (String × String)}
    (h : (writeTextMap entries).length < 0x10000000000000000) :
    SpellsMap (entries.map fun e => (e.1, .text (utf8 e.2))) (writeTextMap entries) := by
  refine ⟨?_, spells_writeTextMap h, h⟩
  intro e he
  obtain ⟨t, -, rfl⟩ := List.mem_map.1 he
  exact Item.utf8_text t.2

/-- The credential is not empty anywhere, and within the limits. -/
structure Allows (limits : FieldLimits) (c : Credential) : Prop where
  pem : c.certificatePem ≠ "" ∧ c.certificatePem.utf8ByteSize ≤ limits.certificatePem
  id : c.certificateId ≠ "" ∧ c.certificateId.utf8ByteSize ≤ limits.certificateId
  token : c.ownershipToken ≠ "" ∧ c.ownershipToken.utf8ByteSize ≤ limits.ownershipToken

theorem checkText_some {field s : String} {limit : Nat} (h : s ≠ "" ∧ s.utf8ByteSize ≤ limit) :
    checkText field limit (some s) = .ok s := checkText_eq_ok_iff.2 ⟨rfl, h⟩

theorem check_of_allows (h : Allows limits c) :
    CredentialTexts.check limits ⟨some c.certificatePem, some c.certificateId,
      some c.ownershipToken⟩ = .ok c := by
  simp only [CredentialTexts.check, checkText_some h.pem, checkText_some h.id,
    checkText_some h.token, bind, Except.bind, pure, Except.pure]

theorem valuesUnder_of_perm {entries : List (String × String)} {key value : String}
    {c : Credential} (hperm : entries.Perm (credentialTexts c))
    (hvalue : valuesUnder key (credentialTexts c) = [value]) :
    valuesUnder key (entries.map fun e => (e.1, Item.text (utf8 e.2))) = [.text (utf8 value)] := by
  have hvalues : valuesUnder key (entries.map fun e => (e.1, Item.text (utf8 e.2))) =
      (valuesUnder key entries).map fun v => .text (utf8 v) := by
    simp [valuesUnder, List.filter_map, Function.comp_def]
  have hsame : (valuesUnder key entries).Perm [value] := by
    rw [← hvalue]
    exact (hperm.filter _).map _
  rw [hvalues, List.perm_singleton.1 hsame]
  rfl

theorem valuesUnder_credentialTexts (c : Credential) :
    valuesUnder certificatePemField (credentialTexts c) = [c.certificatePem] ∧
      valuesUnder certificateIdField (credentialTexts c) = [c.certificateId] ∧
      valuesUnder ownershipTokenField (credentialTexts c) = [c.ownershipToken] := by
  simp [valuesUnder, credentialTexts, certificatePemField, certificateIdField, ownershipTokenField]

theorem readCredential_response (h : Says payload c) (hallows : Allows limits c)
    (hsize : payload.length < 0x10000000000000000) : readCredential limits payload = .ok c := by
  obtain ⟨entries, hperm, rfl⟩ := h
  obtain ⟨hpem, hid, htoken⟩ := valuesUnder_credentialTexts c
  have hpem := valuesUnder_of_perm hperm hpem
  have hid := valuesUnder_of_perm hperm hid
  have htoken := valuesUnder_of_perm hperm htoken
  have htext : TextUnder credentialFields
      (entries.map fun e => (e.1, .text (utf8 e.2))) := by
    intro key hkey v hv
    simp only [credentialFields, List.mem_cons, List.not_mem_nil, or_false] at hkey
    obtain rfl | rfl | rfl := hkey <;>
      simp only [hpem, hid, htoken, List.mem_singleton] at hv <;> exact ⟨_, hv⟩
  have hread := (readCredential_exactly limits (spellsMap_writeTextMap hsize) htext).whole
  simpa only [lastText, lastUnder, hpem, hid, htoken, List.getLast?_singleton, Option.elim_some,
    Item.text?, Bytes.text?_utf8, check_of_allows hallows] using hread

/-! ## Limits -/

/-- Some text of `n` bytes. -/
def someText : Nat → String
  | 0 => ""
  | n + 1 => someText n ++ "x"

theorem utf8ByteSize_someText (n : Nat) : (someText n).utf8ByteSize = n := by
  induction n with
  | zero => rfl
  | succ n ih =>
    rw [someText, String.utf8ByteSize_append, ih]
    rfl

theorem ne_empty_of_utf8ByteSize {s : String} (h : 0 < s.utf8ByteSize) : s ≠ "" := by
  rintro rfl
  exact absurd h (Nat.lt_irrefl 0)

/-- The longest response within the limits. -/
def longestResponse (limits : FieldLimits) : Nat :=
  responseLength limits.certificatePem limits.certificateId limits.ownershipToken

theorem length_le_longestResponse (h : Says payload c) (hallows : Allows limits c) :
    payload.length ≤ longestResponse limits := by
  have hpem := textLength_mono hallows.pem.2
  have hid := textLength_mono hallows.id.2
  have htoken := textLength_mono hallows.token.2
  rw [length_response h, longestResponse, responseLength, responseLength]
  omega

/-- A limit of zero allows nothing; otherwise the longest response is there. -/
theorem exists_longestResponse (hpem : 0 < limits.certificatePem) (hid : 0 < limits.certificateId)
    (htoken : 0 < limits.ownershipToken) :
    ∃ c payload, Allows limits c ∧ Says payload c ∧ payload.length = longestResponse limits := by
  have hpem' := utf8ByteSize_someText limits.certificatePem
  have hid' := utf8ByteSize_someText limits.certificateId
  have htoken' := utf8ByteSize_someText limits.ownershipToken
  let c : Credential := ⟨someText limits.certificatePem, someText limits.certificateId,
    someText limits.ownershipToken⟩
  have hsaid : Says (writeTextMap (credentialTexts c)) c := ⟨_, .refl _, rfl⟩
  refine ⟨c, _, ⟨⟨?_, Nat.le_of_eq hpem'⟩, ⟨?_, Nat.le_of_eq hid'⟩, ⟨?_, Nat.le_of_eq htoken'⟩⟩,
    hsaid, ?_⟩
  · exact ne_empty_of_utf8ByteSize (hpem'.symm ▸ hpem)
  · exact ne_empty_of_utf8ByteSize (hid'.symm ▸ hid)
  · exact ne_empty_of_utf8ByteSize (htoken'.symm ▸ htoken)
  · rw [length_response hsaid, hpem', hid', htoken', longestResponse]

end Payload.Binary

open Payload.Binary

/-! ## Receiving -/

/-- The request for a certificate is in flight, and nothing has been received. -/
structure AwaitsCredential (s : Session) (topics : Topics) (capacity : Nat) : Prop where
  active : s.active = some ⟨.createCertificate, topics⟩
  lastOutcome : s.lastOutcome = .notReceived
  capacity : s.payload.capacity = capacity

/-- The response is kept, and the credential read off what is kept. -/
structure Received (limits : FieldLimits) (c : Credential) (payload : Bytes)
    (dispatched : Session × Except SessionError (Option Classification)) : Prop where
  result : dispatched.2 = .ok (some (.response .createCertificate .accepted))
  outcome : dispatched.1.lastOutcome = .accepted
  kept : dispatched.1.payload.data = payload
  read : (Codec.standard limits .cbor).readCredential dispatched.1.payload.data = .ok c

/-- The response is refused for its length, and nothing is kept of it. -/
structure Refused (s : Session) (payload : Bytes)
    (dispatched : Session × Except SessionError (Option Classification)) : Prop where
  result : dispatched.2 = .error (.payloadTooLarge payload.length s.payload.capacity)
  outcome : dispatched.1.lastOutcome = .notReceived
  kept : dispatched.1.payload = s.payload

section Dispatch

variable {s : Session} {topics : Topics} {capacity : Nat} {limits : FieldLimits} {c : Credential}
  {payload : Bytes}

theorem AwaitsCredential.dispatch (h : AwaitsCredential s topics capacity) (payload : Bytes) :
    s.dispatch (.publish topics.accepted payload) =
      if payload.length ≤ capacity then
        ({ s with
          lastPacket := some .publish
          payload := ⟨capacity, payload⟩
          lastOutcome := .accepted }, .ok (some (.response .createCertificate .accepted)))
      else
        ({ s with lastPacket := some .publish },
          .error (.payloadTooLarge payload.length capacity)) := by
  have hactive : Session.active { s with lastPacket := some .publish } =
      some ⟨.createCertificate, topics⟩ := h.active
  have hdisposition : topics.dispositionOf topics.accepted = some .accepted := if_pos rfl
  rw [Session.dispatch_publish, Session.classify_of_active hactive]
  by_cases hfits : payload.length ≤ capacity <;>
    simp [hdisposition, h.lastOutcome, Session.receive_accepted, h.capacity, hfits, Except.map]

theorem AwaitsCredential.received (h : AwaitsCredential s topics capacity)
    (hsaid : Says payload c) (hallows : Allows limits c)
    (hword : capacity < 0x10000000000000000) (hfits : payload.length ≤ capacity) :
    Received limits c payload (s.dispatch (.publish topics.accepted payload)) := by
  have hread := readCredential_response hsaid hallows (Nat.lt_of_le_of_lt hfits hword)
  rw [h.dispatch, if_pos hfits]
  exact ⟨rfl, rfl, rfl, hread⟩

theorem AwaitsCredential.refused (h : AwaitsCredential s topics capacity)
    (hlong : capacity < payload.length) :
    Refused s payload (s.dispatch (.publish topics.accepted payload)) := by
  rw [h.dispatch, if_neg (Nat.not_le.2 hlong)]
  exact ⟨by rw [h.capacity], h.lastOutcome, rfl⟩

end Dispatch

/-! ## Settings -/

theorem Settings.certificatePem_le {s : Settings} {d : Disk} (h : s.check d = .ok ()) :
    s.sizes.fields.certificatePem ≤ s.plan.payloadCapacity := by
  have hrule : faultUnless (s.sizes.fields.certificatePem ≤ s.sizes.networkBuffer) .bufferTooSmall =
      none := check_eq_ok_iff.1 h _ (List.mem_of_getLast? rfl)
  by_cases hle : s.sizes.fields.certificatePem ≤ s.sizes.networkBuffer
  · exact hle
  · rw [decide_eq_false hle] at hrule
    cases hrule

/-- Under settings that pass the check, the buffer holds the certificate of every credential within
the limits. It takes the response if the response is no longer, and the credential is read off it;
if it is longer, the response is lost. No response is lost if, and only if, the longest one fits. -/
theorem validated_responses_fit_iff {s : Settings} {d : Disk} (hcheck : s.check d = .ok ())
    (hword : s.plan.payloadCapacity < 0x10000000000000000) :
    s.sizes.fields.certificatePem ≤ s.plan.payloadCapacity ∧
    (∀ c payload session topics, Allows s.sizes.fields c → Says payload c →
      AwaitsCredential session topics s.plan.payloadCapacity →
        (payload.length ≤ s.plan.payloadCapacity →
          Received s.sizes.fields c payload
            (session.dispatch (.publish topics.accepted payload))) ∧
        (s.plan.payloadCapacity < payload.length →
          Refused session payload (session.dispatch (.publish topics.accepted payload)))) ∧
    (0 < s.sizes.fields.certificatePem → 0 < s.sizes.fields.certificateId →
      0 < s.sizes.fields.ownershipToken →
        ((∀ c payload, Allows s.sizes.fields c → Says payload c →
            payload.length ≤ s.plan.payloadCapacity) ↔
          longestResponse s.sizes.fields ≤ s.plan.payloadCapacity)) := by
  refine ⟨Settings.certificatePem_le hcheck, ?_, ?_⟩
  · intro c payload session topics hallows hsaid hawaits
    exact ⟨hawaits.received hsaid hallows hword, hawaits.refused⟩
  · intro hpem hid htoken
    constructor
    · intro hall
      obtain ⟨c, payload, hallows, hsaid, hlength⟩ := exists_longestResponse hpem hid htoken
      rw [← hlength]
      exact hall c payload hallows hsaid
    · intro hlongest c payload hallows hsaid
      exact Nat.le_trans (length_le_longestResponse hsaid hallows) hlongest

/-- Settings that pass the check wherever there is a claim. -/
def claimedSettings (sizes : SizeSettings) : Settings where
  broker := ⟨"broker", 8883, "device", 60, []⟩
  claim := ⟨"claim.pem", "claim.pem", "claim.pem"⟩
  registration := ⟨"Fleet", .cbor, .empty⟩
  credentials := .standard
  retry := .standard
  timing := .standard
  sizes
  log := .standard

def claimDisk : Disk := ⟨[(["claim.pem"], .file .shared [])], []⟩

theorem claimedSettings_check : (claimedSettings .standard).check claimDisk = .ok () := by rfl

/-- The request is in flight in a session that has just begun. -/
def askingSession (capacity : Nat) : Session :=
  (Session.new capacity).begun .createCertificate (.createCertificate .cbor)

theorem awaitsCredential_askingSession (capacity : Nat) :
    AwaitsCredential (askingSession capacity) (.createCertificate .cbor) capacity :=
  ⟨rfl, rfl, rfl⟩

/-- A certificate as long as the default limits allow. -/
def longCredential : Credential := ⟨someText 2048, "id", "token"⟩

def longResponse : Bytes := writeTextMap (credentialTexts longCredential)

/-- The default settings pass the check and allow the credential, and lose the response. -/
theorem standard_sizes_lose_response :
    (claimedSettings .standard).check claimDisk = .ok () ∧
      Allows (claimedSettings .standard).sizes.fields longCredential ∧
      Says longResponse longCredential ∧
      AwaitsCredential (askingSession 2048) (.createCertificate .cbor)
        (claimedSettings .standard).plan.payloadCapacity ∧
      Refused (askingSession 2048) longResponse ((askingSession 2048).dispatch
        (.publish (Topics.createCertificate .cbor).accepted longResponse)) := by
  have hawaits := awaitsCredential_askingSession 2048
  have hsaid : Says longResponse longCredential := ⟨_, .refl _, rfl⟩
  have hpem : longCredential.certificatePem.utf8ByteSize = 2048 := utf8ByteSize_someText 2048
  have hlength : longResponse.length = 2117 := by
    rw [length_response hsaid, hpem]
    decide
  refine ⟨claimedSettings_check, ⟨⟨?_, Nat.le_of_eq hpem⟩, by decide, by decide⟩, hsaid, hawaits,
    hawaits.refused (by omega)⟩
  exact ne_empty_of_utf8ByteSize (by omega)

def briefCredential : Credential := ⟨"pem", "id", "token"⟩

def briefResponse : Bytes := writeTextMap (credentialTexts briefCredential)

theorem standard_sizes_take_brief_response :
    (claimedSettings .standard).check claimDisk = .ok () ∧
      Received FieldLimits.standard briefCredential briefResponse
        ((askingSession 2048).dispatch
          (.publish (Topics.createCertificate .cbor).accepted briefResponse)) := by
  have hfit := (validated_responses_fit_iff claimedSettings_check (by decide)).2.1
  exact ⟨claimedSettings_check, (hfit briefCredential briefResponse (askingSession 2048)
    (.createCertificate .cbor) ⟨by decide, by decide, by decide⟩ ⟨_, .refl _, rfl⟩
    (awaitsCredential_askingSession 2048)).1 (by decide)⟩

end Enrolment
