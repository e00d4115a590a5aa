import Enrolment.Payload.Standard
import Enrolment.Proofs.Response
import Enrolment.Proofs.Values

/-!
# Enrolment.Proofs.Requests

What a written request says: read back in its own format, it is the signing request, or the token
and the parameters, and nothing else.

* `requests_lossless`: both requests, in both formats.
-/

namespace Enrolment

open Cbor

namespace Payload

/-! ## Readings -/

namespace Binary

/-- A map whose only entry is the signing request, to the last byte. -/
def SaysSigningRequest (payload : Bytes) (csr : String) : Prop :=
  ∃ c₁ c₂ c₃, entryCount (.ofBytes payload) = .ok (1, c₁) ∧
    text c₁ = .ok (signingRequestField, c₂) ∧ text c₂ = .ok (csr, c₃) ∧ c₃.rest = []

/-- A map of the token and, if there are any, of the parameters, to the last byte. -/
def SaysRegistration (payload : Bytes) (token : String) (parameters : TextMap) : Prop :=
  ∃ c₁ c₂ c₃,
    entryCount (.ofBytes payload) = .ok (if parameters.isEmpty then 1 else 2, c₁) ∧
    text c₁ = .ok (ownershipTokenField, c₂) ∧ text c₂ = .ok (token, c₃) ∧
    if parameters.isEmpty then c₃.rest = []
    else ∃ c₄ c₅, text c₃ = .ok (parametersField, c₄) ∧ textMap c₄ = .ok (parameters, c₅) ∧
      c₅.rest = []

theorem SaysSigningRequest.unique {payload : Bytes} {csr csr' : String}
    (h : SaysSigningRequest payload csr) (h' : SaysSigningRequest payload csr') : csr = csr' := by
  obtain ⟨c₁, c₂, c₃, hcount, hfield, hcsr, -⟩ := h
  obtain ⟨c₁', c₂', c₃', hcount', hfield', hcsr', -⟩ := h'
  cases hcount.symm.trans hcount'
  cases hfield.symm.trans hfield'
  cases hcsr.symm.trans hcsr'
  rfl

theorem SaysRegistration.unique {payload : Bytes} {token token' : String}
    {parameters parameters' : TextMap} (h : SaysRegistration payload token parameters)
    (h' : SaysRegistration payload token' parameters') :
    token = token' ∧ parameters = parameters' := by
  obtain ⟨c₁, c₂, c₃, hcount, hfield, htoken, hrest⟩ := h
  obtain ⟨c₁', c₂', c₃', hcount', hfield', htoken', hrest'⟩ := h'
  obtain ⟨hsame, rfl⟩ := Prod.mk.inj (Except.ok.inj (hcount.symm.trans hcount'))
  cases hfield.symm.trans hfield'
  cases htoken.symm.trans htoken'
  refine ⟨rfl, ?_⟩
  cases hempty : parameters.isEmpty <;> cases hempty' : parameters'.isEmpty <;>
    simp only [hempty, hempty', Bool.false_eq_true, if_false, if_true] at hsame hrest hrest'
  · obtain ⟨c₄, c₅, hfield, hmap, -⟩ := hrest
    obtain ⟨c₄', c₅', hfield', hmap', -⟩ := hrest'
    cases hfield.symm.trans hfield'
    cases hmap.symm.trans hmap'
    rfl
  · exact absurd hsame (by decide)
  · exact absurd hsame (by decide)
  · exact TextMap.ext ((List.isEmpty_iff.1 hempty).trans (List.isEmpty_iff.1 hempty').symm)

theorem textEntries_utf8 (entries : List (String × String)) :
    ∀ e ∈ entries.map fun e => (e.1, Item.text (utf8 e.2)), e.2.Utf8 := by
  intro e he
  obtain ⟨t, -, rfl⟩ := List.mem_map.1 he
  exact Item.utf8_text t.2

/-- The whole payload, before it is read. -/
theorem SpellsMap.start {entries : List (String × Item)} {payload : Bytes}
    (h : SpellsMap entries payload) : Before [.ofEntries entries] [] (.ofBytes payload) := by
  have hbefore := h.before []
  rwa [List.append_nil] at hbefore

theorem signingRequest_says {csr : String}
    (h : (signingRequest csr).length < 0x10000000000000000) :
    SaysSigningRequest (signingRequest csr) csr := by
  have hmap : SpellsMap _ (signingRequest csr) :=
    ⟨textEntries_utf8 [(signingRequestField, csr)], spells_writeTextMap h, h⟩
  obtain ⟨c₁, hcount, h₁⟩ := entryCount_before hmap.start
  obtain ⟨c₂, hfield, h₂⟩ := text_utf8_before h₁
  obtain ⟨c₃, hcsr, h₃⟩ := text_utf8_before h₂
  exact ⟨c₁, c₂, c₃, hcount, hfield, hcsr, h₃.rest_eq⟩

/-- The entries of a registration request. -/
def registrationEntries (token : String) (parameters : TextMap) : List (String × Item) :=
  (ownershipTokenField, .text (utf8 token)) ::
    if parameters.isEmpty then []
    else [(parametersField, .ofEntries (parameters.entries.map fun e => (e.1, .text (utf8 e.2))))]

theorem registration_spelled {token : String} {parameters : TextMap}
    (h : (registration token parameters).length < 0x10000000000000000) :
    SpellsMap (registrationEntries token parameters) (registration token parameters) := by
  rw [registrationEntries]
  cases hempty : parameters.isEmpty with
  | true =>
    have heq : registration token parameters = writeTextMap [(ownershipTokenField, token)] := by
      simp [registration, writeTextMap, hempty]
    rw [heq] at h ⊢
    exact ⟨textEntries_utf8 [(ownershipTokenField, token)], spells_writeTextMap h, h⟩
  | false =>
    have heq : registration token parameters =
        writeMapHead 2 ++ (writeText ownershipTokenField ++ (writeText token ++
          (writeText parametersField ++ writeTextMap parameters.entries))) := by
      simp [registration, writeEntry, hempty]
    rw [heq] at h ⊢
    refine ⟨?_, ?_, h⟩
    · simp only [Bool.false_eq_true, if_false, List.forall_mem_cons]
      exact ⟨Item.utf8_text token, Item.utf8_ofEntries (textEntries_utf8 _), List.forall_mem_nil _⟩
    · simp only [List.length_append] at h
      have hparameters : Spells _ (writeTextMap parameters.entries) :=
        spells_writeTextMap (by omega)
      have htoken : (utf8 token).length ≤ (writeText token).length := by
        rw [writeText, List.length_append]
        exact Nat.le_add_left _ _
      have htexts := spells_writeText (s := ownershipTokenField) (by decide)
        (spells_writeText (s := token) (by omega)
          (spells_writeText (s := parametersField) (by decide) hparameters))
      have hcount : 2 < 0x10000000000000000 := by decide
      exact @spells_head (.ofEntries _) _ _ hcount htexts

theorem TextMap.textMap_ofEntries (m : TextMap) :
    (Item.ofEntries (m.entries.map fun e => (e.1, .text (utf8 e.2)))).textMap = m := by
  have htexts : (Item.ofEntries (m.entries.map fun e => (e.1, .text (utf8 e.2)))).texts =
      m.entries := by
    simp [Item.texts, Item.ofEntries, Item.text?, List.filterMap_map, Function.comp_def]
  rw [Item.textMap, htexts, TextMap.ofList_entries]

theorem registration_says {token : String} {parameters : TextMap}
    (h : (registration token parameters).length < 0x10000000000000000) :
    SaysRegistration (registration token parameters) token parameters := by
  obtain ⟨c₁, hcount, h₁⟩ := entryCount_before (registration_spelled h).start
  obtain ⟨c₂, hfield, h₂⟩ := text_utf8_before h₁
  obtain ⟨c₃, htoken, h₃⟩ := text_utf8_before h₂
  refine ⟨c₁, c₂, c₃, ?_, hfield, htoken, ?_⟩
  · rw [hcount, registrationEntries]
    cases parameters.isEmpty <;> rfl
  · cases hempty : parameters.isEmpty with
    | true =>
      simp only [hempty, if_true] at h₃
      exact h₃.rest_eq
    | false =>
      simp only [hempty, Bool.false_eq_true, if_false] at h₃
      obtain ⟨c₄, hfield, h₄⟩ := text_utf8_before h₃
      obtain ⟨c₅, hmap, h₅⟩ := textMap_takes _ _ _ _ h₄
      rw [TextMap.textMap_ofEntries] at hmap
      exact ⟨c₄, c₅, hfield, hmap, h₅.rest_eq⟩

end Binary

namespace Textual

/-- The object whose only member is the signing request. -/
def SaysSigningRequest (payload : Bytes) (csr : String) : Prop :=
  Json.read? payload = some (.table [(some signingRequestField, .text csr)])

/-- The object of the token and, if there are any, of the parameters. -/
def SaysRegistration (payload : Bytes) (token : String) (parameters : TextMap) : Prop :=
  Json.read? payload = some (.table ((some ownershipTokenField, .text token) ::
    if parameters.isEmpty then []
    else [(some parametersField,
      .table (parameters.entries.map fun e => (some e.1, .text e.2)))]))

theorem SaysSigningRequest.unique {payload : Bytes} {csr csr' : String}
    (h : SaysSigningRequest payload csr) (h' : SaysSigningRequest payload csr') : csr = csr' := by
  cases h.symm.trans h'
  rfl

theorem SaysRegistration.unique {payload : Bytes} {token token' : String}
    {parameters parameters' : TextMap} (h : SaysRegistration payload token parameters)
    (h' : SaysRegistration payload token' parameters') :
    token = token' ∧ parameters = parameters' := by
  have hsame := h.symm.trans h'
  simp only [Option.some.injEq, Document.table.injEq, List.cons.injEq, Prod.mk.injEq,
    Document.text.injEq, true_and] at hsame
  obtain ⟨rfl, hsame⟩ := hsame
  refine ⟨rfl, TextMap.ext ?_⟩
  cases hempty : parameters.isEmpty <;> cases hempty' : parameters'.isEmpty <;>
    simp only [hempty, hempty', Bool.false_eq_true, if_false, if_true] at hsame
  · simp only [List.cons.injEq, Prod.mk.injEq, Document.table.injEq, true_and, and_true] at hsame
    refine (List.map_inj_right fun e e' he => ?_).1 hsame
    simp only [Prod.mk.injEq, Option.some.injEq, Document.text.injEq] at he
    exact Prod.ext he.1 he.2
  · exact absurd hsame (List.cons_ne_nil _ _)
  · exact absurd hsame.symm (List.cons_ne_nil _ _)
  · exact (List.isEmpty_iff.1 hempty).trans (List.isEmpty_iff.1 hempty').symm

/-- The members that some texts are written for. -/
def textMembers (entries : List (String × String)) : List (String × Value) :=
  entries.map fun e => (e.1, .text e.2)

theorem written_texts (entries : List (String × String)) :
    Json.Written (entries.map fun e => (e.1, Json.string e.2)) (textMembers entries) := by
  induction entries with
  | nil => exact .nil
  | cons e rest ih => exact .cons ⟨rfl, Json.spells_string e.2⟩ ih

theorem entries_textMembers (entries : List (String × String)) :
    Value.entries (textMembers entries) = entries.map fun e => (some e.1, .text e.2) := by
  induction entries with
  | nil => rfl
  | cons e rest ih =>
    rw [textMembers, List.map_cons, Value.entries, ← textMembers, ih]
    rfl

theorem signingRequest_says (csr : String) : SaysSigningRequest (signingRequest csr) csr := by
  have hspells := Json.spells_compactObject (written_texts [(signingRequestField, csr)])
  exact Json.read?_spelled hspells.padded

theorem registration_says (token : String) (parameters : TextMap) :
    SaysRegistration (registration token parameters) token parameters := by
  rw [SaysRegistration, registration]
  cases hempty : parameters.isEmpty with
  | true =>
    have hspells := Json.spells_compactObject (written_texts [(ownershipTokenField, token)])
    exact Json.read?_spelled hspells.padded
  | false =>
    have hparameters : Json.Spells _ (utf8 (textObject parameters)) :=
      Json.spells_compactObject (written_texts parameters.entries)
    have hwritten : Json.Written
        [(ownershipTokenField, Json.string token), (parametersField, textObject parameters)]
        [(ownershipTokenField, .text token),
          (parametersField, .object (textMembers parameters.entries))] :=
      .cons ⟨rfl, Json.spells_string token⟩ (.cons ⟨rfl, hparameters⟩ .nil)
    have hread := Json.read?_spelled (Json.spells_compactObject hwritten).padded
    simpa [Value.document, Value.entries, entries_textMembers] using hread

end Textual

/-! ## Both formats -/

def SaysSigningRequest : PayloadFormat → Bytes → String → Prop
  | .cbor => Binary.SaysSigningRequest
  | .json => Textual.SaysSigningRequest

def SaysRegistration : PayloadFormat → Bytes → String → TextMap → Prop
  | .cbor => Binary.SaysRegistration
  | .json => Textual.SaysRegistration

/-- The lengths in a binary payload are numbers below `2^64`. -/
def Fits : PayloadFormat → Bytes → Prop
  | .cbor, payload => payload.length < 0x10000000000000000
  | .json, _ => True

/-- There is a payload for everything, it says what it was written for, and it is written for
nothing else. -/
structure Lossless {α : Type} (Fits : Bytes → Prop) (Says : Bytes → α → Prop)
    (write : α → Except CodecError Bytes) : Prop where
  written : ∀ a, ∃ payload, write a = .ok payload ∧ (Fits payload → Says payload a)
  injective : ∀ a a' payload, Fits payload → write a = .ok payload → write a' = .ok payload →
    a = a'

theorem Lossless.of_unique {α : Type} {Fits : Bytes → Prop} {Says : Bytes → α → Prop}
    {payload : α → Bytes} (hsaid : ∀ a, Fits (payload a) → Says (payload a) a)
    (hunique : ∀ {b a a'}, Says b a → Says b a' → a = a') :
    Lossless Fits Says fun a => .ok (payload a) := by
  refine ⟨fun a => ⟨payload a, rfl, hsaid a⟩, fun a a' b hfits ha ha' => ?_⟩
  obtain rfl : payload a = b := Except.ok.inj ha
  have hsame : payload a' = payload a := Except.ok.inj ha'
  exact hunique (hsaid a hfits) (hsame ▸ hsaid a' (hsame ▸ hfits))

/-- Both requests are written without loss in both formats. -/
theorem requests_lossless (limits : FieldLimits) (format : PayloadFormat) :
    Lossless (Fits format) (SaysSigningRequest format)
        (Codec.standard limits format).writeSigningRequest ∧
      Lossless (Fits format) (fun payload r => SaysRegistration format payload r.1 r.2)
        fun r : String × TextMap => (Codec.standard limits format).writeRegistration r.1 r.2 := by
  cases format with
  | cbor =>
    exact ⟨.of_unique (fun _ => Binary.signingRequest_says) Binary.SaysSigningRequest.unique,
      .of_unique (fun _ => Binary.registration_says) fun h h' => Prod.ext_iff.2 (h.unique h')⟩
  | json =>
    exact ⟨.of_unique (fun csr _ => Textual.signingRequest_says csr)
        Textual.SaysSigningRequest.unique,
      .of_unique (fun r _ => Textual.registration_says r.1 r.2)
        fun h h' => Prod.ext_iff.2 (h.unique h')⟩

/-- Two lines, with characters that JSON escapes and characters of two and four bytes. -/
def oddText : String := "line\n\"line\"\\\x00é😀"

def oddParameters : TextMap := .ofList [("serial", oddText), ("batch", "")]

theorem oddRequests_lossless :
    (∃ payload, (Codec.standard .standard .cbor).writeSigningRequest oddText = .ok payload ∧
      payload.length < 0x10000000000000000 ∧ Binary.SaysSigningRequest payload oddText) ∧
    (∃ payload,
      (Codec.standard .standard .cbor).writeRegistration oddText oddParameters = .ok payload ∧
      payload.length < 0x10000000000000000 ∧
      Binary.SaysRegistration payload oddText oddParameters) ∧
    (∃ payload,
      (Codec.standard .standard .json).writeRegistration oddText oddParameters = .ok payload ∧
      Textual.SaysRegistration payload oddText oddParameters) := by
  refine ⟨?_, ?_, ?_⟩
  · obtain ⟨payload, hwrite, hsaid⟩ := (requests_lossless .standard .cbor).1.written oddText
    have hfits : payload.length < 0x10000000000000000 := by
      cases hwrite
      decide +kernel
    exact ⟨payload, hwrite, hfits, hsaid hfits⟩
  · obtain ⟨payload, hwrite, hsaid⟩ :=
      (requests_lossless .standard .cbor).2.written (oddText, oddParameters)
    have hfits : payload.length < 0x10000000000000000 := by
      cases hwrite
      decide +kernel
    exact ⟨payload, hwrite, hfits, hsaid hfits⟩
  · obtain ⟨payload, hwrite, hsaid⟩ :=
      (requests_lossless .standard .json).2.written (oddText, oddParameters)
    exact ⟨payload, hwrite, hsaid trivial⟩

end Payload

end Enrolment
