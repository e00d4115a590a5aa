import Enrolment.Payload.Binary
import Enrolment.Proofs.Entries
import Enrolment.Proofs.Skipping
import Mathlib.Data.List.Basic

/-!
# Enrolment.Proofs.Response

What the binary responses say. A payload that spells one map of definite length is read as a list of
entries: under each known key the last value counts, and nothing else does. A value under another
key may be anything that can be spelled, but its texts must be well-formed: one that is not is
refused though nobody asks for it.

* `foldMap_takes`: a map is read entry by entry, whatever follows it.
* `responses_read`: both responses, as functions of the entries.
* `unasked_text_refused`: an ill-formed text under a key that nobody asks for.
-/

namespace Enrolment

open Cbor

/-! ## Items of entries -/

namespace Cbor.Item

/-- The entries whose key and value are texts. -/
def texts : Item → List (String × String)
  | map entries => entries.filterMap fun e => do return (← e.1.text?, ← e.2.text?)
  | _ => []

/-- The last text value under each key, other values left out. -/
def textMap (item : Item) : TextMap := .ofList item.texts

end Cbor.Item

namespace Payload.Binary

variable {α σ : Type} {item : Item} {items : List Item} {tail : Bytes} {c : Cursor}

/-- The reader takes an item for a value, and stops behind it. -/
def Takes (read : Reader α) (item : Item) (a : α) : Prop :=
  ∀ (items : List Item) (tail : Bytes) (c : Cursor), Before (item :: items) tail c →
    ∃ c', read c = .ok (a, c') ∧ Before items tail c'

theorem kind_before (h : Before (item :: items) tail c) : kind c = .ok item.kind := by
  simp [kind, h.kindAt, Except.mapError]

theorem text_of_opens {content : Bytes} {s : String} {first : UInt8} {c₁ c₂ c₃ : Cursor}
    (h : Opens (.text content) c first c₁ c₂ c₃) (htext : content.text? = some s) :
    text c = .ok (s, c₃) := by
  simp [text, kind, h.kindAt, Item.kind, Binary.item, h.text htext, Except.mapError, bind,
    Except.bind]

theorem text_before {content : Bytes} (h : Before (.text content :: items) tail c) :
    ∃ s c', content.text? = some s ∧ text c = .ok (s, c') ∧ Before items tail c' := by
  obtain ⟨s, htext⟩ := h.content_text
  obtain ⟨first, c₁, c₂, c', hopens, hbefore⟩ := h.opens
  exact ⟨s, c', htext, text_of_opens hopens htext, hbefore⟩

theorem text_utf8_before {s : String} (h : Before (.text (utf8 s) :: items) tail c) :
    ∃ c', text c = .ok (s, c') ∧ Before items tail c' := by
  obtain ⟨t, c', ht, htext, hbefore⟩ := text_before h
  rw [Bytes.text?_utf8] at ht
  cases ht
  exact ⟨c', htext, hbefore⟩

theorem entryCount_before {entries : List (String × Item)}
    (h : Before (.ofEntries entries :: items) tail c) :
    ∃ c', entryCount c = .ok (entries.length, c') ∧
      Before ((entries.flatMap fun e => [.text (utf8 e.1), e.2]) ++ items) tail c' := by
  obtain ⟨c', hlength, h'⟩ := h.mapLength
  rw [List.flatMap_map] at h'
  rw [List.length_map] at hlength
  refine ⟨c', ?_, h'⟩
  simp [entryCount, Binary.item, hlength, Except.mapError, bind, Except.bind, pure, Except.pure]

theorem passDefinite_before (h : Before (item :: items) tail c) :
    ∃ c', passDefinite c = .ok c' ∧ Before items tail c' := by
  obtain ⟨c', hskip, hbefore⟩ := h.skip
  refine ⟨c', ?_, hbefore⟩
  cases item <;>
    simp [passDefinite, kind_before h, Item.kind, pass, hskip, Except.mapError, bind, Except.bind]

/-- The payload is one map with these texts as keys. Every text in it, however deep, is one in
UTF-8. -/
structure SpellsMap (entries : List (String × Item)) (payload : Bytes) : Prop where
  utf8 : ∀ e ∈ entries, e.2.Utf8
  spells : Spells [.ofEntries entries] payload
  size : payload.length < 0x10000000000000000

theorem SpellsMap.before {entries : List (String × Item)} {payload : Bytes}
    (h : SpellsMap entries payload) (suffix : Bytes) :
    Before [.ofEntries entries] suffix (.ofBytes (payload ++ suffix)) :=
  ⟨List.forall_mem_singleton.2 (Item.utf8_ofEntries h.utf8), payload, rfl, h.spells,
    Nat.le_of_lt_succ h.size⟩

section Maps

variable {step : σ → String → Reader σ} {f : σ → String × Item → σ}
  {entries : List (String × Item)}

theorem foldEntries_before (hstep : ∀ s, ∀ e ∈ entries, Takes (step s e.1) e.2 (f s e)) (s : σ)
    (h : Before ((entries.flatMap fun e => [.text (utf8 e.1), e.2]) ++ items) tail c) :
    ∃ c', foldEntries step entries.length s c = .ok (entries.foldl f s, c') ∧
      Before items tail c' := by
  induction entries generalizing s c with
  | nil => exact ⟨c, rfl, h⟩
  | cons e rest ih =>
    obtain ⟨c₁, hkey, h₁⟩ := text_utf8_before h
    obtain ⟨c₂, hvalue, h₂⟩ := hstep s e List.mem_cons_self _ _ _ h₁
    obtain ⟨c', hrest, h'⟩ := ih (fun s e he => hstep s e (List.mem_cons_of_mem _ he)) (f s e) h₂
    refine ⟨c', ?_, h'⟩
    simp [foldEntries, hkey, hvalue, hrest, bind, Except.bind]

theorem foldMap_takes (hstep : ∀ s, ∀ e ∈ entries, Takes (step s e.1) e.2 (f s e)) (start : σ) :
    Takes (foldMap step start) (.ofEntries entries) (entries.foldl f start) := by
  intro items tail c h
  obtain ⟨c₁, hcount, h₁⟩ := entryCount_before h
  obtain ⟨c', hfold, h'⟩ := foldEntries_before hstep start h₁
  refine ⟨c', ?_, h'⟩
  simp [foldMap, hcount, hfold, bind, Except.bind]

/-- A map that is the whole payload, and one with something behind it. -/
theorem wholeMap_spelled (hstep : ∀ s, ∀ e ∈ entries, Takes (step s e.1) e.2 (f s e)) (start : σ)
    {payload : Bytes} (h : SpellsMap entries payload) (suffix : Bytes) :
    wholeMap step start (payload ++ suffix) =
      if suffix = [] then .ok (entries.foldl f start) else .error .trailingBytes := by
  obtain ⟨c', hfold, h'⟩ := foldMap_takes hstep start _ _ _ (h.before suffix)
  have hrest : c'.rest = suffix := h'.rest_eq
  simp only [wholeMap, hfold, hrest, bind, Except.bind, List.isEmpty_iff]
  split <;> rfl

end Maps

/-! ## Maps of texts -/

/-- What an entry of a map of texts does to the map. -/
def putText (m : TextMap) (e : String × Item) : TextMap :=
  match e.2.text? with
  | some value => m.insert e.1 value
  | none => m

theorem textEntry_takes (m : TextMap) (e : String × Item) :
    Takes (textEntry m e.1) e.2 (putText m e) := by
  obtain ⟨key, item⟩ := e
  intro items tail c h
  have hkind := kind_before h
  cases item with
  | text content =>
    obtain ⟨s, c', hs, htext, h'⟩ := h.text
    refine ⟨c', ?_, h'⟩
    simp [textEntry, hkind, Item.kind, Item.text?, Binary.item, hs, htext, putText, Except.mapError,
      bind, Except.bind, pure, Except.pure]
  | _ =>
    obtain ⟨c', hpass, h'⟩ := passDefinite_before h
    refine ⟨c', ?_, h'⟩
    simp [textEntry, hkind, Item.kind, Item.text?, hpass, putText, bind, Except.bind, pure,
      Except.pure]

theorem foldl_putText (entries : List (String × Item)) (m : TextMap) :
    entries.foldl putText m =
      (Item.ofEntries entries).texts.foldl (fun m e => m.insert e.1 e.2) m := by
  induction entries generalizing m with
  | nil => rfl
  | cons e rest ih =>
    obtain ⟨key, item⟩ := e
    rw [List.foldl_cons, ih]
    simp only [Item.texts, Item.ofEntries, List.map_cons, List.filterMap_cons, putText]
    cases item.text? <;> simp [Item.text?]

theorem textMap_takes (entries : List (String × Item)) :
    Takes textMap (.ofEntries entries) (Item.ofEntries entries).textMap := by
  have htakes : Takes textMap (.ofEntries entries) (entries.foldl putText .empty) :=
    foldMap_takes (fun m e _ => textEntry_takes m e) _
  rwa [foldl_putText] at htakes

/-! ## Responses -/

/-- The values under some keys are texts. -/
def TextUnder (keys : List String) (entries : List (String × Item)) : Prop :=
  ∀ key ∈ keys, ∀ v ∈ valuesUnder key entries, ∃ content, v = .text content

/-- The values under a key are maps with texts as keys. -/
def MapUnder (key : String) (entries : List (String × Item)) : Prop :=
  ∀ v ∈ valuesUnder key entries, ∃ inner, v = .ofEntries inner

def lastText (key : String) (entries : List (String × Item)) : Option String :=
  (lastUnder key entries).elim none Item.text?

def credentialFields : List String := [certificatePemField, certificateIdField, ownershipTokenField]

def registrationFields : List String := [thingNameField, configurationField]

def putCredential (t : CredentialTexts) (e : String × Item) : CredentialTexts :=
  if e.1 = certificatePemField then { t with pem := e.2.text? }
  else if e.1 = certificateIdField then { t with id := e.2.text? }
  else if e.1 = ownershipTokenField then { t with token := e.2.text? }
  else t

theorem credentialEntry_takes {entries : List (String × Item)}
    (htext : TextUnder credentialFields entries) (t : CredentialTexts) :
    ∀ e ∈ entries, Takes (credentialEntry t e.1) e.2 (putCredential t e) := by
  rintro ⟨key, item⟩ he items tail c h
  by_cases hkey : key ∈ credentialFields
  · obtain ⟨content, rfl⟩ := htext key hkey item (mem_valuesUnder.2 he)
    obtain ⟨s, c', hs, hread, h'⟩ := text_before h
    refine ⟨c', ?_, h'⟩
    simp only [credentialFields, List.mem_cons, List.not_mem_nil, or_false] at hkey
    obtain rfl | rfl | rfl := hkey <;>
      simp [credentialEntry, putCredential, hread, hs, Item.text?, bind, Except.bind, pure,
        Except.pure, certificatePemField, certificateIdField, ownershipTokenField]
  · obtain ⟨c', hpass, h'⟩ := passDefinite_before h
    refine ⟨c', ?_, h'⟩
    simp only [credentialFields, List.mem_cons, List.not_mem_nil, or_false, not_or] at hkey
    simp [credentialEntry, putCredential, hkey, hpass, bind, Except.bind, pure, Except.pure]

theorem foldl_putCredential (entries : List (String × Item)) :
    entries.foldl putCredential ⟨none, none, none⟩ =
      ⟨lastText certificatePemField entries, lastText certificateIdField entries,
        lastText ownershipTokenField entries⟩ := by
  have hpem (t e) : (putCredential t e).pem =
      if e.1 = certificatePemField then e.2.text? else t.pem := by
    grind [putCredential]
  have hid (t e) : (putCredential t e).id =
      if e.1 = certificateIdField then e.2.text? else t.id := by
    grind [putCredential, certificatePemField, certificateIdField]
  have htoken (t e) : (putCredential t e).token =
      if e.1 = ownershipTokenField then e.2.text? else t.token := by
    grind [putCredential, certificatePemField, certificateIdField, ownershipTokenField]
  have hpem := foldl_lastUnder hpem entries ⟨none, none, none⟩
  have hid := foldl_lastUnder hid entries ⟨none, none, none⟩
  have htoken := foldl_lastUnder htoken entries ⟨none, none, none⟩
  calc entries.foldl putCredential ⟨none, none, none⟩
      = ⟨(entries.foldl putCredential ⟨none, none, none⟩).pem,
          (entries.foldl putCredential ⟨none, none, none⟩).id,
          (entries.foldl putCredential ⟨none, none, none⟩).token⟩ := rfl
    _ = _ := by rw [hpem, hid, htoken]; rfl

theorem readCredential_spelled (limits : FieldLimits) {entries : List (String × Item)}
    (htext : TextUnder credentialFields entries) {payload : Bytes}
    (h : SpellsMap entries payload) (suffix : Bytes) :
    readCredential limits (payload ++ suffix) =
      if suffix = [] then
        CredentialTexts.check limits ⟨lastText certificatePemField entries,
          lastText certificateIdField entries, lastText ownershipTokenField entries⟩
      else .error .trailingBytes := by
  have hread := wholeMap_spelled (credentialEntry_takes htext) ⟨none, none, none⟩ h suffix
  rw [foldl_putCredential] at hread
  rw [readCredential, hread]
  split <;> rfl

def putRegistration (found : Option String × TextMap) (e : String × Item) :
    Option String × TextMap :=
  if e.1 = thingNameField then (e.2.text?, found.2)
  else if e.1 = configurationField then (found.1, e.2.textMap)
  else found

theorem registrationEntry_takes {entries : List (String × Item)}
    (hname : TextUnder [thingNameField] entries) (hmap : MapUnder configurationField entries)
    (found : Option String × TextMap) :
    ∀ e ∈ entries, Takes (registrationEntry found e.1) e.2 (putRegistration found e) := by
  rintro ⟨key, item⟩ he items tail c h
  by_cases hthing : key = thingNameField
  · obtain ⟨content, rfl⟩ := hname key (List.mem_singleton.2 hthing) item (mem_valuesUnder.2 he)
    obtain ⟨s, c', hs, hread, h'⟩ := text_before h
    refine ⟨c', ?_, h'⟩
    simp [registrationEntry, putRegistration, hthing, hread, hs, Item.text?, bind, Except.bind,
      pure, Except.pure]
  · by_cases hconfiguration : key = configurationField
    · obtain ⟨inner, rfl⟩ := hmap item (mem_valuesUnder.2 (hconfiguration ▸ he))
      obtain ⟨c', hread, h'⟩ := textMap_takes inner _ _ _ h
      refine ⟨c', ?_, h'⟩
      simp [registrationEntry, putRegistration, if_neg hthing, if_pos hconfiguration, hread, bind,
        Except.bind, pure, Except.pure]
    · obtain ⟨c', hpass, h'⟩ := passDefinite_before h
      refine ⟨c', ?_, h'⟩
      simp [registrationEntry, putRegistration, hthing, hconfiguration, hpass, bind, Except.bind,
        pure, Except.pure]

/-- The map under `configurationField`, or none at all. -/
def configuration (entries : List (String × Item)) : TextMap :=
  (lastUnder configurationField entries).elim .empty Item.textMap

theorem foldl_putRegistration (entries : List (String × Item)) :
    entries.foldl putRegistration (none, .empty) =
      (lastText thingNameField entries, configuration entries) := by
  have hname (found e) : (putRegistration found e).1 =
      if e.1 = thingNameField then e.2.text? else found.1 := by
    grind [putRegistration]
  have hmap (found e) : (putRegistration found e).2 =
      if e.1 = configurationField then e.2.textMap else found.2 := by
    grind [putRegistration, thingNameField, configurationField]
  let start : Option String × TextMap := (none, .empty)
  have hname := foldl_lastUnder (g := Prod.fst) hname entries start
  have hmap := foldl_lastUnder (g := Prod.snd) hmap entries start
  calc entries.foldl putRegistration start
      = ((entries.foldl putRegistration start).1, (entries.foldl putRegistration start).2) := rfl
    _ = (lastText thingNameField entries, configuration entries) := by
      rw [hname, hmap]
      rfl

theorem readRegistration_spelled (limits : FieldLimits) {entries : List (String × Item)}
    (hname : TextUnder [thingNameField] entries) (hmap : MapUnder configurationField entries)
    {payload : Bytes} (h : SpellsMap entries payload) (suffix : Bytes) :
    readRegistration limits (payload ++ suffix) =
      if suffix = [] then
        checkRegistration limits (lastText thingNameField entries) (configuration entries)
      else .error .trailingBytes := by
  have hread := wholeMap_spelled (registrationEntry_takes hname hmap) (none, .empty) h suffix
  rw [foldl_putRegistration] at hread
  rw [readRegistration, hread]
  split <;> rfl

/-- A response is read to a result that depends on what stands under its fields, and on nothing else
in it. Nothing may stand behind it, and that is seen before any field is checked. -/
structure ReadExactly (read : Bytes → Except CodecError α) (fields : List String)
    (entries : List (String × Item)) (payload : Bytes) (result : Except CodecError α) : Prop where
  whole : read payload = result
  others : ∀ entries' payload', SpellsMap entries' payload' →
    (∀ key ∈ fields, valuesUnder key entries' = valuesUnder key entries) → read payload' = result
  trailing : ∀ suffix, suffix ≠ [] → read (payload ++ suffix) = .error .trailingBytes

/-- What is read off the values under the fields alone is read exactly. -/
theorem readExactly_of_values {read : Bytes → Except CodecError α} {fields : List String}
    {P : List (String × Item) → Prop} {result : List (String × Item) → Except CodecError α}
    (hread : ∀ entries payload suffix, SpellsMap entries payload → P entries →
      read (payload ++ suffix) = if suffix = [] then result entries else .error .trailingBytes)
    (hvalues : ∀ entries entries',
      (∀ key ∈ fields, valuesUnder key entries' = valuesUnder key entries) → P entries →
        P entries' ∧ result entries' = result entries)
    {entries : List (String × Item)} {payload : Bytes} (h : SpellsMap entries payload)
    (hfits : P entries) : ReadExactly read fields entries payload (result entries) := by
  refine ⟨?_, fun entries' payload' h' hsame => ?_, fun suffix hsuffix => ?_⟩
  · have hwhole := hread entries payload [] h hfits
    rwa [List.append_nil, if_pos rfl] at hwhole
  · obtain ⟨hfits', hresult⟩ := hvalues entries entries' hsame hfits
    have hwhole := hread entries' payload' [] h' hfits'
    rwa [List.append_nil, if_pos rfl, hresult] at hwhole
  · rw [hread entries payload suffix h hfits, if_neg hsuffix]

theorem readCredential_exactly (limits : FieldLimits) {entries : List (String × Item)}
    {payload : Bytes} (h : SpellsMap entries payload) (htext : TextUnder credentialFields entries) :
    ReadExactly (readCredential limits) credentialFields entries payload
      (CredentialTexts.check limits ⟨lastText certificatePemField entries,
        lastText certificateIdField entries, lastText ownershipTokenField entries⟩) := by
  refine readExactly_of_values
    (fun _ _ suffix h htext => readCredential_spelled limits htext h suffix)
    (fun entries entries' hsame htext => ⟨fun key hkey v hv => ?_, ?_⟩) h htext
  · rw [hsame key hkey] at hv
    exact htext key hkey v hv
  · have hlast : ∀ key ∈ credentialFields, lastText key entries' = lastText key entries := by
      intro key hkey
      rw [lastText, lastUnder, hsame key hkey]
      rfl
    rw [hlast certificatePemField (by decide), hlast certificateIdField (by decide),
      hlast ownershipTokenField (by decide)]

theorem readRegistration_exactly (limits : FieldLimits) {entries : List (String × Item)}
    {payload : Bytes} (h : SpellsMap entries payload) (hname : TextUnder [thingNameField] entries)
    (hmap : MapUnder configurationField entries) :
    ReadExactly (readRegistration limits) registrationFields entries payload
      (checkRegistration limits (lastText thingNameField entries) (configuration entries)) := by
  refine readExactly_of_values
    (P := fun entries => TextUnder [thingNameField] entries ∧ MapUnder configurationField entries)
    (fun _ _ suffix h hfits => readRegistration_spelled limits hfits.1 hfits.2 h suffix)
    (fun entries entries' hsame hfits => ?_) h ⟨hname, hmap⟩
  obtain ⟨hname, hmap⟩ := hfits
  have hthing : valuesUnder thingNameField entries' = valuesUnder thingNameField entries :=
    hsame _ (by decide)
  have hconfiguration : valuesUnder configurationField entries' =
      valuesUnder configurationField entries := hsame _ (by decide)
  refine ⟨⟨fun key hkey v hv => ?_, fun v hv => ?_⟩, ?_⟩
  · obtain rfl := List.mem_singleton.1 hkey
    rw [hthing] at hv
    exact hname _ hkey v hv
  · rw [hconfiguration] at hv
    exact hmap v hv
  · simp only [lastText, configuration, lastUnder, hthing, hconfiguration]

theorem get?_configuration (entries : List (String × Item)) (key : String) :
    (configuration entries).get? key =
      lastUnder key ((lastUnder configurationField entries).elim [] Item.texts) := by
  rw [configuration]
  cases lastUnder configurationField entries with
  | none => rfl
  | some item => exact TextMap.get?_ofList item.texts key

/-- The credential that a response carries, if the values under its three fields are texts, and the
registration, if the name is a text and the configuration a map of entries. Of several values under
one key the last one counts. In the configuration that is the last one that is a text. -/
theorem responses_read (limits : FieldLimits) {entries : List (String × Item)} {payload : Bytes}
    (h : SpellsMap entries payload) :
    (TextUnder credentialFields entries →
      ReadExactly (readCredential limits) credentialFields entries payload
        (CredentialTexts.check limits ⟨lastText certificatePemField entries,
          lastText certificateIdField entries, lastText ownershipTokenField entries⟩)) ∧
    (TextUnder [thingNameField] entries → MapUnder configurationField entries →
      ReadExactly (readRegistration limits) registrationFields entries payload
          (checkRegistration limits (lastText thingNameField entries) (configuration entries)) ∧
        ∀ key, (configuration entries).get? key =
          lastUnder key ((lastUnder configurationField entries).elim [] Item.texts)) :=
  ⟨readCredential_exactly limits h, fun hname hmap =>
    ⟨readRegistration_exactly limits h hname hmap, get?_configuration entries⟩⟩

/-- The texts of a credential and of a registration, with an outdated certificate. -/
def answerTexts : List (String × String) :=
  [(certificatePemField, "old"), (certificateIdField, "id"), (ownershipTokenField, "token"),
    (certificatePemField, "new"), (thingNameField, "thing")]

def modes : List (String × Item) := [("mode", .text (utf8 "on")), ("mode", .atom .unsigned 3)]

/-- They come behind something that nobody asks for, and a configuration with a number in it. -/
def answerEntries : List (String × Item) :=
  ("extra", .tag 24 (.array [.atom .negative 300])) :: (configurationField, .ofEntries modes) ::
    answerTexts.map fun e => (e.1, .text (utf8 e.2))

theorem answerEntries_spelled : ∃ payload, SpellsMap answerEntries payload := by
  have htexts : Spells _ (answerTexts.flatMap writeEntry) := spells_writeEntries (by decide)
  have hnumber : Spells (.atom .unsigned 3 :: _) _ := spells_head (by decide) htexts
  have hmodes : Spells (.text (utf8 "mode") :: .text (utf8 "on") :: .text (utf8 "mode") :: _) _ :=
    spells_head (by decide) (spells_head (by decide) (spells_head (by decide) hnumber))
  have hmap : Spells (.text (utf8 configurationField) :: .ofEntries modes :: _) _ :=
    spells_head (by decide) (spells_head (by decide) hmodes)
  -- The argument stands in eight bytes, and needs two.
  have hnegative : Spells (.atom .negative 300 :: _) _ :=
    .cons (.long 3 (by decide) (by decide)) hmap
  have hextra : Spells (.text (utf8 "extra") :: .tag 24 (.array [.atom .negative 300]) :: _) _ :=
    spells_head (by decide) (spells_head (by decide) (spells_head (by decide) hnegative))
  have hspells : Spells [.ofEntries answerEntries] _ := spells_head (by decide) hextra
  refine ⟨_, ?_, hspells, by decide⟩
  have hatom (kind : Atom) (n : Nat) : (Item.atom kind n).Utf8 := by
    cases kind <;> exact ⟨nofun, nofun⟩
  intro e he
  obtain rfl | rfl | ⟨t, -, rfl⟩ : e = ("extra", .tag 24 (.array [.atom .negative 300])) ∨
      e = (configurationField, .ofEntries modes) ∨
        ∃ t ∈ answerTexts, (t.1, .text (utf8 t.2)) = e := by
    simpa [answerEntries] using he
  · refine ⟨nofun, List.forall_mem_singleton.2 ⟨nofun, List.forall_mem_singleton.2 (hatom _ _)⟩⟩
  · refine ⟨nofun, ?_⟩
    simp [Item.ofEntries, Item.inner, modes, Item.utf8_text, hatom]
  · exact Item.utf8_text t.2

theorem answerEntries_read :
    ∃ payload, SpellsMap answerEntries payload ∧ TextUnder credentialFields answerEntries ∧
      TextUnder [thingNameField] answerEntries ∧ MapUnder configurationField answerEntries ∧
      ReadExactly (readCredential .standard) credentialFields answerEntries payload
        (.ok ⟨"new", "id", "token"⟩) ∧
      ReadExactly (readRegistration .standard) registrationFields answerEntries payload
        (.ok ⟨"thing", configuration answerEntries⟩) ∧
      (configuration answerEntries).get? "mode" = some "on" := by
  obtain ⟨payload, h⟩ := answerEntries_spelled
  have htext : TextUnder credentialFields answerEntries := by
    simp [TextUnder, credentialFields, valuesUnder, answerEntries, answerTexts, certificatePemField,
      certificateIdField, ownershipTokenField, configurationField, thingNameField]
  have hname : TextUnder [thingNameField] answerEntries := by
    simp [TextUnder, valuesUnder, answerEntries, answerTexts, certificatePemField,
      certificateIdField, ownershipTokenField, configurationField, thingNameField]
  have hmap : MapUnder configurationField answerEntries :=
    List.forall_mem_singleton.2 ⟨modes, rfl⟩
  have hread := responses_read .standard h
  exact ⟨payload, h, htext, hname, hmap, hread.1 htext, (hread.2 hname hmap).1,
    (hread.2 hname hmap).2 "mode"⟩

/-- The entries that say a credential. -/
def credentialTexts (c : Credential) : List (String × String) :=
  [(certificatePemField, c.certificatePem), (certificateIdField, c.certificateId),
    (ownershipTokenField, c.ownershipToken)]

def illFormedEntries : List (String × Item) :=
  ("x", .text [0xff]) ::
    (credentialTexts ⟨"pem", "id", "token"⟩).map fun e => (e.1, .text (utf8 e.2))

def illFormedPayload : Bytes :=
  writeMapHead 4 ++ writeText "x" ++ [firstByte majorText 1, 0xff] ++
    (credentialTexts ⟨"pem", "id", "token"⟩).flatMap writeEntry

/-- A value that nobody asks for is well-formed, but that its text is not in UTF-8. The credential
is there, and is not read. -/
theorem unasked_text_refused :
    Spells [.ofEntries illFormedEntries] illFormedPayload ∧ illFormedPayload.length < 100 ∧
      TextUnder credentialFields illFormedEntries ∧
      CredentialTexts.check .standard ⟨lastText certificatePemField illFormedEntries,
        lastText certificateIdField illFormedEntries,
        lastText ownershipTokenField illFormedEntries⟩ = .ok ⟨"pem", "id", "token"⟩ ∧
      readCredential .standard illFormedPayload = .error (.cbor (.invalidUtf8 3)) := by
  have htexts : Spells _ ((credentialTexts ⟨"pem", "id", "token"⟩).flatMap writeEntry) :=
    spells_writeEntries (by decide)
  have hextra : Spells (.text (utf8 "x") :: .text [0xff] :: _) _ :=
    spells_head (by decide) (spells_head (by decide) htexts)
  have hspells : Spells [.ofEntries illFormedEntries] illFormedPayload :=
    spells_head (by decide) hextra
  refine ⟨hspells, by decide, ?_, by rfl, by rfl⟩
  simp [TextUnder, credentialFields, valuesUnder, illFormedEntries, credentialTexts,
    certificatePemField, certificateIdField, ownershipTokenField]

end Payload.Binary

end Enrolment
