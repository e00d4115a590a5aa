import Enrolment.Payload.Standard
import Enrolment.Proofs.Rejection
import Enrolment.Proofs.Values

/-!
# Enrolment.Proofs.Formats

The responses that both payload formats can express. Such a response is an object of `Value`s, in
which no key stands twice, and each format has many payloads for it: lengths and arguments of any
width, blanks and escapes anywhere. What is read is a function of the object, and the same one for
every payload of either format.

* `responses_agree`: credentials, registrations and rejections.
-/

namespace Enrolment

open Cbor

/-! ## Renderings -/

namespace Value

mutual

/-- The item of definite length that stands for a value. -/
def item : Value → Cbor.Item
  | null => .atom .special 22
  | boolean b => .atom .special (if b then 21 else 20)
  | unsigned n => .atom .unsigned n.toNat
  | negative n => .atom .negative n.toNat
  | text s => .text (utf8 s)
  | list vs => .array (items vs)
  | object members => .ofEntries (itemEntries members)

def items : List Value → List Cbor.Item
  | [] => []
  | v :: rest => v.item :: items rest

def itemEntries : List (String × Value) → List (String × Cbor.Item)
  | [] => []
  | (key, v) :: rest => (key, v.item) :: itemEntries rest

end

mutual

/-- How deep containers are nested in a value. -/
def depth : Value → Nat
  | list vs => depths vs + 1
  | object members => memberDepths members + 1
  | _ => 0

def depths : List Value → Nat
  | [] => 0
  | v :: rest => max v.depth (depths rest)

def memberDepths : List (String × Value) → Nat
  | [] => 0
  | (_, v) :: rest => max v.depth (memberDepths rest)

end

theorem itemEntries_eq_map (members : List (String × Value)) :
    itemEntries members = members.map fun m => (m.1, m.2.item) := by
  induction members with
  | nil => rfl
  | cons m rest ih => rw [itemEntries, ih, List.map_cons]

theorem entries_eq_map (members : List (String × Value)) :
    entries members = members.map fun m => (some m.1, m.2.document) := by
  induction members with
  | nil => rfl
  | cons m rest ih => rw [entries, ih, List.map_cons]

mutual

theorem item_utf8 : (v : Value) → v.item.Utf8
  | null | boolean _ | unsigned _ | negative _ => by
    rw [item]
    exact .mk nofun nofun
  | text s => by
    rw [item]
    exact Cbor.Item.utf8_text s
  | list vs => by
    rw [item]
    exact .mk nofun (items_utf8 vs)
  | object members => by
    rw [item]
    exact Cbor.Item.utf8_ofEntries (itemEntries_utf8 members)

theorem items_utf8 : (vs : List Value) → ∀ i ∈ items vs, i.Utf8
  | [] => nofun
  | v :: rest => List.forall_mem_cons.2 ⟨item_utf8 v, items_utf8 rest⟩

theorem itemEntries_utf8 : (members : List (String × Value)) → ∀ e ∈ itemEntries members, e.2.Utf8
  | [] => nofun
  | (_, v) :: rest => List.forall_mem_cons.2 ⟨item_utf8 v, itemEntries_utf8 rest⟩

end

mutual

theorem keepable_document {allowance : Nat} :
    (v : Value) → v.depth ≤ allowance → v.document.keepable allowance
  | null, _ | boolean _, _ | unsigned _, _ | text _, _ => rfl
  | negative n, _ => by
    rw [document]
    split <;> rfl
  | list vs, h => by
    rw [depth] at h
    rw [document, Document.keepable, keepable_documents vs (Nat.le_sub_one_of_lt h)]
    simp
    omega
  | object members, h => by
    rw [depth] at h
    rw [document, Document.keepable, keepable_entries members (Nat.le_sub_one_of_lt h)]
    simp
    omega

theorem keepable_documents {allowance : Nat} :
    (vs : List Value) → depths vs ≤ allowance →
      Document.keepableItems allowance (documents vs)
  | [], _ => rfl
  | v :: rest, h => by
    rw [depths, Nat.max_le] at h
    rw [documents, Document.keepableItems, keepable_document v h.1, keepable_documents rest h.2]
    rfl

theorem keepable_entries {allowance : Nat} :
    (members : List (String × Value)) → memberDepths members ≤ allowance →
      Document.keepableEntries allowance (entries members)
  | [], _ => rfl
  | (_, v) :: rest, h => by
    rw [memberDepths, Nat.max_le] at h
    rw [entries, Document.keepableEntries, keepable_document v h.1, keepable_entries rest h.2]
    rfl

end

def unsigned? : Value → Option Nat
  | unsigned n => some n.toNat
  | _ => none

/-- The text members of an object. -/
def texts : Value → List (String × String)
  | object members => members.filterMap fun m => m.2.text?.map (m.1, ·)
  | _ => []

end Value

namespace Payload

/-- The payload says the value in a format. The lengths in a binary payload are numbers below
`2^64`. -/
def Renders : PayloadFormat → Value → Bytes → Prop
  | .cbor, v, payload => Cbor.Spells [v.item] payload ∧ payload.length < 0x10000000000000000
  | .json, v, payload => Json.SpellsPadded v payload

/-! ## Members -/

variable {members : List (String × Value)}

/-- The values under some keys are texts. -/
def TextMembers (keys : List String) (members : List (String × Value)) : Prop :=
  ∀ key ∈ keys, ∀ v, (key, v) ∈ members → ∃ s, v = .text s

theorem textMembers_of_values {keys : List String}
    (h : ∀ key ∈ keys, ∀ v ∈ valuesUnder key members, v.text?.isSome) :
    TextMembers keys members := by
  intro key hkey v hv
  have hsome := h key hkey v (mem_valuesUnder.2 hv)
  cases v with
  | text s => exact ⟨s, rfl⟩
  | _ => cases hsome

def textUnder (key : String) (members : List (String × Value)) : Option String :=
  (lastUnder key members).elim none Value.text?

/-- An object in which no key stands twice, nested no deeper than a configuration may be. -/
def IsConfiguration (v : Value) : Prop :=
  ∃ inner, v = .object inner ∧ (inner.map Prod.fst).Nodup ∧
    ∀ m ∈ inner, m.2.depth ≤ Textual.configurationDepth

/-- The texts of the configuration, or none at all. -/
def configurationOf (members : List (String × Value)) : TextMap :=
  (lastUnder configurationField members).elim .empty fun v => .ofList v.texts

/-- An unsigned integer of sixteen bits. -/
def IsStatus (v : Value) : Prop := ∃ n : UInt64, v = .unsigned n ∧ n.toNat < 0x10000

/-- What the members say about the reason of a rejection. -/
def rejectionOf (members : List (String × Value)) : Rejection where
  status := (lastUnder statusField members).elim none Value.unsigned?
  code := textUnder errorCodeField members
  message := textUnder errorMessageField members

/-! ## Binary payloads -/

namespace Binary

theorem spellsMap_of_renders {payload : Bytes} (h : Renders .cbor (.object members) payload) :
    SpellsMap (Value.itemEntries members) payload := by
  obtain ⟨hspells, hsize⟩ := h
  exact ⟨Value.itemEntries_utf8 members, hspells, hsize⟩

theorem lastUnder_itemEntries (key : String) :
    lastUnder key (Value.itemEntries members) = (lastUnder key members).map Value.item := by
  rw [Value.itemEntries_eq_map]
  exact lastUnder_map Value.item members

theorem text?_item (v : Value) : v.item.text? = v.text? := by
  cases v <;> simp [Value.item, Item.text?, Value.text?, Item.ofEntries]

theorem lastText_itemEntries (key : String) :
    lastText key (Value.itemEntries members) = textUnder key members := by
  rw [lastText, lastUnder_itemEntries, textUnder]
  cases lastUnder key members with
  | none => rfl
  | some v => exact text?_item v

theorem textUnder_itemEntries {keys : List String} (h : TextMembers keys members) :
    TextUnder keys (Value.itemEntries members) := by
  intro key hkey item hitem
  rw [Value.itemEntries_eq_map, mem_valuesUnder] at hitem
  obtain ⟨m, hm, he⟩ := List.mem_map.1 hitem
  cases he
  obtain ⟨s, hs⟩ := h m.1 hkey m.2 hm
  exact ⟨utf8 s, by rw [hs, Value.item]⟩

theorem texts_item (inner : List (String × Value)) :
    (Value.object inner).item.texts = (Value.object inner).texts := by
  rw [Value.item, Value.texts, Value.itemEntries_eq_map, Item.ofEntries, Item.texts,
    List.filterMap_map, List.filterMap_map]
  refine List.filterMap_congr fun m _ => ?_
  have hkey : (Item.text (utf8 m.1)).text? = some m.1 := Bytes.text?_utf8 m.1
  simp only [Function.comp_apply, hkey, text?_item]
  cases m.2.text? <;> rfl

theorem mapUnder_itemEntries
    (h : ∀ v, (configurationField, v) ∈ members → IsConfiguration v) :
    MapUnder configurationField (Value.itemEntries members) := by
  intro item hitem
  rw [Value.itemEntries_eq_map, mem_valuesUnder] at hitem
  obtain ⟨⟨key, v⟩, hm, he⟩ := List.mem_map.1 hitem
  obtain ⟨rfl, rfl⟩ := Prod.mk.inj he
  obtain ⟨inner, hinner, -⟩ := h v hm
  exact ⟨Value.itemEntries inner, by rw [hinner, Value.item]⟩

theorem configuration_itemEntries
    (h : ∀ v, (configurationField, v) ∈ members → IsConfiguration v) :
    configuration (Value.itemEntries members) = configurationOf members := by
  rw [configuration, lastUnder_itemEntries, configurationOf]
  cases hlast : lastUnder configurationField members with
  | none => rfl
  | some v =>
    obtain ⟨inner, rfl, -⟩ := h v (mem_of_lastUnder hlast)
    exact congrArg TextMap.ofList (texts_item inner)

theorem unsignedUnder_itemEntries (h : ∀ v, (statusField, v) ∈ members → IsStatus v) :
    UnsignedUnder statusField (Value.itemEntries members) := by
  intro item hitem
  rw [Value.itemEntries_eq_map, mem_valuesUnder] at hitem
  obtain ⟨⟨key, v⟩, hm, he⟩ := List.mem_map.1 hitem
  obtain ⟨rfl, rfl⟩ := Prod.mk.inj he
  obtain ⟨n, rfl, -⟩ := h v hm
  exact ⟨n.toNat, by rw [Value.item]⟩

theorem status_itemEntries (h : ∀ v, (statusField, v) ∈ members → IsStatus v) :
    (lastUnder statusField (Value.itemEntries members)).elim none word? =
      (lastUnder statusField members).elim none Value.unsigned? := by
  rw [lastUnder_itemEntries]
  cases hlast : lastUnder statusField members with
  | none => rfl
  | some v =>
    obtain ⟨n, rfl, hn⟩ := h v (mem_of_lastUnder hlast)
    simp [Value.item, word?, hn, Value.unsigned?]

theorem readCredential_renders (limits : FieldLimits)
    (htext : TextMembers credentialFields members) {payload : Bytes}
    (h : Renders .cbor (.object members) payload) :
    readCredential limits payload = CredentialTexts.check limits
      ⟨textUnder certificatePemField members, textUnder certificateIdField members,
        textUnder ownershipTokenField members⟩ := by
  have hread := readCredential_exactly limits (spellsMap_of_renders h) (textUnder_itemEntries htext)
  simpa only [lastText_itemEntries] using hread.whole

theorem readRegistration_renders (limits : FieldLimits)
    (htext : TextMembers [thingNameField] members)
    (hconfiguration : ∀ v, (configurationField, v) ∈ members → IsConfiguration v)
    {payload : Bytes} (h : Renders .cbor (.object members) payload) :
    readRegistration limits payload =
      checkRegistration limits (textUnder thingNameField members) (configurationOf members) := by
  have hread := readRegistration_exactly limits (spellsMap_of_renders h)
    (textUnder_itemEntries htext) (mapUnder_itemEntries hconfiguration)
  simpa only [lastText_itemEntries, configuration_itemEntries hconfiguration] using hread.whole

theorem readRejection_renders (hstatus : ∀ v, (statusField, v) ∈ members → IsStatus v)
    (htext : TextMembers reasonFields members) {payload : Bytes}
    (h : Renders .cbor (.object members) payload) :
    readRejection payload = some (rejectionOf members) := by
  have hread := readRejection_spelled (unsignedUnder_itemEntries hstatus)
    (textUnder_itemEntries htext) (spellsMap_of_renders h) []
  rwa [List.append_nil, lastText_itemEntries, lastText_itemEntries, status_itemEntries hstatus]
    at hread

end Binary

/-! ## Textual payloads -/

namespace Textual

/-- What an object holds for a field. -/
def slotOf (members : List (String × Value)) (key : String) : Document.Slot :=
  (lastUnder key members).elim .absent fun v => .given v.document

theorem slotNamed_entries (hkeys : (members.map Prod.fst).Nodup) (key : String) :
    Document.slotNamed (Value.entries members) key = some (slotOf members key) := by
  have hvalues : (members.filter fun m => m.1 = key).map Prod.snd =
      (lastUnder key members).toList := valuesUnder_of_nodup hkeys
  have hfilter : (Value.entries members).filter (fun e => e.1 == some key) =
      (members.filter fun m => m.1 = key).map fun m => (some m.1, m.2.document) := by
    rw [Value.entries_eq_map, List.filter_map]
    simp only [Function.comp_def, beq_eq_decide, Option.some.injEq]
  rw [Document.slotNamed, hfilter, slotOf]
  cases hlast : lastUnder key members with
  | none =>
    rw [hlast, Option.toList_none, List.map_eq_nil_iff] at hvalues
    rw [hvalues]
    rfl
  | some v =>
    rw [hlast, Option.toList_some, List.map_eq_singleton_iff] at hvalues
    obtain ⟨m, hm, rfl⟩ := hvalues
    rw [hm]
    rfl

theorem slots_document (hkeys : (members.map Prod.fst).Nodup) (keys : List String) :
    (Value.object members).document.slots Json.form keys = some (keys.map (slotOf members)) := by
  have hall : (Value.entries members).all fun e => e.1.isSome := by
    rw [Value.entries_eq_map]
    simp
  rw [Value.document, Document.slots, if_pos hall]
  induction keys with
  | nil => rfl
  | cons key rest ih =>
    rw [List.mapM_cons, slotNamed_entries hkeys, ih]
    rfl

theorem optional_text {key : String} (h : ∀ v, (key, v) ∈ members → ∃ s, v = .text s) :
    (slotOf members key).optional Document.text? = some (textUnder key members) := by
  rw [slotOf, textUnder]
  cases hlast : lastUnder key members with
  | none => rfl
  | some v =>
    obtain ⟨s, rfl⟩ := h v (mem_of_lastUnder hlast)
    rfl

theorem orElse_text {key : String} (h : ∀ v, (key, v) ∈ members → ∃ s, v = .text s) :
    (slotOf members key).orElse none (Document.orNull Document.text?) =
      some (textUnder key members) := by
  rw [slotOf, textUnder]
  cases hlast : lastUnder key members with
  | none => rfl
  | some v =>
    obtain ⟨s, rfl⟩ := h v (mem_of_lastUnder hlast)
    rfl

theorem entries?_document (inner : List (String × Value)) :
    (Value.object inner).document.entries? = some (inner.map fun m => (m.1, m.2.document)) := by
  rw [Value.document, Document.entries?]
  induction inner with
  | nil => rfl
  | cons m rest ih =>
    rw [Value.entries, List.mapM_cons, ih]
    rfl

theorem lastEntries_of_nodup {entries : List (String × Document)}
    (h : (entries.map Prod.fst).Nodup) : lastEntries entries = entries := by
  induction entries with
  | nil => rfl
  | cons e rest ih =>
    obtain ⟨hfirst, hrest⟩ := List.nodup_cons.1 h
    have hnone : ¬ rest.any (·.1 == e.1) := by
      simp only [List.any_eq_true, beq_iff_eq, not_exists, not_and]
      exact fun e' he' hkey => hfirst (hkey ▸ List.mem_map_of_mem he')
    rw [lastEntries, if_neg hnone, ih hrest]

theorem text?_document (v : Value) : v.document.text? = v.text? := by
  cases v with
  | negative n =>
    rw [Value.document]
    split <;> rfl
  | _ => rfl

theorem configuration?_document {v : Value} (h : IsConfiguration v) :
    configuration? v.document = some (.ofList v.texts) := by
  obtain ⟨inner, rfl, hkeys, hdepth⟩ := h
  have hkeepable : (inner.map fun m => (m.1, m.2.document)).all fun e =>
      e.2.keepable configurationDepth := by
    simp only [List.all_map, List.all_eq_true]
    exact fun m hm => Value.keepable_document m.2 (hdepth m hm)
  have hlast : lastEntries (inner.map fun m => (m.1, m.2.document)) =
      inner.map fun m => (m.1, m.2.document) := by
    refine lastEntries_of_nodup ?_
    rwa [List.map_map]
  rw [configuration?, entries?_document]
  simp only [Option.bind_eq_bind, Option.bind_some, if_pos hkeepable, hlast, List.filterMap_map,
    Function.comp_def, text?_document]
  rfl

theorem orElse_configuration (h : ∀ v, (configurationField, v) ∈ members → IsConfiguration v) :
    (slotOf members configurationField).orElse .empty configuration? =
      some (configurationOf members) := by
  rw [slotOf, configurationOf]
  cases hlast : lastUnder configurationField members with
  | none => rfl
  | some v => exact configuration?_document (h v (mem_of_lastUnder hlast))

theorem readCredential_renders (limits : FieldLimits) (hkeys : (members.map Prod.fst).Nodup)
    (htext : TextMembers Binary.credentialFields members) {payload : Bytes}
    (h : Renders .json (.object members) payload) :
    readCredential limits payload = CredentialTexts.check limits
      ⟨textUnder certificatePemField members, textUnder certificateIdField members,
        textUnder ownershipTokenField members⟩ := by
  have htexts : credentialTexts? payload = some ⟨textUnder certificatePemField members,
      textUnder certificateIdField members, textUnder ownershipTokenField members⟩ := by
    simp [credentialTexts?, Json.read?_spelled h, slots_document hkeys,
      optional_text (htext certificatePemField (by decide)),
      optional_text (htext certificateIdField (by decide)),
      optional_text (htext ownershipTokenField (by decide))]
  rw [readCredential, htexts]

theorem readRegistration_renders (limits : FieldLimits) (hkeys : (members.map Prod.fst).Nodup)
    (htext : TextMembers [thingNameField] members)
    (hconfiguration : ∀ v, (configurationField, v) ∈ members → IsConfiguration v)
    {payload : Bytes} (h : Renders .json (.object members) payload) :
    readRegistration limits payload =
      checkRegistration limits (textUnder thingNameField members) (configurationOf members) := by
  have hparts : registrationParts? payload =
      some (textUnder thingNameField members, configurationOf members) := by
    simp [registrationParts?, Json.read?_spelled h, slots_document hkeys,
      optional_text (htext thingNameField (by decide)), orElse_configuration hconfiguration]
  rw [readRegistration, hparts]

theorem orElse_status (h : ∀ v, (statusField, v) ∈ members → IsStatus v) :
    (slotOf members statusField).orElse none (Document.orNull (Document.natUpTo? maxStatus)) =
      some ((lastUnder statusField members).elim none Value.unsigned?) := by
  rw [slotOf]
  cases hlast : lastUnder statusField members with
  | none => rfl
  | some v =>
    obtain ⟨n, rfl, hn⟩ := h v (mem_of_lastUnder hlast)
    have hmax : n.toNat ≤ maxStatus := Nat.le_of_lt_succ hn
    simp [Document.Slot.orElse, Value.document, Document.orNull, Document.natUpTo?, hmax,
      Value.unsigned?]

theorem readRejection_renders (hkeys : (members.map Prod.fst).Nodup)
    (hstatus : ∀ v, (statusField, v) ∈ members → IsStatus v)
    (htext : TextMembers Binary.reasonFields members) {payload : Bytes}
    (h : Renders .json (.object members) payload) :
    readRejection payload = some (rejectionOf members) := by
  simp [readRejection, Json.read?_spelled h, slots_document hkeys, orElse_status hstatus,
    orElse_text (htext errorCodeField (by decide)),
    orElse_text (htext errorMessageField (by decide)), rejectionOf]

end Textual

/-- A response is read to the same result in both formats, by every codec of these formats. -/
theorem responses_agree (limits : FieldLimits) (hkeys : (members.map Prod.fst).Nodup)
    {binary textual : Bytes} (hbinary : Renders .cbor (.object members) binary)
    (htextual : Renders .json (.object members) textual) :
    (TextMembers Binary.credentialFields members →
      (Codec.standard limits .cbor).readCredential binary =
          (Codec.standard limits .json).readCredential textual ∧
        (Codec.standard limits .json).readCredential textual = CredentialTexts.check limits
          ⟨textUnder certificatePemField members, textUnder certificateIdField members,
            textUnder ownershipTokenField members⟩) ∧
    (TextMembers [thingNameField] members →
      (∀ v, (configurationField, v) ∈ members → IsConfiguration v) →
      (Codec.standard limits .cbor).readRegistration binary =
          (Codec.standard limits .json).readRegistration textual ∧
        (Codec.standard limits .json).readRegistration textual =
          checkRegistration limits (textUnder thingNameField members)
            (configurationOf members)) ∧
    ((∀ v, (statusField, v) ∈ members → IsStatus v) →
      TextMembers Binary.reasonFields members →
      (Codec.standard limits .cbor).readRejection binary =
          (Codec.standard limits .json).readRejection textual ∧
        (Codec.standard limits .json).readRejection textual = some (rejectionOf members)) := by
  refine ⟨fun htext => ?_, fun htext hconfiguration => ?_, fun hstatus htext => ?_⟩
  · have hread := Textual.readCredential_renders limits hkeys htext htextual
    exact ⟨(Binary.readCredential_renders limits htext hbinary).trans hread.symm, hread⟩
  · have hread := Textual.readRegistration_renders limits hkeys htext hconfiguration htextual
    exact ⟨(Binary.readRegistration_renders limits htext hconfiguration hbinary).trans hread.symm,
      hread⟩
  · have hread := Textual.readRejection_renders hkeys hstatus htext htextual
    exact ⟨(Binary.readRejection_renders hstatus htext hbinary).trans hread.symm, hread⟩

/-- The texts that the readers ask for, one with a quote and a line end. -/
def mixedTexts : List (String × String) :=
  [(certificatePemField, "a\n\"b\""), (certificateIdField, "id"), (ownershipTokenField, "token"),
    (thingNameField, "thing"), (errorCodeField, "Forbidden")]

/-- They come behind a configuration with a number in it, a status, and something that nobody asks
for. -/
def mixedMembers : List (String × Value) :=
  ("extra", .list [.boolean true, .negative 0]) ::
    (configurationField, .object [("mode", .text "on"), ("level", .unsigned 3)]) ::
    (statusField, .unsigned 404) :: mixedTexts.map fun e => (e.1, .text e.2)

theorem mixedMembers_rendered : ∃ binary, Renders .cbor (.object mixedMembers) binary := by
  have htexts : Spells _ (mixedTexts.flatMap Cbor.writeEntry) := spells_writeEntries (by decide)
  have hstatus : Spells (.text (utf8 statusField) :: .atom .unsigned 404 :: _) _ :=
    spells_head (by decide) (spells_head (by decide) htexts)
  have hlevel : Spells (.text (utf8 "level") :: .atom .unsigned 3 :: _) _ :=
    spells_head (by decide) (spells_head (by decide) hstatus)
  have hmode : Spells (.text (utf8 "mode") :: .text (utf8 "on") :: _) _ :=
    spells_head (by decide) (spells_head (by decide) hlevel)
  have hmap : Spells (.text (utf8 configurationField) ::
      (Value.object [("mode", .text "on"), ("level", .unsigned 3)]).item :: _) _ :=
    spells_head (by decide) (spells_head (by decide) hmode)
  have hitems : Spells (.atom .special 21 :: .atom .negative 0 :: _) _ :=
    spells_head (by decide) (spells_head (by decide) hmap)
  have hextra : Spells (.text (utf8 "extra") ::
      (Value.list [.boolean true, .negative 0]).item :: _) _ :=
    spells_head (by decide) (spells_head (by decide) hitems)
  have hspells : Spells [(Value.object mixedMembers).item] _ := spells_head (by decide) hextra
  exact ⟨_, hspells, by decide +kernel⟩

theorem mixedMembers_agree :
    ∃ binary textual, Renders .cbor (.object mixedMembers) binary ∧
      Renders .json (.object mixedMembers) textual ∧
      (Codec.standard .standard .cbor).readCredential binary = .ok ⟨"a\n\"b\"", "id", "token"⟩ ∧
      (Codec.standard .standard .json).readCredential textual = .ok ⟨"a\n\"b\"", "id", "token"⟩ ∧
      (Codec.standard .standard .cbor).readRegistration binary =
        .ok ⟨"thing", .ofList [("mode", "on")]⟩ ∧
      (Codec.standard .standard .json).readRegistration textual =
        .ok ⟨"thing", .ofList [("mode", "on")]⟩ ∧
      (Codec.standard .standard .cbor).readRejection binary =
        some ⟨some 404, some "Forbidden", none⟩ ∧
      (Codec.standard .standard .json).readRejection textual =
        some ⟨some 404, some "Forbidden", none⟩ := by
  obtain ⟨binary, hbinary⟩ := mixedMembers_rendered
  obtain ⟨textual, htextual⟩ := Json.exists_spells (.object mixedMembers)
  have hrendered : Renders .json (.object mixedMembers) textual := htextual.padded
  have hkeys : (mixedMembers.map Prod.fst).Nodup := by decide
  have hcredential : TextMembers Binary.credentialFields mixedMembers :=
    textMembers_of_values (by decide)
  have hname : TextMembers [thingNameField] mixedMembers := textMembers_of_values (by decide)
  have hreason : TextMembers Binary.reasonFields mixedMembers := textMembers_of_values (by decide)
  have hconfiguration : ∀ v, (configurationField, v) ∈ mixedMembers → IsConfiguration v := by
    intro v hv
    have hvalues : valuesUnder configurationField mixedMembers =
        [.object [("mode", .text "on"), ("level", .unsigned 3)]] := by rfl
    rw [← mem_valuesUnder, hvalues, List.mem_singleton] at hv
    exact ⟨_, hv, by decide, by simp [Value.depth]⟩
  have hstatus : ∀ v, (statusField, v) ∈ mixedMembers → IsStatus v := by
    intro v hv
    have hvalues : valuesUnder statusField mixedMembers = [.unsigned 404] := by rfl
    rw [← mem_valuesUnder, hvalues, List.mem_singleton] at hv
    exact ⟨404, hv, by decide⟩
  obtain ⟨hcredentials, hregistrations, hrejections⟩ :=
    responses_agree .standard hkeys hbinary hrendered
  obtain ⟨hcbor, hjson⟩ := hcredentials hcredential
  obtain ⟨hcbor', hjson'⟩ := hregistrations hname hconfiguration
  obtain ⟨hcbor'', hjson''⟩ := hrejections hstatus hreason
  exact ⟨binary, textual, hbinary, hrendered, hcbor.trans hjson, hjson, hcbor'.trans hjson', hjson',
    hcbor''.trans hjson'', hjson''⟩

end Payload

end Enrolment
