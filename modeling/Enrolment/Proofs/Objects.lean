import Enrolment.Payload.Standard
import Enrolment.Proofs.Entries
import Enrolment.Proofs.Grammar
import Enrolment.Proofs.Spelling

/-!
# Enrolment.Proofs.Objects

What an accepted textual response says. It is one JSON text, with nothing but blanks around it, and
what is taken from it stands in it: each field once, as a string that is the text, and of the
configuration the last value under each key, if that is a string.

The text is an object, or a list: a record may also be written as the list of its fields in the
order of their declaration, where a configuration that comes last may be left out.

* `slots_eq_some`: the two ways to write a record.
* `accepted_payloads_say`: both responses.
* `list_accepted`: a list that is read as a credential.
-/

namespace Enrolment

namespace Document

variable {entries : List (String × Document)} {d : Document} {name : String}

/-- Entries with texts as keys, as a table has them. -/
def keyed (entries : List (String × Document)) : List (Option String × Document) :=
  entries.map fun e => (some e.1, e.2)

theorem keyed_of_mapM {es : List (Option String × Document)}
    (h : es.mapM (fun e => e.1.map (·, e.2)) = some entries) : es = keyed entries := by
  induction es generalizing entries with
  | nil =>
    cases h
    rfl
  | cons e rest ih =>
    rw [List.mapM_cons] at h
    obtain ⟨first, hfirst, h⟩ := Option.bind_eq_some_iff.1 h
    obtain ⟨more, hmore, h⟩ := Option.bind_eq_some_iff.1 h
    cases h
    obtain ⟨key, hkey, rfl⟩ := Option.map_eq_some_iff.1 hfirst
    rw [keyed, List.map_cons, ← keyed, ← ih hmore, ← hkey]

theorem entries?_eq_some (h : d.entries? = some entries) : d = .table (keyed entries) := by
  cases d with
  | table es => exact congrArg table (keyed_of_mapM h)
  | _ => cases h

theorem exists_keyed {es : List (Option String × Document)}
    (h : es.all (fun e => e.1.isSome) = true) : ∃ entries, es = keyed entries := by
  induction es with
  | nil => exact ⟨[], rfl⟩
  | cons e rest ih =>
    obtain ⟨key, d⟩ := e
    rw [List.all_cons, Bool.and_eq_true] at h
    obtain ⟨name, hname⟩ := Option.isSome_iff_exists.1 h.1
    obtain ⟨entries, hrest⟩ := ih h.2
    obtain rfl : key = some name := hname
    exact ⟨(name, d) :: entries, by rw [hrest]; rfl⟩

/-- What a table holds under a name, by the values that stand under it. -/
theorem slotNamed_keyed (entries : List (String × Document)) (name : String) :
    slotNamed (keyed entries) name =
      match valuesUnder name entries with
      | [] => some .absent
      | [d] => some (.given d)
      | _ => none := by
  have hfilter : (keyed entries).filter (fun e => e.1 == some name) =
      (entries.filter fun e => e.1 = name).map fun e => (some e.1, e.2) := by
    rw [keyed, List.filter_map]
    simp only [Function.comp_def, beq_eq_decide, Option.some.injEq]
  rw [slotNamed, hfilter, valuesUnder]
  generalize entries.filter (fun e => e.1 = name) = found
  cases found with
  | nil => rfl
  | cons e rest => cases rest <;> rfl

theorem valuesUnder_of_given (h : slotNamed (keyed entries) name = some (.given d)) :
    valuesUnder name entries = [d] := by
  rw [slotNamed_keyed] at h
  split at h <;> cases h
  assumption

theorem valuesUnder_of_absent (h : slotNamed (keyed entries) name = some .absent) :
    valuesUnder name entries = [] := by
  rw [slotNamed_keyed] at h
  split at h <;> cases h
  assumption

theorem slotNamed_ne_cutOff : slotNamed (keyed entries) name ≠ some .cutOff := by
  rw [slotNamed_keyed]
  split <;> simp

theorem map_of_mapM {α β : Type} {f : α → Option β} {as : List α} {bs : List β}
    (h : as.mapM f = some bs) : as.map f = bs.map some := by
  induction as generalizing bs with
  | nil =>
    cases h
    rfl
  | cons a rest ih =>
    rw [List.mapM_cons] at h
    obtain ⟨b, hb, h⟩ := Option.bind_eq_some_iff.1 h
    obtain ⟨more, hmore, h⟩ := Option.bind_eq_some_iff.1 h
    cases h
    rw [List.map_cons, List.map_cons, hb, ih hmore]

theorem slots_eq_some {names : List String} {slots : List Slot}
    (h : d.slots Json.form names = some slots) :
    (∃ entries, d = .table (keyed entries) ∧
      names.map (slotNamed (keyed entries)) = slots.map some) ∨
    ∃ items, d = .list items ∧ items.length ≤ names.length ∧ slotsInOrder names items = slots := by
  cases d with
  | table es =>
    rw [Document.slots] at h
    split at h
    · next hall =>
      obtain ⟨entries, rfl⟩ := exists_keyed hall
      exact .inl ⟨entries, rfl, map_of_mapM h⟩
    · cases h
  | list items =>
    rw [Document.slots] at h
    split at h
    · next hlen =>
      cases h
      exact .inr ⟨items, rfl, by simpa [Json.form] using hlen, rfl⟩
    · cases h
  | _ => cases h

theorem Slot.given_of_optional {slot : Slot} {s : String}
    (h : slot.optional text? = some (some s)) : slot = .given (.text s) := by
  cases slot with
  | given d =>
    cases d <;> cases h
    rfl
  | _ => cases h

end Document

namespace Payload.Textual

open Document

/-- The text is there, and within the limit. -/
def InLimit (limit : Nat) (s : String) : Prop := s ≠ "" ∧ s.utf8ByteSize ≤ limit

/-- The tree is an object in which each field stands once, or the list of the fields. -/
def GivesCredential (c : Credential) (d : Document) : Prop :=
  (∃ entries, d = .table (keyed entries) ∧
    valuesUnder certificatePemField entries = [.text c.certificatePem] ∧
    valuesUnder certificateIdField entries = [.text c.certificateId] ∧
    valuesUnder ownershipTokenField entries = [.text c.ownershipToken]) ∨
  d = .list [.text c.certificatePem, .text c.certificateId, .text c.ownershipToken]

theorem givesCredential_of_slots {c : Credential} {d : Document}
    (h : d.slots Json.form [certificatePemField, certificateIdField, ownershipTokenField] =
      some [.given (.text c.certificatePem), .given (.text c.certificateId),
        .given (.text c.ownershipToken)]) : GivesCredential c d := by
  obtain ⟨entries, rfl, hslots⟩ | ⟨items, rfl, hlen, hslots⟩ := slots_eq_some h
  · simp only [List.map_cons, List.cons.injEq] at hslots
    obtain ⟨hpem, hid, htoken, -⟩ := hslots
    exact .inl ⟨entries, rfl, valuesUnder_of_given hpem, valuesUnder_of_given hid,
      valuesUnder_of_given htoken⟩
  · match items with
    | [] | [_] | [_, _] => cases hslots
    | [_, _, _] =>
      cases hslots
      exact .inr rfl
    | _ :: _ :: _ :: _ :: _ =>
      simp only [List.length_cons, List.length_nil] at hlen
      omega

theorem slots_of_credentialTexts? {payload : Bytes} {pem id token : String}
    (h : credentialTexts? payload = some ⟨some pem, some id, some token⟩) :
    ∃ d, Json.WritesPadded d payload ∧
      d.slots Json.form [certificatePemField, certificateIdField, ownershipTokenField] =
        some [.given (.text pem), .given (.text id), .given (.text token)] := by
  obtain ⟨d, hread, h⟩ := Option.bind_eq_some_iff.1 h
  obtain ⟨slots, hslots, h⟩ := Option.bind_eq_some_iff.1 h
  refine ⟨d, Json.read?_written hread, ?_⟩
  split at h
  · next s₁ s₂ s₃ =>
    obtain ⟨t₁, h₁, h⟩ := Option.bind_eq_some_iff.1 h
    obtain ⟨t₂, h₂, h⟩ := Option.bind_eq_some_iff.1 h
    obtain ⟨t₃, h₃, h⟩ := Option.bind_eq_some_iff.1 h
    cases h
    rw [hslots, Slot.given_of_optional h₁, Slot.given_of_optional h₂, Slot.given_of_optional h₃]
  · cases h

/-! ## Configurations -/

theorem lastUnder_lastEntries (key : String) (entries : List (String × Document)) :
    lastUnder key ((lastEntries entries).filterMap fun e => e.2.text?.map (e.1, ·)) =
      (lastUnder key entries).bind Document.text? := by
  induction entries with
  | nil => rfl
  | cons e rest ih =>
    rw [lastEntries, lastUnder_cons]
    split
    · next hlater =>
      rw [ih]
      by_cases hkey : e.1 = key
      · obtain ⟨later, hmem, hlater⟩ := List.any_eq_true.1 hlater
        have hsome : lastUnder key rest ≠ none := fun hnone =>
          lastUnder_eq_none_iff.1 hnone later.2 (by
            rw [← hkey, ← beq_iff_eq.1 hlater]
            exact hmem)
        obtain ⟨d, hd⟩ := Option.ne_none_iff_exists'.1 hsome
        rw [hd]
        rfl
      · rw [if_neg hkey, Option.or_none]
    · next hlast =>
      by_cases hkey : e.1 = key
      · have hnone : lastUnder key rest = none := by
          refine lastUnder_eq_none_iff.2 fun d hd => hlast ?_
          exact List.any_eq_true.2 ⟨(key, d), hd, beq_iff_eq.2 hkey.symm⟩
        rw [hnone] at ih ⊢
        rw [List.filterMap_cons]
        cases htext : e.2.text? with
        | none => simpa [hkey, htext] using ih
        | some s => simp [lastUnder_cons, ih, hkey, htext]
      · rw [if_neg hkey, Option.or_none, List.filterMap_cons]
        cases htext : e.2.text? with
        | none => exact ih
        | some s => simp [lastUnder_cons, ih, hkey]

/-- What is said about the configuration: nothing, or an object, whose texts it holds. Under each
key the last value counts. -/
def GivesConfiguration (m : TextMap) : Option Document → Prop
  | none => m = .empty
  | some d => ∃ entries, d = .table (keyed entries) ∧
      ∀ key, m.get? key = (lastUnder key entries).bind Document.text?

theorem gives_of_configuration? {d : Document} {m : TextMap} (h : configuration? d = some m) :
    GivesConfiguration m (some d) := by
  obtain ⟨entries, hentries, h⟩ := Option.bind_eq_some_iff.1 h
  split at h
  · cases h
    refine ⟨entries, entries?_eq_some hentries, fun key => ?_⟩
    rw [TextMap.get?_ofList, lastUnder_lastEntries]
  · cases h

theorem gives_of_orElse {slot : Slot} {m : TextMap}
    (h : slot.orElse .empty configuration? = some m) :
    (∃ d, slot = .given d ∧ GivesConfiguration m (some d)) ∨
      ((slot = .absent ∨ slot = .cutOff) ∧ GivesConfiguration m none) := by
  cases slot with
  | given d => exact .inl ⟨d, rfl, gives_of_configuration? h⟩
  | absent =>
    cases h
    exact .inr ⟨.inl rfl, rfl⟩
  | cutOff =>
    cases h
    exact .inr ⟨.inr rfl, rfl⟩

/-- The tree is an object in which the name stands once, and the configuration once at most, or the
list of the two, where the second may be missing. -/
def GivesRegistration (r : Registration) (d : Document) : Prop :=
  ∃ configuration : Option Document, GivesConfiguration r.configuration configuration ∧
    ((∃ entries, d = .table (keyed entries) ∧
      valuesUnder thingNameField entries = [.text r.thingName] ∧
      valuesUnder configurationField entries = configuration.toList) ∨
    d = .list (.text r.thingName :: configuration.toList))

theorem givesRegistration_of_slots {r : Registration} {d : Document} {slot : Slot}
    (h : d.slots Json.form [thingNameField, configurationField] =
      some [.given (.text r.thingName), slot])
    (hslot : slot.orElse .empty configuration? = some r.configuration) : GivesRegistration r d := by
  obtain ⟨entries, rfl, hslots⟩ | ⟨items, rfl, hlen, hslots⟩ := slots_eq_some h
  · simp only [List.map_cons, List.cons.injEq] at hslots
    obtain ⟨hname, hconfiguration, -⟩ := hslots
    have hname := valuesUnder_of_given hname
    obtain ⟨d', rfl, hd⟩ | ⟨rfl | rfl, hd⟩ := gives_of_orElse hslot
    · exact ⟨some _, hd, .inl ⟨entries, rfl, hname, valuesUnder_of_given hconfiguration⟩⟩
    · exact ⟨none, hd, .inl ⟨entries, rfl, hname, valuesUnder_of_absent hconfiguration⟩⟩
    · exact absurd hconfiguration slotNamed_ne_cutOff
  · match items with
    | [] => cases hslots
    | [_] =>
      cases hslots
      obtain ⟨d, hd, -⟩ | ⟨-, hd⟩ := gives_of_orElse hslot
      · cases hd
      · exact ⟨none, hd, .inr rfl⟩
    | [_, _] =>
      cases hslots
      obtain ⟨d, hgiven, hd⟩ | ⟨hnone | hnone, -⟩ := gives_of_orElse hslot
      · cases hgiven
        exact ⟨some _, hd, .inr rfl⟩
      · cases hnone
      · cases hnone
    | _ :: _ :: _ :: _ =>
      simp only [List.length_cons, List.length_nil] at hlen
      omega

theorem slots_of_registrationParts? {payload : Bytes} {name : String} {m : TextMap}
    (h : registrationParts? payload = some (some name, m)) :
    ∃ d slot, Json.WritesPadded d payload ∧ d.slots Json.form [thingNameField, configurationField] =
        some [.given (.text name), slot] ∧ slot.orElse .empty configuration? = some m := by
  obtain ⟨d, hread, h⟩ := Option.bind_eq_some_iff.1 h
  obtain ⟨slots, hslots, h⟩ := Option.bind_eq_some_iff.1 h
  split at h
  · next s₁ s₂ =>
    obtain ⟨t₁, h₁, h⟩ := Option.bind_eq_some_iff.1 h
    obtain ⟨t₂, h₂, h⟩ := Option.bind_eq_some_iff.1 h
    cases h
    rw [Slot.given_of_optional h₁] at hslots
    exact ⟨d, s₂, Json.read?_written hread, hslots, h₂⟩
  · cases h

/-! ## Responses -/

theorem check_eq_ok {limits : FieldLimits} {t : CredentialTexts} {c : Credential}
    (h : t.check limits = .ok c) :
    t = ⟨some c.certificatePem, some c.certificateId, some c.ownershipToken⟩ ∧
      InLimit limits.certificatePem c.certificatePem ∧
      InLimit limits.certificateId c.certificateId ∧
      InLimit limits.ownershipToken c.ownershipToken := by
  obtain ⟨pem, id, token⟩ := t
  obtain ⟨pem', hpem, h⟩ := ok_of_bind h
  obtain ⟨id', hid, h⟩ := ok_of_bind h
  obtain ⟨token', htoken, h⟩ := ok_of_bind h
  cases h
  obtain ⟨rfl, hpem'⟩ := checkText_eq_ok_iff.1 hpem
  obtain ⟨rfl, hid'⟩ := checkText_eq_ok_iff.1 hid
  obtain ⟨rfl, htoken'⟩ := checkText_eq_ok_iff.1 htoken
  exact ⟨rfl, hpem', hid', htoken'⟩

/-- Whatever is read from a textual payload is what the payload says, and is in its limits. -/
theorem accepted_payloads_say (limits : FieldLimits) (payload : Bytes) :
    (∀ c, (Codec.standard limits .json).readCredential payload = .ok c →
      (∃ d, Json.WritesPadded d payload ∧ GivesCredential c d) ∧
        InLimit limits.certificatePem c.certificatePem ∧
        InLimit limits.certificateId c.certificateId ∧
        InLimit limits.ownershipToken c.ownershipToken) ∧
    (∀ r, (Codec.standard limits .json).readRegistration payload = .ok r →
      (∃ d, Json.WritesPadded d payload ∧ GivesRegistration r d) ∧
        InLimit limits.thingName r.thingName) := by
  constructor
  · intro c h
    change readCredential limits payload = .ok c at h
    unfold readCredential at h
    split at h
    · next texts htexts =>
      obtain ⟨rfl, hlimits⟩ := check_eq_ok h
      obtain ⟨d, hwritten, hslots⟩ := slots_of_credentialTexts? htexts
      exact ⟨⟨d, hwritten, givesCredential_of_slots hslots⟩, hlimits⟩
    · cases h
  · intro r h
    change readRegistration limits payload = .ok r at h
    unfold readRegistration at h
    split at h
    · next name configuration hparts =>
      obtain ⟨thingName, hname, h⟩ := ok_of_bind h
      cases h
      obtain ⟨rfl, hlimit⟩ := checkText_eq_ok_iff.1 hname
      obtain ⟨d, slot, hwritten, hslots, hslot⟩ := slots_of_registrationParts? hparts
      exact ⟨⟨d, hwritten, givesRegistration_of_slots hslots hslot⟩, hlimit⟩
    · cases h

/-- An object with blanks, escapes and a member that nobody asks for, which holds half a surrogate
pair and a number beyond all floating-point numbers. -/
def spaciousCredential : Bytes :=
  utf8 "\x7b \"x\": [\"\\ud800\", 1.5E+999], \"certificatePem\" : \"p\\nm\",
    \"certificateId\":\"\\u0069d\",\"certificateOwnershipToken\":\"token\"\x7d "

/-- An object whose configuration has two texts under one key, and a number. -/
def spaciousRegistration : Bytes :=
  utf8 "\x7b\"deviceConfiguration\":\x7b\"a\":\"old\", \"b\":2, \"a\":\"new\"\x7d,
    \"thingName\":\"thing\"\x7d"

theorem spacious_payloads_say :
    (∃ d, Json.WritesPadded d spaciousCredential ∧ GivesCredential ⟨"p\nm", "id", "token"⟩ d) ∧
      ∃ d, Json.WritesPadded d spaciousRegistration ∧
        GivesRegistration ⟨"thing", .ofList [("a", "new")]⟩ d :=
  have hcredential : (Codec.standard .standard .json).readCredential spaciousCredential =
      .ok ⟨"p\nm", "id", "token"⟩ := by decide +kernel
  have hregistration : (Codec.standard .standard .json).readRegistration spaciousRegistration =
      .ok ⟨"thing", .ofList [("a", "new")]⟩ := by decide +kernel
  ⟨((accepted_payloads_say .standard spaciousCredential).1 _ hcredential).1,
    ((accepted_payloads_say .standard spaciousRegistration).2 _ hregistration).1⟩

/-- An object begins with its brace. -/
theorem brace_of_writesPadded {es : List (Option String × Document)} {b : Bytes}
    (h : Json.WritesPadded (.table es) b) :
    ∃ w rest, Json.Blanks w ∧ b = w ++ ascii '\x7b' :: rest := by
  generalize hd : Document.table es = d at h
  obtain @⟨_, w, b, w', hw, h, -⟩ := h
  cases h with
  | table _ => exact ⟨w, _, hw, rfl⟩
  | @number n _ _ =>
    unfold Json.Numeral.document at hd
    split at hd
    · cases hd
    · split at hd <;> cases hd
  | @string s _ _ => cases s <;> cases hd
  | _ => cases hd

def listPayload : Bytes := utf8 "[\"pem\", \"id\", \"token\"]"

/-- A payload that is no object at all, and is read. -/
theorem list_accepted :
    (Codec.standard .standard .json).readCredential listPayload = .ok ⟨"pem", "id", "token"⟩ ∧
      ¬ ∃ es, Json.WritesPadded (.table es) listPayload := by
  refine ⟨by decide +kernel, ?_⟩
  rintro ⟨es, h⟩
  obtain ⟨w, rest, hw, hpayload⟩ := brace_of_writesPadded h
  have hfirst : listPayload.head? = some (ascii '[') := by decide
  rw [hpayload] at hfirst
  cases w with
  | nil => exact absurd (Option.some.inj hfirst) (by decide)
  | cons b w =>
    obtain rfl : b = ascii '[' := Option.some.inj hfirst
    exact absurd (hw _ List.mem_cons_self) (by decide)

end Payload.Textual

end Enrolment
