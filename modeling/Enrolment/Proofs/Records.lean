import Enrolment.Proofs.Credentials
import Enrolment.Proofs.Formats
import Enrolment.Proofs.Requests
import Enrolment.Proofs.Timestamps

/-!
# Enrolment.Proofs.Records

The record of a run on the disk. It is written with a line for each member, and with no member for
an empty configuration, and is read back from its bytes. In the credential store it stays the record
that was stored last, through whatever else is done to the store.

* `Json.spells_object`: an object that is written in lines spells its members.
* `Identity.ofBytes?_toText`: a record is read back from its text.
* `FileStore.loadIdentity_performAll`: the record that was stored last is the one that is loaded.
-/

namespace Enrolment

/-! ## Objects in lines -/

namespace Json

theorem Blanks.append {w w' : Bytes} (h : Blanks w) (h' : Blanks w') : Blanks (w ++ w') :=
  List.forall_mem_append.2 ⟨h, h'⟩

theorem blanks_indentation (depth : Nat) : Blanks (utf8 (indentation depth)) := by
  have hspace : Blanks (String.utf8EncodeChar ' ') := by decide
  intro b hb
  rw [indentation, utf8_ofList, List.mem_flatMap] at hb
  obtain ⟨c, hc, hb⟩ := hb
  rw [List.eq_of_mem_replicate hc] at hb
  exact hspace b hb

/-- A member on its line. -/
def line (depth : Nat) (w : String × String) : String :=
  indentation depth ++ string w.1 ++ ": " ++ w.2

theorem spellsMember_line {w : String × String} {v : Value} (h : Spells v (utf8 w.2)) (depth : Nat)
    {behind : Bytes} (hbehind : Blanks behind) :
    SpellsMember w.1 v (utf8 ("\n" ++ line depth w) ++ behind) := by
  have hbefore : Blanks (utf8 "\n" ++ utf8 (indentation depth)) :=
    Blanks.append (by decide) (blanks_indentation depth)
  have hspace : Blanks [ascii ' '] := by decide
  have hcolon : utf8 ": " = [ascii ':', ascii ' '] := by decide
  have hmember := SpellsMember.mk hbefore (quotes_string w.1) blanks_nil (.mk hspace h hbehind)
  simpa only [line, utf8_append, hcolon, List.append_assoc, List.cons_append, List.nil_append]
    using hmember

/-- The line end behind a comma stands before the member that follows. -/
theorem spellsMembers_lines {written : List (String × String)} {ms : List (String × Value)}
    (h : Written written ms) (depth : Nat) {behind : Bytes} (hbehind : Blanks behind) :
    SpellsMembers ms
      (utf8 ("\n" ++ String.intercalate ",\n" (written.map (line depth))) ++ behind) := by
  have hnewline : Blanks (utf8 "\n") := by decide
  induction h with
  | nil => exact .none (Blanks.append hnewline hbehind)
  | @cons w m written ms hm hrest ih =>
    obtain ⟨key, v⟩ := m
    obtain ⟨rfl, hspells⟩ := hm
    cases hrest with
    | nil => exact .last (spellsMember_line hspells depth hbehind)
    | cons =>
      have hmember := spellsMember_line hspells depth blanks_nil
      have hcomma : utf8 ",\n" = ascii ',' :: utf8 "\n" := by decide
      have hmore := SpellsMembers.more (m := (w.1, v)) hmember ih
      rw [List.map_cons, List.map_cons, String.intercalate_cons_cons]
      simpa only [List.map_cons, utf8_append, hcomma, List.append_assoc, List.cons_append,
        List.append_nil] using hmore

/-- What is written for an object in lines spells it. -/
theorem spells_object {written : List (String × String)} {ms : List (String × Value)}
    (h : Written written ms) (depth : Nat) :
    Spells (.object ms) (utf8 (object depth written)) := by
  cases h with
  | nil => exact .object (.none blanks_nil)
  | @cons w m written ms hm hrest =>
    have hbehind : Blanks (utf8 "\n" ++ utf8 (indentation depth)) :=
      Blanks.append (by decide) (blanks_indentation depth)
    have hlines := spellsMembers_lines (List.Forall₂.cons hm hrest) (depth + 1) hbehind
    have hopening : utf8 "\x7b\n" = ascii '\x7b' :: utf8 "\n" := by decide
    have hclosing : utf8 "\x7d" = [ascii '\x7d'] := by decide
    have hwritten : object depth (w :: written) =
        "\x7b\n" ++ String.intercalate ",\n" ((w :: written).map (line (depth + 1))) ++ "\n" ++
          indentation depth ++ "\x7d" := rfl
    have hobject := Spells.object hlines
    rw [hwritten]
    simpa only [utf8_append, hopening, hclosing, List.append_assoc, List.cons_append] using hobject

end Json

/-! ## Records -/

namespace Identity

open Payload.Textual

/-- What a record is written for. -/
def written (r : Identity) : List (String × Value) :=
  textMembers r.members ++
    if r.configuration.isEmpty then []
    else [("device_configuration", .object (textMembers r.configuration.entries))]

theorem spells_toText (r : Identity) : Json.Spells (.object r.written) (utf8 r.toText) := by
  have htexts := written_texts r.members
  rw [written, toText]
  cases hempty : r.configuration.isEmpty with
  | true =>
    rw [if_pos rfl, if_pos rfl, List.append_nil, List.append_nil]
    exact Json.spells_object htexts 0
  | false =>
    have hinner := Json.spells_object (written_texts r.configuration.entries) 1
    rw [if_neg Bool.false_ne_true, if_neg Bool.false_ne_true]
    exact Json.spells_object (List.rel_append htexts (.cons ⟨rfl, hinner⟩ .nil)) 0

theorem nodup_written (r : Identity) : (r.written.map Prod.fst).Nodup := by
  have hnames : r.written.map Prod.fst =
      ["thing_name", "certificate_id", "template", "key_label", "certificate_label",
        "provisioned_at"] ++ if r.configuration.isEmpty then [] else ["device_configuration"] := by
    rw [written]
    cases r.configuration.isEmpty <;> rfl
  rw [hnames]
  cases r.configuration.isEmpty <;> decide

theorem textMap?_entries (m : TextMap) :
    textMap? (Value.object (textMembers m.entries)).document = some m := by
  have htexts (entries : List (String × String)) :
      ((textMembers entries).map fun e => (e.1, e.2.document)).mapM
        (fun e => e.2.text?.map (e.1, ·)) = some entries := by
    induction entries with
    | nil => rfl
    | cons e rest ih =>
      rw [textMembers, List.map_cons, List.map_cons, List.mapM_cons, ← textMembers, ih]
      rfl
  rw [textMap?, entries?_document]
  simp only [Option.bind_eq_bind, Option.bind_some, htexts, TextMap.ofList_entries,
    Option.pure_def]

theorem slotOf_written {r : Identity} {key : String} {v : Value} (h : (key, v) ∈ r.written) :
    slotOf r.written key = .given v.document := by
  have hlast : lastUnder key r.written = some v := by
    have hmem := mem_valuesUnder.2 h
    rwa [valuesUnder_of_nodup r.nodup_written, Option.mem_toList] at hmem
  rw [slotOf, hlast]
  rfl

theorem slotOf_written_text {r : Identity} {key text : String} (h : (key, text) ∈ r.members) :
    slotOf r.written key = .given (.text text) :=
  slotOf_written (v := .text text) (List.mem_append_left _ (List.mem_map_of_mem h))

theorem orElse_configuration (r : Identity) :
    (slotOf r.written "device_configuration").orElse .empty textMap? = some r.configuration := by
  cases hempty : r.configuration.isEmpty with
  | true =>
    have hnone : slotOf r.written "device_configuration" = .absent := by
      rw [written, if_pos hempty]
      rfl
    have hconfiguration : r.configuration = .empty := TextMap.ext (List.isEmpty_iff.1 hempty)
    rw [hnone, hconfiguration]
    rfl
  | false =>
    have hmem : ("device_configuration", Value.object (textMembers r.configuration.entries)) ∈
        r.written := by
      rw [written, if_neg (by simp [hempty])]
      exact List.mem_append_right _ List.mem_cons_self
    rw [slotOf_written hmem]
    exact textMap?_entries r.configuration

theorem ofDocument?_written (r : Identity) :
    ofDocument? (Value.object r.written).document = some r := by
  have htext {key text : String} (h : (key, text) ∈ r.members) :
      (slotOf r.written key).required Document.text? = some text := by
    rw [slotOf_written_text h]
    rfl
  have htime : (slotOf r.written "provisioned_at").required timestamp? =
      some r.provisionedAt := by
    have hmem : ("provisioned_at", r.provisionedAt.toText) ∈ r.members := by simp [members]
    rw [slotOf_written_text hmem, Document.Slot.required, timestamp?, Document.text?,
      Option.bind_some]
    exact Timestamp.ofText?_toText r.provisionedAt
  have hname : ("thing_name", r.thingName) ∈ r.members := by simp [members]
  have hcertificate : ("certificate_id", r.certificateId) ∈ r.members := by simp [members]
  have htemplate : ("template", r.template) ∈ r.members := by simp [members]
  have hkeyLabel : ("key_label", r.keyLabel) ∈ r.members := by simp [members]
  have hcertificateLabel : ("certificate_label", r.certificateLabel) ∈ r.members := by
    simp [members]
  rw [ofDocument?, slots_document r.nodup_written]
  simp only [List.map_cons, List.map_nil, Option.bind_eq_bind, Option.bind_some, htext hname,
    htext hcertificate, htext htemplate, htext hkeyLabel, htext hcertificateLabel, htime,
    orElse_configuration, Option.pure_def]

/-- A record is read back from its text. -/
theorem ofBytes?_toText (r : Identity) : ofBytes? (utf8 r.toText) = some r := by
  rw [ofBytes?, Json.read?_spelled r.spells_toText.padded]
  exact r.ofDocument?_written

end Identity

/-! ## Operations of the store -/

/-- What is asked of the store, with the material of a new key. -/
inductive StoreOperation
  | generateKey (label : String) (material : KeyMaterial)
  | storeCertificate (handle label pem : String)
  | storeIdentity (record : Identity)

def StoreOperation.record? : StoreOperation → Option Identity
  | storeIdentity record => some record
  | _ => none

namespace FileStore

variable {store : FileStore} {d : Disk} {record : Identity}

/-- Whether an operation succeeds, and what the disk is then. -/
def perform (store : FileStore) (d : Disk) : StoreOperation → Bool × Disk
  | .generateKey label material =>
    let stored := store.storeKey d label material
    (stored.result.isOk, stored.disk)
  | .storeCertificate handle label pem =>
    let stored := store.storeCertificate d handle label pem
    (stored.result.isOk, stored.disk)
  | .storeIdentity record =>
    let stored := store.storeIdentity d record
    (stored.result.isOk, stored.disk)

def performAll (store : FileStore) (d : Disk) (ops : List StoreOperation) : Disk :=
  ops.foldl (fun d op => (store.perform d op).2) d

/-- The record that an operation stores, if it succeeds. -/
def stored? (store : FileStore) (d : Disk) (op : StoreOperation) : Option Identity :=
  if (store.perform d op).1 then op.record? else none

/-- The record of the last operation that stores one and succeeds. -/
def lastStored? (store : FileStore) : Disk → List StoreOperation → Option Identity
  | _, [] => none
  | d, op :: rest => (store.lastStored? (store.perform d op).2 rest).or (store.stored? d op)

/-- The record is in its file. -/
def Keeps (store : FileStore) (d : Disk) (record : Identity) : Prop :=
  d.read store.identityPath = .ok (utf8 record.toText)

theorem Keeps.loadIdentity (h : store.Keeps d record) : store.loadIdentity d = .ok record := by
  rw [FileStore.loadIdentity, h]
  simp only [record.ofBytes?_toText]

theorem keeps_storeIdentity (h : (store.storeIdentity d record).result.isOk) :
    store.Keeps (store.storeIdentity d record).disk record := by
  unfold storeIdentity at h ⊢
  match hmade : store.makeDirectory d with
  | (.error e, d₁) => rw [hmade] at h; cases h
  | (.ok (), d₁) =>
    simp only [hmade, write] at h ⊢
    cases hwrite : d₁.write store.identityPath .shared (utf8 record.toText) with
    | error fault => rw [hwrite] at h; cases h
    | ok d₂ => exact Disk.read_of_write hwrite

/-- Writing other files leaves the record in its own. -/
theorem Keeps.puts {writes : List (String × String)} {d' : Disk} (h : store.Keeps d record)
    (hputs : store.Puts writes d d') (hnone : lastUnder identityFile writes = none) :
    store.Keeps d' record := by
  refine hputs.toExtends.read h ?_
  have hplace (d : Disk) : d.place store.identityPath = d.place store.directory ++ [identityFile] :=
    d.place_join store.directory isName_identityFile
  have hshelf := hputs.shelf identityFile
  rw [hnone, shelf, shelf, hputs.place] at hshelf
  rw [hplace]
  exact hshelf

theorem keeps_of_stored {op : StoreOperation} (h : store.stored? d op = some record) :
    store.Keeps (store.perform d op).2 record := by
  rw [stored?] at h
  split at h
  · next hok =>
    cases op with
    | generateKey label material => cases h
    | storeCertificate handle label pem => cases h
    | storeIdentity record' =>
      cases h
      exact keeps_storeIdentity hok
  · cases h

theorem Keeps.perform (h : store.Keeps d record) (op : StoreOperation) :
    store.Keeps (store.perform d op).2 ((store.stored? d op).getD record) := by
  have hother {name text : String} {ok : Bool} (hne : name ≠ identityFile) :
      lastUnder identityFile (if ok then [(name, text)] else []) = none := by
    cases ok <;> simp [lastUnder, valuesUnder, hne]
  cases hstored : store.stored? d op with
  | some record' => exact keeps_of_stored hstored
  | none =>
    cases op with
    | generateKey label material =>
      exact h.puts (store.storeKey_puts d label material) (hother (keyFile_ne_identityFile label))
    | storeCertificate handle label pem =>
      exact h.puts (store.storeCertificate_puts d handle label pem)
        (hother (certificateFile_ne_identityFile label))
    | storeIdentity record' =>
      -- A record that was not stored has not been written either.
      have hfailed : (store.storeIdentity d record').result.isOk = false := by
        refine Bool.eq_false_iff.2 fun hok => ?_
        rw [stored?, FileStore.perform, if_pos hok] at hstored
        cases hstored
      have hputs := store.storeIdentity_puts d record'
      rw [Stores, hfailed] at hputs
      exact h.puts hputs rfl

theorem Keeps.performAll (h : store.Keeps d record) (ops : List StoreOperation) :
    store.Keeps (store.performAll d ops) ((store.lastStored? d ops).getD record) := by
  induction ops generalizing d record with
  | nil => exact h
  | cons op rest ih =>
    have hrest := ih (h.perform op)
    rw [lastStored?]
    cases hlast : store.lastStored? (store.perform d op).2 rest with
    | none =>
      rw [hlast] at hrest
      exact hrest
    | some record' =>
      rw [hlast] at hrest
      exact hrest

theorem keeps_lastStored {ops : List StoreOperation} (h : store.lastStored? d ops = some record) :
    store.Keeps (store.performAll d ops) record := by
  induction ops generalizing d with
  | nil => cases h
  | cons op rest ih =>
    rw [lastStored?] at h
    cases hlast : store.lastStored? (store.perform d op).2 rest with
    | some record' =>
      rw [hlast, Option.some_or] at h
      exact ih (hlast.trans h)
    | none =>
      rw [hlast, Option.none_or] at h
      have hkept := (keeps_of_stored h).performAll rest
      rwa [hlast] at hkept

/-- The record that was stored last is the one that is loaded, wherever the store began and whatever
was done to it before and after. -/
theorem loadIdentity_performAll {ops : List StoreOperation}
    (h : store.lastStored? d ops = some record) :
    store.loadIdentity (store.performAll d ops) = .ok record :=
  (keeps_lastStored h).loadIdentity

/-- A record of odd texts, made in a leap second. -/
def oddRecord : Identity :=
  ⟨Payload.oddText, "", Payload.oddText, "device", "device",
    ⟨⟨2016, 12, 31⟩, 23, 59, 60, 1, by decide⟩, Payload.oddParameters⟩

def plainRecord : Identity :=
  ⟨"thing", "id", "fleet", "device", "device", ⟨⟨2024, 2, 29⟩, 12, 0, 0, 0, by decide⟩, .empty⟩

/-- A longer record, a shorter one and the longer one again, and a key and a certificate on top. -/
def busyOperations : List StoreOperation :=
  [.storeIdentity oddRecord, .storeIdentity plainRecord, .storeIdentity oddRecord,
    .generateKey "device" ⟨"key", "CSR"⟩,
    .storeCertificate "device" "device"
      "-----BEGIN CERTIFICATE-----\nAAEC\n-----END CERTIFICATE-----\n"]

theorem busyOperations_load_oddRecord :
    lastStored? ⟨"ks"⟩ ⟨[], []⟩ busyOperations = some oddRecord ∧
      loadIdentity ⟨"ks"⟩ (performAll ⟨"ks"⟩ ⟨[], []⟩ busyOperations) = .ok oddRecord := by
  have hlast : lastStored? ⟨"ks"⟩ ⟨[], []⟩ busyOperations = some oddRecord := by decide +kernel
  exact ⟨hlast, loadIdentity_performAll hlast⟩

end FileStore

end Enrolment
