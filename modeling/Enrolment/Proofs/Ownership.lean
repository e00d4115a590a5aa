import Enrolment.Proofs.Records

/-!
# Enrolment.Proofs.Ownership

Who owns the files of the credential store. Every key, every certificate and the record has a file
of its own, an entry of the store's directory, and only the operation that stores it writes there.
All else on the disk stays, but that the directory is made where it is missing. That holds of every
sequence of operations, wherever it starts and however each of them ends.

* `Owner.file_injective`: no two owners share a file.
* `FileStore.confined`: what one operation may change.
* `FileStore.files_have_owners`: what a sequence of operations may change.
* `FileStore.certificate_beside_directory`: a directory passes for the key of a certificate.
-/

namespace Enrolment

/-! ## Entries that stay -/

namespace Disk

variable {d d' d'' : Disk} {own more : Place → Prop} {path : String} {mode : FileMode}
  {content : Bytes} {p : Place}

/-- Outside of `own`, all that stands in `d` stands in `d'` as well, and what is new are
directories. -/
structure SameOutside (own : Place → Prop) (d d' : Disk) : Prop where
  workingDirectory : d'.workingDirectory = d.workingDirectory
  entry : ∀ p, ¬ own p →
    d'.find? p = d.find? p ∨ d.find? p = none ∧ d'.find? p = some .directory

theorem SameOutside.place (h : SameOutside own d d') (path : String) :
    d'.place path = d.place path := by
  rw [Disk.place, Disk.place, start, start, h.workingDirectory]

theorem SameOutside.refl (own : Place → Prop) (d : Disk) : SameOutside own d d :=
  ⟨rfl, fun _ _ => .inl rfl⟩

theorem SameOutside.mono (h : SameOutside own d d') (hmore : ∀ p, own p → more p) :
    SameOutside more d d' :=
  ⟨h.workingDirectory, fun p hp => h.entry p fun hown => hp (hmore p hown)⟩

theorem SameOutside.trans (h : SameOutside own d d') (h' : SameOutside own d' d'') :
    SameOutside own d d'' where
  workingDirectory := h'.workingDirectory.trans h.workingDirectory
  entry := fun p hp => by
    obtain hsame | ⟨hnone, hmade⟩ := h.entry p hp
    · rw [← hsame]
      exact h'.entry p hp
    · obtain hsame | ⟨hnone', -⟩ := h'.entry p hp
      · exact .inr ⟨hnone, hsame.trans hmade⟩
      · rw [hnone'] at hmade
        cases hmade

/-- Outside of `own`, the files are the same, with the same contents and modes. -/
theorem SameOutside.file_iff (h : SameOutside own d d') (hp : ¬ own p) :
    d'.find? p = some (.file mode content) ↔ d.find? p = some (.file mode content) := by
  obtain hsame | ⟨hnone, hmade⟩ := h.entry p hp
  · rw [hsame]
  · simp [hnone, hmade]

theorem sameOutside_makeDirectory (h : d.makeDirectory path = .ok d') :
    SameOutside (fun _ => False) d d' := by
  obtain ⟨p, hnone, rfl⟩ := makeDirectory_eq_ok h
  have hdirectory : d.find? p ≠ some .directory := by simp [hnone]
  refine ⟨rfl, fun q _ => ?_⟩
  rw [find?_set (ne_nil_of_find? hdirectory)]
  by_cases hq : q = p
  · rw [if_pos hq, hq]
    exact .inr ⟨hnone, rfl⟩
  · rw [if_neg hq]
    exact .inl rfl

theorem sameOutside_makeDirectories (d : Disk) (path : String) :
    SameOutside (fun _ => False) d (d.makeDirectories path).2 :=
  makeDirectories_preserves (.refl _) .trans sameOutside_makeDirectory d path

/-- A write changes what stands at its place, and leaves a file there. -/
theorem find?_of_write (h : d.write path mode content = .ok d') :
    SameOutside (· = d.place path) d d' ∧
      ∃ mode', d'.find? (d.place path) = some (.file mode' content) := by
  obtain ⟨-, hfind, mode', rfl⟩ := set_of_write h
  have hne := ne_nil_of_find? hfind
  refine ⟨⟨rfl, fun q hq => .inl ?_⟩, mode', ?_⟩
  · rw [find?_set hne, if_neg hq]
  · rw [find?_set hne, if_pos rfl]

/-- Something stands where a path leads, if the path exists. -/
theorem find?_of_pathExists (h : d.pathExists path) : d.find? (d.place path) ≠ none := by
  rw [pathExists] at h
  split at h
  · next p hfollow =>
    rw [← follow_eq_ok hfollow]
    exact Option.isSome_iff_ne_none.1 h
  · cases h

end Disk

/-! ## Owners -/

/-- What a file of the directory belongs to. -/
inductive Owner
  | key (label : String)
  | certificate (label : String)
  | record
  deriving DecidableEq, Repr

namespace Owner

/-- The name of its file. -/
def file : Owner → String
  | key label => keyFile label
  | certificate label => certificateFile label
  | record => identityFile

/-- Whether its label, if it has one, may name a file. -/
def isValid : Owner → Bool
  | key label | certificate label => isLabel label
  | record => true

theorem keyFile_injective {label label' : String} (h : keyFile label = keyFile label') :
    label = label' := (String.append_left_inj _).1 h

theorem certificateFile_injective {label label' : String}
    (h : certificateFile label = certificateFile label') : label = label' :=
  (String.append_left_inj _).1 h

/-- No two owners share a file. -/
theorem file_injective : Function.Injective file := by
  intro owner owner' h
  cases owner with
  | key label =>
    cases owner' with
    | key label' => exact congrArg key (keyFile_injective h)
    | certificate label' => exact absurd h (keyFile_ne_certificateFile label label')
    | record => exact absurd h (keyFile_ne_identityFile label)
  | certificate label =>
    cases owner' with
    | key label' => exact absurd h.symm (keyFile_ne_certificateFile label' label)
    | certificate label' => exact congrArg certificate (certificateFile_injective h)
    | record => exact absurd h (certificateFile_ne_identityFile label)
  | record =>
    cases owner' with
    | key label' => exact absurd h.symm (keyFile_ne_identityFile label')
    | certificate label' => exact absurd h.symm (certificateFile_ne_identityFile label')
    | record => rfl

theorem isName_file {owner : Owner} (h : owner.isValid) : Path.IsName owner.file := by
  cases owner with
  | key label => exact isName_keyFile h
  | certificate label => exact isName_certificateFile h
  | record => exact isName_identityFile

end Owner

namespace StoreOperation

/-- Whose file an operation writes. -/
def owner : StoreOperation → Owner
  | generateKey label _ => .key label
  | storeCertificate _ label _ => .certificate label
  | storeIdentity _ => .record

/-- What an operation writes there. -/
def text : StoreOperation → String
  | generateKey _ material => material.privateKey
  | storeCertificate _ _ pem => pem
  | storeIdentity record => record.toText

end StoreOperation

/-- An operation that is refused for what it is asked, before the disk is touched. -/
def StoreError.isRefusal : StoreError → Bool
  | unknownKey _ | invalidCertificate _ | invalidLabel _ => true
  | _ => false

/-! ## One operation -/

namespace FileStore

variable {store : FileStore} {d : Disk} {owner : Owner} {text : String}

/-- Where the file of an owner stands. -/
def spot (store : FileStore) (d : Disk) (owner : Owner) : Place :=
  d.place store.directory ++ [owner.file]

/-- A call that ends like this fills the file of the owner, if it succeeds, and changes no other.
One that is refused changes nothing at all. -/
structure Fills {α : Type} (store : FileStore) (d : Disk) (owner : Owner) (text : String)
    (stored : Stored α) : Prop where
  elsewhere : d.SameOutside (fun p => stored.result.isOk ∧ p = store.spot d owner) stored.disk
  own : stored.result.isOk → owner.isValid ∧
    ∃ mode, stored.disk.find? (store.spot d owner) = some (.file mode (utf8 text))
  refused : ∀ e, stored.result = .error e → e.isRefusal → stored.disk = d

theorem fills_refused {α : Type} (store : FileStore) (d : Disk) (owner : Owner) (text : String)
    (e : StoreError) : store.Fills d owner text (⟨.error e, d, []⟩ : Stored α) :=
  ⟨.refl _ d, nofun, fun _ _ _ => rfl⟩

theorem fills_failed {α : Type} {d' : Disk} {e : StoreError}
    (h : d.SameOutside (fun _ => False) d') (he : e.isRefusal = false) :
    store.Fills d owner text (⟨.error e, d', []⟩ : Stored α) := by
  refine ⟨h.mono fun _ => False.elim, nofun, fun e' heq hrefusal => ?_⟩
  cases heq
  rw [he] at hrefusal
  cases hrefusal

theorem fills_write {α : Type} {d' : Disk} {mode : FileMode}
    (h : d.SameOutside (fun _ => False) d') (hvalid : owner.isValid) (value : α) (line : String) :
    store.Fills d owner text
      (write d' (Path.join store.directory owner.file) mode text value line) := by
  have hplace : d'.place (Path.join store.directory owner.file) = store.spot d owner := by
    rw [d'.place_join store.directory (Owner.isName_file hvalid), h.place, spot]
  rw [write]
  cases hwrite : d'.write (Path.join store.directory owner.file) mode (utf8 text) with
  | ok d'' =>
    obtain ⟨hsame, hfile⟩ := Disk.find?_of_write hwrite
    rw [hplace] at hsame hfile
    refine ⟨?_, fun _ => ⟨hvalid, hfile⟩, fun e he => by cases he⟩
    exact (h.mono fun _ => False.elim).trans (hsame.mono fun _ hp => ⟨rfl, hp⟩)
  | error fault => exact fills_failed h rfl

theorem fills_made {α : Type} {mode : FileMode} (store : FileStore) (d : Disk)
    (hvalid : owner.isValid) (value : α) (line : String) :
    store.Fills d owner text
      (match store.makeDirectory d with
        | (.error e, d) => ⟨.error e, d, []⟩
        | (.ok (), d) =>
          write d (Path.join store.directory owner.file) mode text value line) := by
  have hsame := d.sameOutside_makeDirectories store.directory
  rw [makeDirectory]
  match hmade : d.makeDirectories store.directory, hsame with
  | (.error fault, d'), hsame => exact fills_failed hsame rfl
  | (.ok (), d'), hsame => exact fills_write hsame hvalid value line

theorem storeKey_fills (store : FileStore) (d : Disk) (label : String) (material : KeyMaterial) :
    store.Fills d (.key label) material.privateKey (store.storeKey d label material) := by
  by_cases hlabel : isLabel label
  · have hvalid : (Owner.key label).isValid := hlabel
    rw [storeKey, hlabel]
    exact fills_made store d hvalid _ _
  · rw [storeKey, Bool.eq_false_iff.2 hlabel]
    exact store.fills_refused d _ _ _

theorem storeIdentity_fills (store : FileStore) (d : Disk) (record : Identity) :
    store.Fills d .record record.toText (store.storeIdentity d record) :=
  have hvalid : Owner.record.isValid := rfl
  fills_made store d hvalid _ _

theorem storeCertificate_fills (store : FileStore) (d : Disk) (handle label pem : String) :
    store.Fills d (.certificate label) pem (store.storeCertificate d handle label pem) := by
  by_cases hlabel : isLabel label
  · have hvalid : (Owner.certificate label).isValid := hlabel
    rw [storeCertificate, hlabel]
    by_cases hkey : d.pathExists (store.keyPath handle)
    · rw [hkey]
      cases Pem.certificates? (utf8 pem) with
      | none => exact store.fills_refused d _ _ _
      | some certificates =>
        cases certificates with
        | nil => exact store.fills_refused d _ _ _
        | cons => exact fills_write (.refl _ d) hvalid _ _
    · rw [Bool.eq_false_iff.2 hkey]
      exact store.fills_refused d _ _ _
  · rw [storeCertificate, Bool.eq_false_iff.2 hlabel]
    exact store.fills_refused d _ _ _

/-- A certificate is stored only if something stands where the key with its handle does. -/
theorem find?_of_storeCertificate {handle label pem : String}
    (h : (store.storeCertificate d handle label pem).result.isOk) :
    d.find? (d.place (store.keyPath handle)) ≠ none := by
  refine Disk.find?_of_pathExists ?_
  rw [storeCertificate] at h
  split at h
  · cases h
  · split at h
    · cases h
    · next hkey => simpa using hkey

/-- How an operation ends. -/
def answer (store : FileStore) (d : Disk) : StoreOperation → Except StoreError Unit
  | .generateKey label material => (store.storeKey d label material).result.map fun _ => ()
  | .storeCertificate handle label pem => (store.storeCertificate d handle label pem).result
  | .storeIdentity record => (store.storeIdentity d record).result

/-- What an operation may do to the disk. -/
structure Confined (store : FileStore) (d : Disk) (op : StoreOperation) : Prop where
  /-- Nothing changes but its own file, and that only if it succeeds. -/
  elsewhere : d.SameOutside (fun p => (store.answer d op).isOk ∧ p = store.spot d op.owner)
    (store.perform d op).2
  /-- Its own file then holds what it writes. -/
  own : (store.answer d op).isOk → op.owner.isValid ∧
    ∃ mode, (store.perform d op).2.find? (store.spot d op.owner) =
      some (.file mode (utf8 op.text))
  /-- The file of another owner is what it was, and is there only if it was. -/
  others : ∀ owner, owner ≠ op.owner → ∀ mode content,
    (store.perform d op).2.find? (store.spot d owner) = some (.file mode content) ↔
      d.find? (store.spot d owner) = some (.file mode content)
  /-- If it is refused, nothing changes at all. -/
  refused : ∀ e, store.answer d op = .error e → e.isRefusal → (store.perform d op).2 = d
  /-- A certificate is only stored beside what stands where its key does. -/
  beside : ∀ handle label pem, op = .storeCertificate handle label pem →
    (store.answer d op).isOk → d.find? (d.place (store.keyPath handle)) ≠ none

theorem spot_injective (store : FileStore) (d : Disk) : Function.Injective (store.spot d) := by
  intro owner owner' h
  have hnames := List.append_cancel_left h
  exact Owner.file_injective (List.singleton_inj.1 hnames)

theorem Fills.map {α β : Type} {stored : Stored α} (h : store.Fills d owner text stored)
    (f : α → β) (log : List LogLine) :
    store.Fills d owner text ⟨stored.result.map f, stored.disk, log⟩ := by
  obtain ⟨result, d', _⟩ := stored
  cases result with
  | ok value => exact ⟨h.elsewhere, h.own, nofun⟩
  | error e => exact ⟨h.elsewhere, nofun, fun e' he => h.refused e' (by cases he; rfl)⟩

theorem fills_perform (store : FileStore) (d : Disk) (op : StoreOperation) :
    store.Fills d op.owner op.text
      (⟨store.answer d op, (store.perform d op).2, []⟩ : Stored Unit) := by
  cases op with
  | generateKey label material => exact (store.storeKey_fills d label material).map _ _
  | storeCertificate handle label pem =>
    have h := store.storeCertificate_fills d handle label pem
    exact ⟨h.elsewhere, h.own, h.refused⟩
  | storeIdentity record =>
    have h := store.storeIdentity_fills d record
    exact ⟨h.elsewhere, h.own, h.refused⟩

theorem confined (store : FileStore) (d : Disk) (op : StoreOperation) : store.Confined d op where
  elsewhere := (store.fills_perform d op).elsewhere
  own := (store.fills_perform d op).own
  others := fun _ hne _ _ =>
    (store.fills_perform d op).elsewhere.file_iff fun hown => hne (store.spot_injective d hown.2)
  refused := (store.fills_perform d op).refused
  beside := by
    rintro handle label pem rfl hok
    exact find?_of_storeCertificate hok

/-! ## Sequences of operations -/

/-- A place that an operation of a sequence filled: what it wrote is there. -/
def Filled (store : FileStore) (d : Disk) (ops : List StoreOperation) (p : Place) : Prop :=
  ∃ before op later, ops = before ++ op :: later ∧
    (store.answer (store.performAll d before) op).isOk ∧ op.owner.isValid ∧
    p = store.spot d op.owner ∧
    ∃ mode, (store.performAll d ops).find? p = some (.file mode (utf8 op.text))

theorem Filled.cons {op : StoreOperation} {ops : List StoreOperation} {p : Place}
    (h : store.Filled (store.perform d op).2 ops p) : store.Filled d (op :: ops) p := by
  obtain ⟨before, op', later, rfl, hok, hvalid, hp, hfile⟩ := h
  have hspot : store.spot (store.perform d op).2 op'.owner = store.spot d op'.owner := by
    rw [spot, (store.confined d op).elsewhere.place, spot]
  exact ⟨op :: before, op', later, rfl, hok, hvalid, hp.trans hspot, hfile⟩

/-- Outside of the places that the operations filled, nothing changes. -/
theorem sameOutside_performAll (store : FileStore) (d : Disk) (ops : List StoreOperation) :
    d.SameOutside (store.Filled d ops) (store.performAll d ops) := by
  induction ops generalizing d with
  | nil => exact .refl _ d
  | cons op rest ih =>
    have hstep := store.confined d op
    have hrest := ih (store.perform d op).2
    refine (hstep.elsewhere.mono fun p hown => ?_).trans (hrest.mono fun p => Filled.cons)
    by_cases hlater : store.Filled (store.perform d op).2 rest p
    · exact hlater.cons
    · -- Nothing has filled the place again, so it holds what this operation wrote.
      obtain ⟨hok, rfl⟩ := hown
      obtain ⟨hvalid, mode, hfile⟩ := hstep.own hok
      obtain hsame | ⟨hnone, -⟩ := hrest.entry _ hlater
      · exact ⟨[], op, rest, rfl, hok, hvalid, rfl, mode, hsame.trans hfile⟩
      · rw [hfile] at hnone
        cases hnone

/-- Whatever the store is asked and wherever it starts, the files that it makes and changes are
those of the operations that succeed, and no two owners share one. At every moment an operation
changes its own file and no other. -/
theorem files_have_owners (store : FileStore) (d : Disk) (ops : List StoreOperation) :
    Function.Injective Owner.file ∧
      d.SameOutside (store.Filled d ops) (store.performAll d ops) ∧
      ∀ before op later, ops = before ++ op :: later →
        store.Confined (store.performAll d before) op :=
  ⟨Owner.file_injective, store.sameOutside_performAll d ops, fun _ op _ _ => store.confined _ op⟩

/-- A certificate that can be read. -/
def shortCertificate : String := "-----BEGIN CERTIFICATE-----\nAAEC\n-----END CERTIFICATE-----\n"

/-- Labels that lead out of the directory or end like the name of a file, and certificates without
a key or without a content. -/
def oddOperations : List StoreOperation :=
  [.generateKey "../device" ⟨"key", "CSR"⟩, .storeCertificate "device" "device" shortCertificate,
    .generateKey "identity.json" ⟨"key", "CSR"⟩, .generateKey "device" ⟨"old key", "CSR"⟩,
    .storeCertificate "../ks/device" "device.key.pem" shortCertificate,
    .storeCertificate "device" "device" "no certificate", .storeIdentity plainRecord,
    .generateKey "device" ⟨"new key", "CSR"⟩]

/-- How the operations of a sequence end. -/
def answers (store : FileStore) : Disk → List StoreOperation → List (Except StoreError Unit)
  | _, [] => []
  | d, op :: rest => store.answer d op :: store.answers (store.perform d op).2 rest

theorem oddOperations_have_owners :
    answers ⟨"ks"⟩ ⟨[], []⟩ oddOperations =
        [.error (.invalidLabel "../device"), .error (.unknownKey "device"), .ok (), .ok (), .ok (),
          .error (.invalidCertificate "device"), .ok (), .ok ()] ∧
      (performAll ⟨"ks"⟩ ⟨[], []⟩ oddOperations).entries =
        [(["ks"], .directory),
          (["ks", "identity.json.key.pem"], .file .ownerOnly (utf8 "key")),
          (["ks", "device.key.pem"], .file .ownerOnly (utf8 "new key")),
          (["ks", "device.key.pem.crt.pem"], .file .shared (utf8 shortCertificate)),
          (["ks", "identity.json"], .file .shared (utf8 plainRecord.toText))] ∧
      Disk.SameOutside (Filled ⟨"ks"⟩ ⟨[], []⟩ oddOperations) ⟨[], []⟩
        (performAll ⟨"ks"⟩ ⟨[], []⟩ oddOperations) :=
  ⟨by decide +kernel, by decide +kernel, (files_have_owners ⟨"ks"⟩ ⟨[], []⟩ oddOperations).2.1⟩

/-- A directory where the key of a certificate would be. -/
def keyDirectory : Disk := ⟨[(["ks"], .directory), (["ks", "device.key.pem"], .directory)], []⟩

/-- A directory passes for the key of a certificate. -/
theorem certificate_beside_directory :
    answer ⟨"ks"⟩ keyDirectory (.storeCertificate "device" "device" shortCertificate) = .ok () ∧
      keyDirectory.find? (keyDirectory.place (keyPath ⟨"ks"⟩ "device")) = some .directory := by
  decide +kernel

end FileStore

end Enrolment
