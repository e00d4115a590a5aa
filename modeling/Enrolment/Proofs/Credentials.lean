import Enrolment.CredentialStore.World
import Enrolment.Proofs.Disk
import Enrolment.Proofs.Entries
import Enrolment.Proofs.Path

/-!
# Enrolment.Proofs.Credentials

What calls to the credential store leave in its directory. A call that succeeds writes one file, and
one that fails writes none, though it may have made the directory. So after a run, every file holds
what was written to it last, and a file that the run has not written holds what it held before.

* `toOption_read_join`: what can be read at the paths of the store.
* `storeKey_puts`, `storeCertificate_puts`, `storeIdentity_puts`: what each call writes.
* `puts_run`: what a run writes.
-/

namespace Enrolment

/-! ## Names -/

def keyFile (label : String) : String := label ++ ".key.pem"

def certificateFile (label : String) : String := label ++ ".crt.pem"

def identityFile : String := "identity.json"

theorem isName_of_isLabel {label suffix : String} (h : isLabel label) (hslash : '/' ∉ suffix.toList)
    (hlong : 2 < suffix.length) : Path.IsName (label ++ suffix) := by
  have hchars : '/' ∉ label.toList := by
    intro hmem
    simp only [isLabel] at h
    split at h
    · next hnil => rw [hnil] at hmem; cases hmem
    · next c cs hcs =>
      rw [hcs] at hmem
      have hall := (Bool.and_eq_true_iff.1 h).2
      exact absurd (List.all_eq_true.1 hall '/' hmem) (by decide)
  -- The texts that lead nowhere else are shorter than any suffix.
  have hlength : ∀ s, label ++ suffix = s → 2 < s.length := by
    rintro s rfl
    rw [String.length_append]
    omega
  refine ⟨by simp [hchars, hslash], Bool.eq_false_iff.2 fun hidle => ?_, fun hup => ?_⟩
  · obtain hempty | hdot := Bool.or_eq_true_iff.1 hidle
    · exact absurd (hlength _ (of_decide_eq_true hempty)) (by decide)
    · exact absurd (hlength _ (of_decide_eq_true hdot)) (by decide)
  · exact absurd (hlength _ hup) (by decide)

theorem isName_keyFile {label : String} (h : isLabel label) : Path.IsName (keyFile label) :=
  isName_of_isLabel h (by decide) (by decide)

theorem isName_certificateFile {label : String} (h : isLabel label) :
    Path.IsName (certificateFile label) := isName_of_isLabel h (by decide) (by decide)

theorem isName_identityFile : Path.IsName identityFile := ⟨by decide, by decide, by decide⟩

theorem append_ne_append {label label' suffix suffix' : String}
    (hlength : suffix.length = suffix'.length) (hne : suffix ≠ suffix') :
    label ++ suffix ≠ label' ++ suffix' := by
  intro h
  have hlist := congrArg String.toList h
  rw [String.toList_append, String.toList_append] at hlist
  have htails : suffix.toList.length = suffix'.toList.length := by
    rwa [String.length_toList, String.length_toList]
  have hsuffix := (List.append_inj' hlist htails).2
  exact hne (String.toList_inj.1 hsuffix)

theorem keyFile_ne_certificateFile (label label' : String) :
    keyFile label ≠ certificateFile label' := append_ne_append (by decide) (by decide)

theorem identityFile_eq : identityFile = "ident" ++ "ity.json" := rfl

theorem keyFile_ne_identityFile (label : String) : keyFile label ≠ identityFile := by
  rw [identityFile_eq]
  exact append_ne_append (by decide) (by decide)

theorem certificateFile_ne_identityFile (label : String) :
    certificateFile label ≠ identityFile := by
  rw [identityFile_eq]
  exact append_ne_append (by decide) (by decide)

namespace FileStore

variable {store : FileStore} {d d' d'' : Disk} {name text : String}
  {writes later : List (String × String)}

/-! ## The directory -/

/-- What the files of the directory hold, by their names. -/
def shelf (store : FileStore) (d : Disk) (name : String) : Option Bytes :=
  d.content? (d.place store.directory ++ [name])

/-- The paths of the files that are in the directory can be followed. -/
def Reaches (store : FileStore) (d : Disk) : Prop :=
  ∀ name, Path.IsName name → store.shelf d name ≠ none →
    d.follow (Path.join store.directory name) = .ok (d.place (Path.join store.directory name))

theorem toOption_read_join (h : store.Reaches d) (hname : Path.IsName name) :
    (d.read (Path.join store.directory name)).toOption = store.shelf d name := by
  have hplace := d.place_join store.directory hname
  by_cases hnone : store.shelf d name = none
  · -- What is not there cannot be read, whether or not its path can be followed.
    rw [hnone]
    cases hread : d.read (Path.join store.directory name) with
    | error fault => rfl
    | ok content =>
      have hcontent := Disk.content?_of_read hread
      rw [hplace] at hcontent
      rw [shelf, hcontent] at hnone
      cases hnone
  · rw [Disk.toOption_read (h name hname hnone), hplace]
    rfl

/-- There is nothing in the directory, if there is a directory. -/
def IsEmpty (store : FileStore) (d : Disk) : Prop :=
  ∀ name, d.find? (d.place store.directory ++ [name]) = none

theorem IsEmpty.shelf (h : store.IsEmpty d) (name : String) : store.shelf d name = none := by
  rw [FileStore.shelf, Disk.content?, h name]
  rfl

theorem IsEmpty.reaches (h : store.IsEmpty d) : store.Reaches d :=
  fun name _ hne => absurd (h.shelf name) hne

/-- The files of the directory, by their names, are written with these texts, one after the other,
and no others are. -/
structure Puts (store : FileStore) (writes : List (String × String)) (d d' : Disk) : Prop
    extends Disk.Extends d d' where
  names : ∀ e ∈ writes, Path.IsName e.1
  shelf : ∀ name, store.shelf d' name =
    ((lastUnder name writes).map utf8).or (store.shelf d name)
  reaches : store.Reaches d → store.Reaches d'

theorem Puts.trans (h : store.Puts writes d d') (h' : store.Puts later d' d'') :
    store.Puts (writes ++ later) d d'' where
  toExtends := h.toExtends.trans h'.toExtends
  names := List.forall_mem_append.2 ⟨h.names, h'.names⟩
  shelf := fun name => by
    rw [h'.shelf, h.shelf, lastUnder_append, Option.map_or, Option.or_assoc]
  reaches := h'.reaches ∘ h.reaches

theorem puts_of_grows (h : d.Grows d') : store.Puts [] d d' := by
  have hshelf : ∀ name, store.shelf d' name = store.shelf d name := fun name => by
    rw [shelf, h.place, h.content]
    rfl
  refine ⟨h.toExtends, nofun, hshelf, fun hreaches name hname hne => ?_⟩
  rw [hshelf] at hne
  rw [h.place]
  exact h.follow (hreaches name hname hne)

theorem puts_of_write {mode : FileMode} (hname : Path.IsName name)
    (h : d.write (Path.join store.directory name) mode (utf8 text) = .ok d') :
    store.Puts [(name, text)] d d' := by
  obtain ⟨hfollow, hwrote⟩ := Disk.write_eq_ok h
  have hplace := d.place_join store.directory hname
  have hshelf : ∀ n, store.shelf d' n = if n = name then some (utf8 text) else store.shelf d n := by
    intro n
    rw [shelf, hwrote.place, hwrote.content, hplace]
    simp [shelf]
  refine ⟨hwrote.toExtends, List.forall_mem_singleton.2 hname, fun n => ?_, ?_⟩
  · rw [hshelf, lastUnder_cons]
    by_cases hn : n = name
    · simp [hn, lastUnder, valuesUnder]
    · simp [hn, Ne.symm hn, lastUnder, valuesUnder]
  · intro hreaches n hn hne
    rw [hwrote.place]
    by_cases heq : n = name
    · rw [heq]
      exact hwrote.follow hfollow
    · rw [hshelf, if_neg heq] at hne
      exact hwrote.follow (hreaches n hn hne)

theorem Puts.refl (store : FileStore) (d : Disk) : store.Puts [] d d := puts_of_grows (.refl d)

/-- A file that was written can be read, and holds what was written to it last. -/
theorem Puts.read_iff {content : Bytes} (h : store.Puts writes d d') (hempty : store.IsEmpty d)
    (hname : Path.IsName name) :
    d'.read (Path.join store.directory name) = .ok content ↔
      ∃ text, lastUnder name writes = some text ∧ utf8 text = content := by
  have hread := toOption_read_join (h.reaches hempty.reaches) hname
  rw [h.shelf, hempty.shelf, Option.or_none] at hread
  rw [← Option.map_eq_some_iff, ← hread]
  cases d'.read (Path.join store.directory name) with
  | ok content' => simp [Except.toOption]
  | error fault => simp [Except.toOption]

theorem Puts.read {before : List (String × String)}
    (h : store.Puts (before ++ (writes ++ later)) d d') (hempty : store.IsEmpty d)
    (hlast : lastUnder name writes = some text) :
    d'.read (Path.join store.directory name) =
      .ok (utf8 ((lastUnder name later).getD text)) := by
  have hname : Path.IsName name := h.names (name, text) (by simp [mem_of_lastUnder hlast])
  refine (h.read_iff hempty hname).2 ⟨_, ?_, rfl⟩
  rw [lastUnder_append, lastUnder_append, hlast]
  cases lastUnder name later <;> rfl

/-! ## Calls -/

/-- A call that ends like this writes one file, if it succeeds. -/
def Stores {α : Type} (store : FileStore) (d : Disk) (name text : String) (stored : Stored α) :
    Prop := store.Puts (if stored.result.isOk then [(name, text)] else []) d stored.disk

theorem stores_write {α : Type} {mode : FileMode} (hname : Path.IsName name) (value : α)
    (line : String) :
    store.Stores d name text
      (write d (Path.join store.directory name) mode text value line) := by
  rw [write]
  cases h : d.write (Path.join store.directory name) mode (utf8 text) with
  | ok d' => exact puts_of_write hname h
  | error fault => exact .refl store d

theorem makeDirectory_grows (store : FileStore) (d : Disk) : d.Grows (store.makeDirectory d).2 :=
  d.makeDirectories_grows store.directory

/-- The directory is made first, and the file is written if that succeeds. -/
theorem stores_made {α : Type} {mode : FileMode} {made : Except StoreError Unit × Disk}
    (hgrows : d.Grows made.2) (hname : Path.IsName name) (value : α) (line : String) :
    store.Stores d name text
      (match made with
        | (.error e, d) => ⟨.error e, d, []⟩
        | (.ok (), d) => write d (Path.join store.directory name) mode text value line) := by
  match made, hgrows with
  | (.error e, d'), hgrows => exact puts_of_grows hgrows
  | (.ok (), d'), hgrows => exact (puts_of_grows hgrows).trans (stores_write hname value line)

theorem storeKey_puts (store : FileStore) (d : Disk) (label : String) (material : KeyMaterial) :
    store.Stores d (keyFile label) material.privateKey (store.storeKey d label material) := by
  by_cases hlabel : isLabel label
  · rw [storeKey, hlabel]
    exact stores_made (store.makeDirectory_grows d) (isName_keyFile hlabel) _ _
  · rw [storeKey, Bool.eq_false_iff.2 hlabel]
    exact .refl store d

theorem storeIdentity_puts (store : FileStore) (d : Disk) (record : Identity) :
    store.Stores d identityFile record.toText (store.storeIdentity d record) :=
  stores_made (store.makeDirectory_grows d) isName_identityFile _ _

theorem storeCertificate_puts (store : FileStore) (d : Disk) (handle label pem : String) :
    store.Stores d (certificateFile label) pem (store.storeCertificate d handle label pem) := by
  by_cases hlabel : isLabel label
  · rw [storeCertificate, hlabel]
    by_cases hkey : d.pathExists (store.keyPath handle)
    · rw [hkey]
      match Pem.certificates? (utf8 pem) with
      | none | some [] => exact .refl store d
      | some (_ :: _) => exact stores_write (isName_certificateFile hlabel) _ _
    · rw [Bool.eq_false_iff.2 hkey]
      exact .refl store d
  · rw [storeCertificate, Bool.eq_false_iff.2 hlabel]
    exact .refl store d

end FileStore

/-! ## Runs -/

/-- What an event writes in the directory of the store, if new keys come from `keys`. -/
def Event.writes (keys : String → KeyMaterial) : Event → List (String × String)
  | ⟨.generateKey label commonName, .ok _⟩ => [(keyFile label, (keys commonName).privateKey)]
  | ⟨.storeCertificate _ label pem, .ok ()⟩ => [(certificateFile label, pem)]
  | ⟨.storeIdentity record, .ok ()⟩ => [(identityFile, record.toText)]
  | _ => []

section Events

variable (keys : String → KeyMaterial)

theorem writes_generateKey (label commonName : String) (reply : Except StoreError KeyArtifact) :
    Event.writes keys ⟨.generateKey label commonName, reply⟩ =
      if reply.isOk then [(keyFile label, (keys commonName).privateKey)] else [] := by
  cases reply <;> rfl

theorem writes_storeCertificate (handle label pem : String) (reply : Except StoreError Unit) :
    Event.writes keys ⟨.storeCertificate handle label pem, reply⟩ =
      if reply.isOk then [(certificateFile label, pem)] else [] := by
  cases reply <;> rfl

theorem writes_storeIdentity (record : Identity) (reply : Except StoreError Unit) :
    Event.writes keys ⟨.storeIdentity record, reply⟩ =
      if reply.isOk then [(identityFile, record.toText)] else [] := by
  cases reply <;> rfl

end Events

namespace FileStore

open Interaction

variable {σ α : Type} (store : FileStore) (keys : String → KeyMaterial) (others : World σ)

theorem puts_world (c : Call) (w : Disk × σ) :
    store.Puts (Event.writes keys ⟨c, (store.world keys others c w).1⟩) w.1
      (store.world keys others c w).2.1 := by
  obtain ⟨d, s⟩ := w
  cases c with
  | generateKey label commonName =>
    rw [writes_generateKey]
    exact store.storeKey_puts d label (keys commonName)
  | storeCertificate handle label pem =>
    rw [writes_storeCertificate]
    exact store.storeCertificate_puts d handle label pem
  | storeIdentity record =>
    rw [writes_storeIdentity]
    exact store.storeIdentity_puts d record
  | _ => exact .refl store d

theorem puts_run (run : Interaction α) (w : Disk × σ) :
    store.Puts ((run.trace (store.world keys others) w).flatMap (Event.writes keys)) w.1
      (run.run (store.world keys others) w).2.1 := by
  induction run generalizing w with
  | done value => exact .refl store w.1
  | call c next ih => exact (store.puts_world keys others c w).trans (ih _ _)

end FileStore

end Enrolment
