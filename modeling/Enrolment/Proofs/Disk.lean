import Enrolment.Disk.Basic

/-!
# Enrolment.Proofs.Disk

What the operations on a disk change. A path that can be followed leads where its names say,
whatever else the disk holds, and no operation takes a directory away. So a file stays where it was
found, and nothing changes it but a write to its own place.

* `follow_eq_ok`: where a path leads.
* `place_join`: where the files of a directory are.
* `makeDirectories_grows`: making directories changes no file.
* `write_eq_ok`: a write changes one file.
-/

namespace Enrolment

/-! ## Paths -/

namespace Path

/-- A text that leads from a directory to an entry of it. -/
structure IsName (name : String) : Prop where
  noSlash : '/' ∉ name.toList
  notIdle : isIdle name = false
  notUp : name ≠ ".."

variable {directory name path : String}

theorem isAbsolute_append (name : String) (h : directory ≠ "") :
    isAbsolute (directory ++ name) = isAbsolute directory := by
  have hlist : directory.toList ≠ [] := by simpa using h
  obtain ⟨c, cs, hcs⟩ := List.exists_cons_of_ne_nil hlist
  simp [isAbsolute, hcs]

theorem exists_of_endsInSlash (h : endsInSlash path) : ∃ stem, path = stem ++ "/" := by
  obtain ⟨cs, hcs⟩ := List.getLast?_eq_some_iff.1 (of_decide_eq_true h)
  refine ⟨String.ofList cs, ?_⟩
  rw [← String.toList_inj, hcs]
  simp

theorem split_slash (directory name : String) :
    Text.split '/' (directory ++ "/" ++ name) =
      Text.split '/' directory ++ Text.split '/' name := by
  simp [Text.split, Text.splitChars_append]

theorem split_slash_end (directory : String) :
    Text.split '/' (directory ++ "/") = Text.split '/' directory ++ [""] := by
  simp [Text.split, Text.splitChars_append, Text.splitChars]

theorem IsName.isAbsolute_eq_false (h : IsName name) : isAbsolute name = false := by
  refine decide_eq_false fun hhead => h.noSlash ?_
  exact List.mem_of_head? hhead

theorem IsName.split (h : IsName name) : Text.split '/' name = [name] := by
  simp [Text.split, Text.splitChars_of_not_mem h.noSlash]

end Path

/-- The content of a file. -/
def DiskEntry.content? : DiskEntry → Option Bytes
  | .file _ content => some content
  | .directory => none

namespace Disk

variable {d d' d'' : Disk} {directory name path : String} {p q : Place} {content : Bytes}

/-! ## Places -/

/-- Where a path leads, if it can be followed. -/
def place (d : Disk) (path : String) : Place := (Text.split '/' path).foldl child (d.start path)

theorem enter_eq_ok_iff : d.enter p name = .ok q ↔
    ¬ maxName < name.utf8ByteSize ∧ d.find? (child p name) = some .directory ∧
      child p name = q := by
  by_cases hlong : maxName < name.utf8ByteSize
  · simp [enter, hlong]
  · simp only [enter, hlong, if_false, not_false_eq_true, true_and]
    match d.find? (child p name) with
    | none | some (.file _ _) => simp
    | some .directory => simp

theorem followTo_eq_ok {names : List String} (h : d.followTo p names = .ok q) :
    q = names.foldl child p := by
  fun_induction followTo d p names with
  | case1 => cases h
  | case2 => cases h
  | case3 p name => cases h; rfl
  | case4 p name rest hrest ih =>
    cases hnext : d.enter p name with
    | error fault => rw [hnext] at h; cases h
    | ok next =>
      rw [hnext] at h
      obtain ⟨-, -, rfl⟩ := enter_eq_ok_iff.1 hnext
      exact ih _ h

theorem follow_eq_ok (h : d.follow path = .ok p) : p = d.place path := by
  simp only [follow] at h
  split at h
  · cases h
  · split at h
    · cases h
    · split at h
      · cases h
      · exact followTo_eq_ok h

theorem child_of_isName (h : Path.IsName name) (p : Place) : child p name = p ++ [name] := by
  simp [child, h.notIdle, h.notUp]

theorem place_slash (d : Disk) (hne : directory ≠ "") :
    d.place (directory ++ "/") = d.place directory := by
  rw [place, place, start, start, Path.isAbsolute_append _ hne, Path.split_slash_end,
    List.foldl_append]
  rfl

theorem place_below (d : Disk) (stem : String) (h : Path.IsName name) :
    d.place (stem ++ "/" ++ name) = d.place (stem ++ "/") ++ [name] := by
  rw [place, place, start, start, Path.isAbsolute_append _ (by simp), Path.split_slash,
    Path.split_slash_end, h.split, List.foldl_append, List.foldl_append]
  exact child_of_isName h _

/-- A file of a directory stands below the place of the directory. -/
theorem place_join (d : Disk) (directory : String) (h : Path.IsName name) :
    d.place (Path.join directory name) = d.place directory ++ [name] := by
  simp only [Path.join, h.isAbsolute_eq_false, Bool.false_or, decide_eq_true_eq]
  split
  · next hempty =>
    simp only [hempty, place, start, h.isAbsolute_eq_false, h.split]
    exact child_of_isName h _
  · next hne =>
    split
    · next hends =>
      -- The slash at the end of the directory is the one that stands between.
      obtain ⟨stem, rfl⟩ := Path.exists_of_endsInSlash hends
      exact d.place_below _ h
    · rw [d.place_below _ h, d.place_slash hne]

/-! ## Files -/

/-- The content of the file at a place, if there is one. -/
def content? (d : Disk) (p : Place) : Option Bytes := (d.find? p).bind DiskEntry.content?

theorem toOption_read (h : d.follow path = .ok p) : (d.read path).toOption = d.content? p := by
  simp only [read, h, content?, bind, Except.bind]
  match d.find? p with
  | none | some .directory | some (.file _ _) => rfl

theorem follow_of_read (h : d.read path = .ok content) : d.follow path = .ok (d.place path) := by
  cases hfollow : d.follow path with
  | error fault => simp [read, hfollow, bind, Except.bind] at h
  | ok p => rw [follow_eq_ok hfollow]

theorem content?_of_read (h : d.read path = .ok content) :
    d.content? (d.place path) = some content := by
  rw [← toOption_read (follow_of_read h), h]
  rfl

theorem read_eq_ok (hfollow : d.follow path = .ok p) (h : d.content? p = some content) :
    d.read path = .ok content := by
  rw [← toOption_read hfollow] at h
  cases hread : d.read path with
  | error fault => rw [hread] at h; cases h
  | ok content' => rw [hread] at h; exact congrArg _ (Option.some.inj h)

/-- `d'` has every directory that `d` has. -/
structure Extends (d d' : Disk) : Prop where
  workingDirectory : d'.workingDirectory = d.workingDirectory
  directory : ∀ {p}, d.find? p = some .directory → d'.find? p = some .directory

theorem Extends.place (h : d.Extends d') (path : String) : d'.place path = d.place path := by
  rw [Disk.place, Disk.place, start, start, h.workingDirectory]

theorem Extends.followTo {names : List String} (h : d.Extends d')
    (hfollow : d.followTo p names = .ok q) : d'.followTo p names = .ok q := by
  fun_induction Disk.followTo d p names with
  | case1 => cases hfollow
  | case2 => cases hfollow
  | case3 p name hshort => simpa [Disk.followTo, hshort] using hfollow
  | case4 p name rest hrest ih =>
    cases hnext : d.enter p name with
    | error fault => rw [hnext] at hfollow; cases hfollow
    | ok next =>
      rw [hnext] at hfollow
      have henter : d'.enter p name = .ok next := by
        obtain ⟨hshort, hdirectory, hchild⟩ := enter_eq_ok_iff.1 hnext
        exact enter_eq_ok_iff.2 ⟨hshort, h.directory hdirectory, hchild⟩
      rw [Disk.followTo, henter]
      · exact ih _ hfollow
      · exact hrest

theorem Extends.follow (h : d.Extends d') (hfollow : d.follow path = .ok p) :
    d'.follow path = .ok p := by
  simp only [Disk.follow, start, h.workingDirectory] at hfollow ⊢
  split at hfollow
  · cases hfollow
  · split at hfollow
    · cases hfollow
    · split at hfollow
      · cases hfollow
      · next hnul hne hlong =>
        rw [if_neg hnul, if_neg hne, if_neg hlong]
        exact h.followTo hfollow

/-- A file that keeps its content can still be read. -/
theorem Extends.read (h : d.Extends d') (hread : d.read path = .ok content)
    (hsame : d'.content? (d.place path) = d.content? (d.place path)) :
    d'.read path = .ok content :=
  read_eq_ok (h.follow (follow_of_read hread)) (hsame.trans (content?_of_read hread))

theorem Extends.refl (d : Disk) : d.Extends d := ⟨rfl, id⟩

theorem Extends.trans (h : d.Extends d') (h' : d'.Extends d'') : d.Extends d'' :=
  ⟨h'.workingDirectory.trans h.workingDirectory, h'.directory ∘ h.directory⟩

theorem ne_nil_of_find? (h : d.find? p ≠ some .directory) : p ≠ [] := by
  rintro rfl
  exact h rfl

theorem content?_set (h : d.find? p ≠ some .directory) (entry : DiskEntry) (q : Place) :
    (d.set p entry).content? q = if q = p then entry.content? else d.content? q := by
  rw [content?, find?_set (ne_nil_of_find? h)]
  split <;> rfl

theorem extends_set (h : d.find? p ≠ some .directory) (entry : DiskEntry) :
    d.Extends (d.set p entry) where
  workingDirectory := rfl
  directory := fun {q} hq => by
    rw [find?_set (ne_nil_of_find? h), if_neg, hq]
    rintro rfl
    exact h hq

/-- Nothing but directories is new. -/
structure Grows (d d' : Disk) : Prop extends Extends d d' where
  content : ∀ p, d'.content? p = d.content? p

theorem Grows.refl (d : Disk) : d.Grows d := ⟨.refl d, fun _ => rfl⟩

theorem Grows.trans (h : d.Grows d') (h' : d'.Grows d'') : d.Grows d'' :=
  ⟨h.toExtends.trans h'.toExtends, fun p => (h'.content p).trans (h.content p)⟩

theorem makeDirectory_eq_ok (h : d.makeDirectory path = .ok d') :
    ∃ p, d.find? p = none ∧ d' = d.set p .directory := by
  simp only [makeDirectory, bind, Except.bind] at h
  split at h
  · cases h
  · next p _ =>
    split at h
    · next hnone =>
      cases h
      exact ⟨p, hnone, rfl⟩
    · cases h

theorem makeDirectory_grows (h : d.makeDirectory path = .ok d') : d.Grows d' := by
  obtain ⟨p, hnone, rfl⟩ := makeDirectory_eq_ok h
  have hdirectory : d.find? p ≠ some .directory := by simp [hnone]
  refine ⟨extends_set hdirectory _, fun q => ?_⟩
  rw [content?_set hdirectory]
  split
  · next hq => simp [hq, content?, hnone, DiskEntry.content?]
  · rfl

/-- What making one directory keeps, making all that are missing keeps. -/
theorem makeDirectories_preserves {R : Disk → Disk → Prop} (hrefl : ∀ d, R d d)
    (htrans : ∀ {d d' d''}, R d d' → R d' d'' → R d d'')
    (hmake : ∀ {d path d'}, d.makeDirectory path = .ok d' → R d d') (d : Disk) (path : String) :
    R d (d.makeDirectories path).2 := by
  rw [makeDirectories]
  generalize path.length + 1 = fuel
  fun_induction makeDirectoriesWith fuel d path with
  | case1 d path => exact hrefl d
  | case2 fuel d => exact hrefl d
  | case3 fuel d path hne d' hmade => exact hmake hmade
  | case4 fuel d path hne hmissing fault d' habove ih => rw [habove] at ih; exact ih
  | case5 fuel d path hne hmissing d' habove d'' hmade ih =>
    rw [habove] at ih
    exact htrans ih (hmake hmade)
  | case6 fuel d path hne hmissing d' habove fault hfault ih => rw [habove] at ih; exact ih
  | case7 fuel d path hne fault hfault => exact hrefl d

theorem makeDirectories_grows (d : Disk) (path : String) : d.Grows (d.makeDirectories path).2 :=
  makeDirectories_preserves .refl .trans makeDirectory_grows d path

/-- The file at `p` is new, or its content is. -/
structure Wrote (d : Disk) (p : Place) (content : Bytes) (d' : Disk) : Prop
    extends Extends d d' where
  content : ∀ q, d'.content? q = if q = p then some content else d.content? q

theorem wrote_set (h : d.find? p ≠ some .directory) (mode : FileMode) (content : Bytes) :
    d.Wrote p content (d.set p (.file mode content)) :=
  ⟨extends_set h _, content?_set h _⟩

/-- A write puts a file where there was one, or nothing. -/
theorem set_of_write {mode : FileMode} (h : d.write path mode content = .ok d') :
    d.follow path = .ok (d.place path) ∧ d.find? (d.place path) ≠ some .directory ∧
      ∃ mode', d' = d.set (d.place path) (.file mode' content) := by
  simp only [write, bind, Except.bind] at h
  split at h
  · cases h
  · split at h
    · cases h
    · next p hfollow =>
      obtain rfl := follow_eq_ok hfollow
      split at h
      · next hnone =>
        cases h
        exact ⟨hfollow, by simp [hnone], mode, rfl⟩
      · cases h
      · next mode' _ hfile =>
        cases h
        exact ⟨hfollow, by simp [hfile], mode', rfl⟩

theorem write_eq_ok {mode : FileMode} (h : d.write path mode content = .ok d') :
    d.follow path = .ok (d.place path) ∧ d.Wrote (d.place path) content d' := by
  obtain ⟨hfollow, hfind, mode', rfl⟩ := set_of_write h
  exact ⟨hfollow, wrote_set hfind mode' content⟩

theorem read_of_write {mode : FileMode} (h : d.write path mode content = .ok d') :
    d'.read path = .ok content := by
  obtain ⟨hfollow, hwrote⟩ := write_eq_ok h
  exact read_eq_ok (hwrote.follow hfollow) ((hwrote.content _).trans (if_pos rfl))

end Disk

end Enrolment
