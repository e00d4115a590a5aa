/-!
# Enrolment.Text.Split

Cutting a text at a separator character: at every occurrence, as paths are cut into components, or
at the last one, as levels are taken off the end of a topic. `n` separators give `n + 1` pieces, so
the empty text is one empty piece.

* `join_split`: the pieces with separators between them are the text again.
* `sep_not_mem_split`: no piece holds the separator.
* `split_join`: pieces without separators are found again, if there is at least one.
* `cutLastChars?_eq_some_iff`: the last separator is the one that none comes after.
-/

namespace Enrolment.Text

/-- The pieces of `cs` between the occurrences of `sep`. -/
def splitChars (sep : Char) : List Char → List (List Char)
  | [] => [[]]
  | c :: cs =>
    if c = sep then [] :: splitChars sep cs
    else match splitChars sep cs with
      | [] => [[c]]
      | piece :: pieces => (c :: piece) :: pieces

/-- The pieces with `sep` between them. -/
def joinChars (sep : Char) : List (List Char) → List Char
  | [] => []
  | [piece] => piece
  | piece :: pieces => piece ++ sep :: joinChars sep pieces

theorem splitChars_ne_nil (sep : Char) (cs : List Char) : splitChars sep cs ≠ [] := by
  cases cs with
  | nil => simp [splitChars]
  | cons c cs =>
    simp only [splitChars]
    split
    · simp
    · split <;> simp

theorem join_split (sep : Char) (cs : List Char) : joinChars sep (splitChars sep cs) = cs := by
  induction cs with
  | nil => rfl
  | cons c cs ih =>
    obtain ⟨piece, pieces, h⟩ := List.exists_cons_of_ne_nil (splitChars_ne_nil sep cs)
    rw [h] at ih
    simp only [splitChars, h]
    split
    · next hc => simp [joinChars, ih, hc]
    · cases pieces with
      | nil => simpa [joinChars] using ih
      | cons p ps => simpa [joinChars] using ih

theorem sep_not_mem_split {sep : Char} {cs piece : List Char} (h : piece ∈ splitChars sep cs) :
    sep ∉ piece := by
  induction cs generalizing piece with
  | nil => simp_all [splitChars]
  | cons c cs ih =>
    obtain ⟨p, ps, hp⟩ := List.exists_cons_of_ne_nil (splitChars_ne_nil sep cs)
    simp only [splitChars, hp] at h
    rw [hp] at ih
    split at h
    · rcases List.mem_cons.1 h with rfl | h
      · simp
      · exact ih h
    · next hc =>
      rcases List.mem_cons.1 h with rfl | h
      · have := ih (List.mem_cons_self (a := p) (l := ps))
        simp_all [eq_comm]
      · exact ih (List.mem_cons_of_mem _ h)

theorem splitChars_of_not_mem {sep : Char} {piece : List Char} (h : sep ∉ piece) :
    splitChars sep piece = [piece] := by
  induction piece with
  | nil => rfl
  | cons c cs ih =>
    have hc : c ≠ sep := fun e => h (by simp [e])
    simp [splitChars, hc, ih fun m => h (List.mem_cons_of_mem _ m)]

theorem splitChars_append (sep : Char) (xs ys : List Char) :
    splitChars sep (xs ++ sep :: ys) = splitChars sep xs ++ splitChars sep ys := by
  induction xs with
  | nil => simp [splitChars]
  | cons c cs ih =>
    by_cases hc : c = sep
    · simp [splitChars, hc, ih]
    · obtain ⟨piece, pieces, h⟩ := List.exists_cons_of_ne_nil (splitChars_ne_nil sep cs)
      simp [splitChars, hc, ih, h]

theorem splitChars_append_sep {sep : Char} {piece : List Char} (rest : List Char)
    (h : sep ∉ piece) : splitChars sep (piece ++ sep :: rest) = piece :: splitChars sep rest := by
  rw [splitChars_append, splitChars_of_not_mem h, List.singleton_append]

theorem split_join {sep : Char} {pieces : List (List Char)} (h : ∀ p ∈ pieces, sep ∉ p)
    (hne : pieces ≠ []) : splitChars sep (joinChars sep pieces) = pieces := by
  induction pieces with
  | nil => exact absurd rfl hne
  | cons p ps ih =>
    cases ps with
    | nil => exact splitChars_of_not_mem (h p (by simp))
    | cons q qs =>
      rw [joinChars, splitChars_append_sep _ (h p (by simp)),
        ih (fun r hr => h r (by simp [hr])) (by simp)]
      simp

def split (sep : Char) (s : String) : List String := (splitChars sep s.toList).map String.ofList

/-! ## One end of a text -/

/-- What stands before the last `sep`, and what stands behind it. -/
def cutLastChars? (sep : Char) : List Char → Option (List Char × List Char)
  | [] => none
  | c :: cs =>
    match cutLastChars? sep cs with
    | some (before, after) => some (c :: before, after)
    | none => if c = sep then some ([], cs) else none

theorem cutLastChars?_eq_none_iff {sep : Char} {cs : List Char} :
    cutLastChars? sep cs = none ↔ sep ∉ cs := by
  induction cs with
  | nil => simp [cutLastChars?]
  | cons c cs ih =>
    cases hcut : cutLastChars? sep cs with
    | some cut =>
      have hmem : sep ∈ cs := Decidable.byContradiction fun h => by simp [ih.2 h] at hcut
      simp [cutLastChars?, hcut, hmem]
    | none => simp [cutLastChars?, hcut, ih.1 hcut, eq_comm]

theorem cutLastChars?_append {sep : Char} (before : List Char) {after : List Char}
    (h : sep ∉ after) : cutLastChars? sep (before ++ sep :: after) = some (before, after) := by
  induction before with
  | nil => simp [cutLastChars?, cutLastChars?_eq_none_iff.2 h]
  | cons c cs ih => simp [cutLastChars?, ih]

theorem cutLastChars?_eq_some_iff {sep : Char} {cs before after : List Char} :
    cutLastChars? sep cs = some (before, after) ↔ cs = before ++ sep :: after ∧ sep ∉ after := by
  constructor
  · intro h
    induction cs generalizing before with
    | nil => cases h
    | cons c cs ih =>
      cases hcut : cutLastChars? sep cs with
      | some cut =>
        simp only [cutLastChars?, hcut, Option.some.injEq, Prod.mk.injEq] at h
        obtain ⟨rfl, rfl⟩ := h
        obtain ⟨hcs, hnot⟩ := ih hcut
        exact ⟨by rw [hcs]; rfl, hnot⟩
      | none =>
        simp only [cutLastChars?, hcut] at h
        split at h
        · next hc =>
          cases h
          exact ⟨by rw [hc]; rfl, cutLastChars?_eq_none_iff.1 hcut⟩
        · cases h
  · rintro ⟨rfl, h⟩
    exact cutLastChars?_append before h

def cutLast? (sep : Char) (s : String) : Option (String × String) :=
  (cutLastChars? sep s.toList).map fun (before, after) => (.ofList before, .ofList after)

/-- What stands behind `head`, if the text begins with it. -/
def behind? (head s : String) : Option String :=
  (head.toList.isPrefixOf? s.toList).map .ofList

/-- What stands before `tail`, if the text ends with it. -/
def before? (tail s : String) : Option String :=
  (tail.toList.isSuffixOf? s.toList).map .ofList

end Enrolment.Text
