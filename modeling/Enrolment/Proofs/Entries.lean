import Enrolment.TextMap

/-!
# Enrolment.Proofs.Entries

Lists of entries in which a later entry takes the place of an earlier one under the same key.

* `foldl_lastUnder`: overwriting entry by entry leaves the last value under each key.
* `TextMap.ofList_entries`: a map is read back from its own entries.
-/

namespace Enrolment

section LastUnder

variable {α : Type} {key : String}

/-- The values under a key, in order. -/
def valuesUnder (key : String) (entries : List (String × α)) : List α :=
  (entries.filter fun e => e.1 = key).map Prod.snd

def lastUnder (key : String) (entries : List (String × α)) : Option α :=
  (valuesUnder key entries).getLast?

theorem lastUnder_cons (key : String) (e : String × α) (rest : List (String × α)) :
    lastUnder key (e :: rest) =
      (lastUnder key rest).or (if e.1 = key then some e.2 else none) := by
  by_cases h : e.1 = key
  · simp [lastUnder, valuesUnder, h, List.getLast?_cons, Option.or_some]
  · simp [lastUnder, valuesUnder, h]

theorem lastUnder_append (key : String) (entries later : List (String × α)) :
    lastUnder key (entries ++ later) = (lastUnder key later).or (lastUnder key entries) := by
  simp [lastUnder, valuesUnder]

theorem mem_valuesUnder {entries : List (String × α)} {v : α} :
    v ∈ valuesUnder key entries ↔ (key, v) ∈ entries := by
  simp [valuesUnder, and_comm]

theorem mem_of_lastUnder {entries : List (String × α)} {v : α}
    (h : lastUnder key entries = some v) : (key, v) ∈ entries :=
  mem_valuesUnder.1 (List.mem_of_getLast? h)

theorem lastUnder_eq_none_iff {entries : List (String × α)} :
    lastUnder key entries = none ↔ ∀ v, (key, v) ∉ entries := by
  simp only [lastUnder, List.getLast?_eq_none_iff, List.eq_nil_iff_forall_not_mem, mem_valuesUnder]

theorem lastUnder_map {β : Type} (f : α → β) (entries : List (String × α)) :
    lastUnder key (entries.map fun e => (e.1, f e.2)) = (lastUnder key entries).map f := by
  induction entries with
  | nil => rfl
  | cons e rest ih =>
    rw [List.map_cons, lastUnder_cons, lastUnder_cons, ih]
    cases lastUnder key rest with
    | some v => rfl
    | none => by_cases h : e.1 = key <;> simp [h]

/-- If no key stands twice, a key has one value at most. -/
theorem valuesUnder_of_nodup {entries : List (String × α)} (h : (entries.map Prod.fst).Nodup) :
    valuesUnder key entries = (lastUnder key entries).toList := by
  induction entries with
  | nil => rfl
  | cons e rest ih =>
    obtain ⟨hfirst, hrest⟩ := List.nodup_cons.1 h
    have ih := ih hrest
    by_cases hkey : e.1 = key
    · have hnone : valuesUnder key rest = [] := by
        refine List.eq_nil_iff_forall_not_mem.2 fun v hv => hfirst ?_
        exact hkey ▸ List.mem_map_of_mem (f := Prod.fst) (mem_valuesUnder.1 hv)
      have hvalues : valuesUnder key (e :: rest) = [e.2] := by
        rw [valuesUnder, List.filter_cons_of_pos (by simpa using hkey), List.map_cons]
        exact congrArg _ hnone
      rw [lastUnder, hvalues]
      rfl
    · have hvalues : valuesUnder key (e :: rest) = valuesUnder key rest := by
        rw [valuesUnder, List.filter_cons_of_neg (by simpa using hkey)]
        rfl
      rw [lastUnder, hvalues]
      exact ih

/-- What is overwritten at each entry under one key, and at no other, ends as the last of them
says. -/
theorem foldl_lastUnder {σ β : Type} {f : σ → String × α → σ} {g : σ → β} {value : α → β}
    (hf : ∀ s e, g (f s e) = if e.1 = key then value e.2 else g s)
    (entries : List (String × α)) (start : σ) :
    g (entries.foldl f start) = (lastUnder key entries).elim (g start) value := by
  induction entries generalizing start with
  | nil => rfl
  | cons e rest ih =>
    rw [List.foldl_cons, ih, lastUnder_cons, hf]
    cases lastUnder key rest with
    | some v => rfl
    | none => by_cases h : e.1 = key <;> simp [h]

end LastUnder

theorem TextMap.get?_ofList (entries : List (String × String)) (key : String) :
    (ofList entries).get? key = lastUnder key entries := by
  have hinsert : ∀ (m : TextMap) (e : String × String),
      (m.insert e.1 e.2).get? key = if e.1 = key then some e.2 else m.get? key := by
    intro m e
    simp only [get?_insert, eq_comm]
  have hlast := foldl_lastUnder (g := fun m : TextMap => m.get? key) hinsert entries empty
  rw [ofList, hlast]
  cases lastUnder key entries <;> rfl

/-! ## Ascending entries -/

theorem ascending_iff_pairwise {entries : List (String × String)} :
    Ascending entries ↔ entries.Pairwise fun e e' => e.1 < e'.1 := by
  induction entries with
  | nil => simp [Ascending]
  | cons e rest ih => rw [Ascending, List.pairwise_cons, ih, BelowAll]

theorem insertEntry_last {key value : String} {entries : List (String × String)}
    (h : ∀ e ∈ entries, e.1 < key) :
    insertEntry key value entries = entries ++ [(key, value)] := by
  induction entries with
  | nil => rfl
  | cons e rest ih =>
    obtain ⟨k, v⟩ := e
    obtain ⟨hk, hrest⟩ := List.forall_mem_cons.1 h
    have hne : ¬ key = k := fun he => String.lt_irrefl k (he ▸ hk)
    rw [insertEntry, if_neg (String.lt_asymm hk), if_neg hne, ih hrest]
    rfl

theorem TextMap.foldl_insert {rest : List (String × String)} {m : TextMap}
    (h : Ascending (m.entries ++ rest)) :
    (rest.foldl (fun m e => m.insert e.1 e.2) m).entries = m.entries ++ rest := by
  induction rest generalizing m with
  | nil => rw [List.foldl_nil, List.append_nil]
  | cons e rest ih =>
    have hbelow : ∀ e' ∈ m.entries, e'.1 < e.1 := fun e' he' =>
      (List.pairwise_append.1 (ascending_iff_pairwise.1 h)).2.2 e' he' e List.mem_cons_self
    have hinsert : (m.insert e.1 e.2).entries = m.entries ++ [e] := insertEntry_last hbelow
    rw [List.foldl_cons, ih, hinsert, List.append_assoc, List.singleton_append]
    rwa [hinsert, List.append_assoc, List.singleton_append]

/-- A map is the map of its own entries. -/
theorem TextMap.ofList_entries (m : TextMap) : ofList m.entries = m :=
  TextMap.ext (foldl_insert (m := empty) m.ascending)

end Enrolment
