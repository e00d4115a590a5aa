/-!
# Enrolment.TextMap

Maps from texts to texts, kept in ascending order of their keys, which is the order of their UTF-8
bytes. Requests, records and summaries list them in that order, and a key is listed once.

* `get?_insert`: the last value written under a key is the one that is read.
* `ascending_insertEntry`: writing keeps the order.
-/

namespace Enrolment

/-- The entries with `key` set to `value`, if they are in ascending order. -/
def insertEntry (key value : String) : List (String × String) → List (String × String)
  | [] => [(key, value)]
  | (k, v) :: rest =>
    if key < k then (key, value) :: (k, v) :: rest
    else if key = k then (key, value) :: rest
    else (k, v) :: insertEntry key value rest

/-- The key stands before every entry of the list. -/
def BelowAll (key : String) (entries : List (String × String)) : Prop :=
  ∀ e ∈ entries, key < e.1

/-- The entries are in ascending order of their keys. -/
def Ascending : List (String × String) → Prop
  | [] => True
  | e :: rest => BelowAll e.1 rest ∧ Ascending rest

theorem mem_insertEntry {key value : String} {entries : List (String × String)}
    {e : String × String} (h : e ∈ insertEntry key value entries) :
    e = (key, value) ∨ e ∈ entries := by
  induction entries with
  | nil => simpa [insertEntry] using h
  | cons p rest ih =>
    obtain ⟨k, v⟩ := p
    simp only [insertEntry] at h
    split at h
    · simpa using h
    · split at h
      · rcases List.mem_cons.1 h with h | h
        · exact .inl h
        · exact .inr (List.mem_cons_of_mem _ h)
      · rcases List.mem_cons.1 h with h | h
        · exact .inr (h ▸ List.mem_cons_self)
        · exact (ih h).imp_right (List.mem_cons_of_mem _)

/-- Two keys of which neither stands before the other are one. -/
theorem key_trichotomy {a b : String} (h₁ : ¬a < b) (h₂ : ¬a = b) : b < a := by
  rcases String.le_total a b with h | h
  · exact absurd (String.le_antisymm h (String.not_lt.1 h₁)) h₂
  · exact Classical.byContradiction fun n => h₂ (String.le_antisymm (String.not_lt.1 n) h)

theorem ascending_insertEntry {key value : String} {entries : List (String × String)}
    (h : Ascending entries) : Ascending (insertEntry key value entries) := by
  induction entries with
  | nil => exact ⟨by simp [BelowAll], trivial⟩
  | cons p rest ih =>
    obtain ⟨k, v⟩ := p
    simp only [insertEntry]
    split
    · next hlt =>
      refine ⟨fun e he => ?_, h⟩
      rcases List.mem_cons.1 he with rfl | he
      · exact hlt
      · exact String.lt_trans hlt (h.1 e he)
    · next hlt =>
      split
      · next heq => exact ⟨heq ▸ h.1, h.2⟩
      · next hne =>
        refine ⟨fun e he => ?_, ih h.2⟩
        rcases mem_insertEntry he with rfl | he
        · exact key_trichotomy hlt hne
        · exact h.1 e he

structure TextMap where
  entries : List (String × String)
  ascending : Ascending entries

namespace TextMap

@[ext] theorem ext {a b : TextMap} (h : a.entries = b.entries) : a = b := by
  cases a
  cases b
  cases h
  rfl

instance : DecidableEq TextMap := fun a b =>
  if h : a.entries = b.entries then isTrue (ext h) else isFalse fun e => h (e ▸ rfl)

def empty : TextMap := ⟨[], trivial⟩

def insert (m : TextMap) (key value : String) : TextMap :=
  ⟨insertEntry key value m.entries, ascending_insertEntry m.ascending⟩

def get? (m : TextMap) (key : String) : Option String := m.entries.lookup key

def isEmpty (m : TextMap) : Bool := m.entries.isEmpty

/-- The map in which the last value listed for a key stands under it. -/
def ofList (entries : List (String × String)) : TextMap :=
  entries.foldl (fun m e => m.insert e.1 e.2) empty

theorem lookup_cons_text (k a v : String) (rest : List (String × String)) :
    ((a, v) :: rest).lookup k = if k = a then some v else rest.lookup k := by
  by_cases h : k = a
  · subst h; simp
  · have hb : (k == a) = false := beq_false_of_ne h
    simp [List.lookup_cons, hb, h]

theorem lookup_insertEntry (key value k : String) (entries : List (String × String)) :
    (insertEntry key value entries).lookup k =
      if k = key then some value else entries.lookup k := by
  induction entries with
  | nil => simp [insertEntry]
  | cons p rest ih =>
    obtain ⟨a, v⟩ := p
    simp only [insertEntry]
    split
    · simp only [lookup_cons_text]
    · split
      · next heq => subst heq; simp only [lookup_cons_text]; split <;> rfl
      · next hne =>
        simp only [lookup_cons_text, ih]
        by_cases ha : k = a
        · have : k ≠ key := fun e => hne (e ▸ ha)
          simp [ha, ha ▸ this]
        · simp [ha]

theorem get?_insert (m : TextMap) (key value k : String) :
    (m.insert key value).get? k = if k = key then some value else m.get? k :=
  lookup_insertEntry key value k m.entries

end TextMap

end Enrolment
