import Enrolment.Proofs.Numerals
import Enrolment.Proofs.Pieces

/-!
# Enrolment.Proofs.Grammar

The grammar of JSON, as a relation between trees and bytes. A spelling is free in the blanks between
tokens, in the escapes of strings and in the form of numbers. What a string or a number is worth is
part of the tree: a string that is no text and a number without a finite value are written like any
other, for `Document.unreadable`.

* `read?_eq_some_iff`: a text is read as a tree exactly if it is written for it, so no text is
  written for two of them.
-/

namespace Enrolment.Json

/-! ## Writing -/

def Blanks (w : Bytes) : Prop := ∀ b ∈ w, isBlank b

instance : DecidablePred Blanks := fun w => List.decidableBAll (fun b => isBlank b) w

theorem blanks_nil : Blanks [] := nofun

/-- The bytes of a string, and the text that it is, if it is one. -/
inductive WritesString : Option String → Bytes → Prop
  | text {s : String} {b : Bytes} (h : Quotes s b) : WritesString (some s) b
  | unreadable {ps : List Piece} {content : Bytes} (h : SpellsPieces ps content)
      (hnone : contentText? ps = none) : WritesString none (ascii '"' :: (content ++ [ascii '"']))

mutual

/-- The bytes are a JSON text of the tree, from its first byte to its last. -/
inductive Writes : Document → Bytes → Prop
  | null : Writes .null (utf8 "null")
  | boolean (b : Bool) : Writes (.boolean b) (utf8 (if b then "true" else "false"))
  | number {n : Numeral} {b : Bytes} (h : SpellsNumeral n b) : Writes n.document b
  | string {s : Option String} {b : Bytes} (h : WritesString s b) :
      Writes (s.elim .unreadable .text) b
  | list {items : List Document} {b : Bytes} (h : WritesItems items b) :
      Writes (.list items) (ascii '[' :: (b ++ [ascii ']']))
  | table {entries : List (Option String × Document)} {b : Bytes} (h : WritesMembers entries b) :
      Writes (.table entries) (ascii '\x7b' :: (b ++ [ascii '\x7d']))

/-- The same, with blanks around the value. -/
inductive WritesPadded : Document → Bytes → Prop
  | mk {d : Document} {w b w' : Bytes} (before : Blanks w) (h : Writes d b) (behind : Blanks w') :
      WritesPadded d (w ++ (b ++ w'))

inductive WritesItems : List Document → Bytes → Prop
  | none {w : Bytes} (h : Blanks w) : WritesItems [] w
  | last {d : Document} {b : Bytes} (h : WritesPadded d b) : WritesItems [d] b
  | more {d : Document} {items : List Document} {b b' : Bytes} (h : WritesPadded d b)
      (hne : items ≠ []) (rest : WritesItems items b') :
      WritesItems (d :: items) (b ++ ascii ',' :: b')

/-- A key, the colon and the value. -/
inductive WritesMember : Option String → Document → Bytes → Prop
  | mk {key : Option String} {d : Document} {w k w' b : Bytes} (before : Blanks w)
      (hkey : WritesString key k) (behind : Blanks w') (h : WritesPadded d b) :
      WritesMember key d (w ++ (k ++ (w' ++ ascii ':' :: b)))

inductive WritesMembers : List (Option String × Document) → Bytes → Prop
  | none {w : Bytes} (h : Blanks w) : WritesMembers [] w
  | last {e : Option String × Document} {b : Bytes} (h : WritesMember e.1 e.2 b) :
      WritesMembers [e] b
  | more {e : Option String × Document} {entries : List (Option String × Document)}
      {b b' : Bytes} (h : WritesMember e.1 e.2 b) (hne : entries ≠ [])
      (rest : WritesMembers entries b') : WritesMembers (e :: entries) (b ++ ascii ',' :: b')

end

/-! ## Tokens -/

theorem dropBlanks_append {w : Bytes} (h : Blanks w) (rest : Bytes) :
    dropBlanks (w ++ rest) = dropBlanks rest :=
  List.dropWhile_append_of_pos h

theorem dropBlanks_cons {b : UInt8} (h : isBlank b = false) (rest : Bytes) :
    dropBlanks (b :: rest) = b :: rest := by
  simp [dropBlanks, h]

/-- The bytes that end a value inside a container. -/
def EndsValue (b : UInt8) : Prop := b = ascii ',' ∨ b = ascii ']' ∨ b = ascii '\x7d'

instance : DecidablePred EndsValue := fun _ => inferInstanceAs (Decidable (_ ∨ _))

theorem EndsValue.not_blank {b : UInt8} (h : EndsValue b) : isBlank b = false := by
  obtain rfl | rfl | rfl := h <;> decide

theorem delimited_append {w : Bytes} (hw : Blanks w) {b : UInt8} (hb : EndsValue b) (rest : Bytes) :
    Delimited (w ++ b :: rest) := by
  cases w with
  | nil =>
    rintro _ ⟨⟩
    exact .inr hb
  | cons a w =>
    rintro _ ⟨⟩
    exact .inl (hw a List.mem_cons_self)

theorem separator_closing {closing : UInt8} (hc : EndsValue closing) {w : Bytes} (hw : Blanks w)
    (rest : Bytes) : separator closing (w ++ closing :: rest) = some (true, rest) := by
  rw [separator, dropBlanks_append hw, dropBlanks_cons hc.not_blank]
  simp

theorem separator_comma {w : Bytes} (hw : Blanks w) {closing : UInt8} (hc : ascii ',' ≠ closing)
    (rest : Bytes) : separator closing (w ++ ascii ',' :: rest) = some (false, rest) := by
  rw [separator, dropBlanks_append hw, dropBlanks_cons (by decide)]
  simp [hc]

theorem afterEmpty_closing {w : Bytes} (hw : Blanks w) {closing : UInt8} (hc : EndsValue closing)
    (rest : Bytes) : afterEmpty closing (w ++ closing :: rest) = some rest := by
  rw [afterEmpty, dropBlanks_append hw, dropBlanks_cons hc.not_blank]
  simp

/-- A byte that a value or a key begins with. -/
def Begins (b : UInt8) : Prop := isBlank b = false ∧ ¬ EndsValue b

instance : DecidablePred Begins := fun _ => inferInstanceAs (Decidable (_ ∧ _))

theorem afterWord_cons {word : String} {b : UInt8} (h : (utf8 word).head? ≠ some b)
    (hword : utf8 word ≠ []) (rest : Bytes) : afterWord word (b :: rest) = none := by
  obtain ⟨a, as, ha⟩ := List.exists_cons_of_ne_nil hword
  have hne : (a == b) = false := by
    rw [ha] at h
    simpa using h
  simp [afterWord, ha, List.isPrefixOf, hne]

/-! ## Scalars -/

/-- A byte that begins neither a string nor a container. -/
def BeginsScalar (b : UInt8) : Prop := b ≠ ascii '"' ∧ b ≠ ascii '[' ∧ b ≠ ascii '\x7b'

instance : DecidablePred BeginsScalar := fun _ => inferInstanceAs (Decidable (_ ∧ _))

theorem value_scalar (fuel : Nat) {w : Bytes} (hw : Blanks w) {b : UInt8} (hblank : Begins b)
    (hb : BeginsScalar b) (rest : Bytes) :
    value (fuel + 1) (w ++ b :: rest) = scalar (b :: rest) := by
  obtain ⟨hquote, hlist, hobject⟩ := hb
  simp only [value, dropBlanks_append hw, dropBlanks_cons hblank.1, if_neg hquote,
    if_neg hlist, if_neg hobject]

theorem scalar_numeral {n : Numeral} {b rest : Bytes} (h : SpellsNumeral n b)
    (hrest : Delimited rest) : scalar (b ++ rest) = some (n.document, rest) := by
  have hnumeral := h.reads hrest
  obtain ⟨first, more, rfl, hbegins⟩ := h.begins
  rw [List.cons_append] at hnumeral ⊢
  have hnone : ∀ word ∈ ["null", "true", "false"],
      afterWord word (first :: (more ++ rest)) = none := by
    intro word hword
    refine afterWord_cons ?_ ?_ _
    · refine hbegins.of_all (P := fun b => (utf8 word).head? ≠ some b) ?_ ?_ <;>
        revert word <;> decide
    · revert word
      decide
  rw [scalar, hnone "null" (by decide), hnone "true" (by decide), hnone "false" (by decide),
    hnumeral]
  rfl

/-! ## Strings -/

/-- A string is read to its closing quote. -/
theorem WritesString.reads {s : Option String} {b : Bytes} (h : WritesString s b) (rest : Bytes) :
    ∃ content ps, b ++ rest = ascii '"' :: content ∧ pieces content = some (ps, rest) ∧
      contentText? ps = s := by
  cases h with
  | text h => exact h.reads rest
  | @unreadable ps content h hnone =>
    exact ⟨content ++ ascii '"' :: rest, ps, by simp, h.pieces rest, hnone⟩

theorem WritesString.eq_cons {s : Option String} {b : Bytes} (h : WritesString s b) :
    ∃ more, b = ascii '"' :: more := by
  cases h with
  | text h =>
    obtain ⟨content, -, rfl⟩ := h
    exact ⟨_, rfl⟩
  | unreadable _ _ => exact ⟨_, rfl⟩

/-! ## Reading -/

theorem Writes.begins {d : Document} {b : Bytes} (h : Writes d b) :
    ∃ c rest, b = c :: rest ∧ Begins c := by
  cases h with
  | boolean b => cases b <;> exact ⟨_, _, rfl, by decide⟩
  | number h =>
    obtain ⟨c, rest, rfl, hbegins⟩ := h.begins
    exact ⟨c, rest, rfl, hbegins.of_all (by decide) (by decide)⟩
  | string h =>
    obtain ⟨more, rfl⟩ := h.eq_cons
    exact ⟨_, more, rfl, by decide⟩
  | null | list _ | table _ => exact ⟨_, _, rfl, by decide⟩

theorem Writes.length_pos {d : Document} {b : Bytes} (h : Writes d b) : 0 < b.length := by
  obtain ⟨c, rest, rfl, -⟩ := h.begins
  exact Nat.succ_pos _

/-- The first byte behind the blanks begins a value or a key. -/
def BeginsPadded (b : Bytes) : Prop := ∃ w c rest, b = w ++ c :: rest ∧ Blanks w ∧ Begins c

theorem BeginsPadded.append {b : Bytes} (h : BeginsPadded b) (more : Bytes) :
    BeginsPadded (b ++ more) := by
  obtain ⟨w, c, rest, rfl, hw, hc⟩ := h
  exact ⟨w, c, rest ++ more, by simp, hw, hc⟩

theorem WritesPadded.begins {d : Document} {b : Bytes} (h : WritesPadded d b) :
    BeginsPadded b := by
  obtain @⟨_, w, b, w', hw, h, hw'⟩ := h
  obtain ⟨c, rest, rfl, hc⟩ := h.begins
  exact ⟨w, c, rest ++ w', rfl, hw, hc⟩

theorem WritesItems.begins {ds : List Document} {b : Bytes} (h : WritesItems ds b)
    (hne : ds ≠ []) : BeginsPadded b := by
  cases h with
  | none _ => exact absurd rfl hne
  | last h => exact h.begins
  | more h _ _ => exact h.begins.append _

theorem WritesMember.begins {key : Option String} {d : Document} {b : Bytes}
    (h : WritesMember key d b) : BeginsPadded b := by
  obtain @⟨_, _, w, k, w', b, hw, hkey, hw', h⟩ := h
  obtain ⟨more, rfl⟩ := hkey.eq_cons
  exact ⟨w, ascii '"', _, rfl, hw, by decide⟩

theorem WritesMembers.begins {es : List (Option String × Document)} {b : Bytes}
    (h : WritesMembers es b) (hne : es ≠ []) : BeginsPadded b := by
  cases h with
  | none _ => exact absurd rfl hne
  | last h => exact h.begins
  | more h _ _ => exact h.begins.append _

theorem afterEmpty_begins {b : Bytes} (h : BeginsPadded b) {closing : UInt8}
    (hc : EndsValue closing) : afterEmpty closing b = none := by
  obtain ⟨w, c, rest, rfl, hw, hblank, hbegins⟩ := h
  rw [afterEmpty, dropBlanks_append hw, dropBlanks_cons hblank]
  have hne : c ≠ closing := fun h => hbegins (h ▸ hc)
  simp [hne]

/-- What `fuel` is enough for: a value, and the items or the members of a container. -/
structure Reads (fuel : Nat) : Prop where
  value : ∀ {d : Document} {w b rest : Bytes}, Blanks w → Writes d b → Delimited rest →
    2 * b.length ≤ fuel → Json.value fuel (w ++ (b ++ rest)) = some (d, rest)
  items : ∀ {ds : List Document} {b rest : Bytes}, WritesItems ds b → ds ≠ [] →
    2 * b.length < fuel → Json.items fuel (b ++ ascii ']' :: rest) = some (ds, rest)
  members : ∀ {es : List (Option String × Document)} {b rest : Bytes},
    WritesMembers es b → es ≠ [] → 2 * b.length < fuel →
    Json.members fuel (b ++ ascii '\x7d' :: rest) = some (es, rest)

section Step

variable {fuel : Nat}

theorem Reads.padded (h : Reads fuel) {d : Document} {b : Bytes} (hd : WritesPadded d b)
    (hfuel : 2 * b.length ≤ fuel) {c : UInt8} (hc : EndsValue c) (rest : Bytes) :
    ∃ w, Blanks w ∧ Json.value fuel (b ++ c :: rest) = some (d, w ++ c :: rest) := by
  obtain @⟨_, w, b, w', hw, hd, hw'⟩ := hd
  simp only [List.length_append] at hfuel
  refine ⟨w', hw', ?_⟩
  rw [List.append_assoc, List.append_assoc]
  exact h.value hw hd (delimited_append hw' hc rest) (by omega)

theorem Reads.value_list (h : Reads fuel) {ds : List Document} {w b : Bytes} (hw : Blanks w)
    (hitems : WritesItems ds b) (rest : Bytes) (hfuel : 2 * b.length < fuel) :
    Json.value (fuel + 1) (w ++ ((ascii '[' :: (b ++ [ascii ']'])) ++ rest)) =
      some (.list ds, rest) := by
  have hquote : ascii '[' ≠ ascii '"' := by decide
  simp only [List.cons_append, List.append_assoc, List.nil_append, Json.value,
    dropBlanks_append hw, dropBlanks_cons (b := ascii '[') (by decide), if_neg hquote, if_pos]
  cases ds with
  | nil =>
    cases hitems with
    | none hb => rw [afterEmpty_closing hb (by decide)]
  | cons d ds =>
    have hne : d :: ds ≠ [] := List.cons_ne_nil d ds
    rw [afterEmpty_begins ((hitems.begins hne).append _) (by decide),
      h.items hitems hne (by omega)]
    rfl

theorem Reads.value_table (h : Reads fuel) {es : List (Option String × Document)} {w b : Bytes}
    (hw : Blanks w) (hmembers : WritesMembers es b) (rest : Bytes) (hfuel : 2 * b.length < fuel) :
    Json.value (fuel + 1) (w ++ ((ascii '\x7b' :: (b ++ [ascii '\x7d'])) ++ rest)) =
      some (.table es, rest) := by
  have hquote : ascii '\x7b' ≠ ascii '"' := by decide
  have hlist : ascii '\x7b' ≠ ascii '[' := by decide
  simp only [List.cons_append, List.append_assoc, List.nil_append, Json.value,
    dropBlanks_append hw, dropBlanks_cons (b := ascii '\x7b') (by decide), if_neg hquote,
    if_neg hlist, if_pos]
  cases es with
  | nil =>
    cases hmembers with
    | none hb => rw [afterEmpty_closing hb (by decide)]
  | cons e es =>
    have hne : e :: es ≠ [] := List.cons_ne_nil e es
    rw [afterEmpty_begins ((hmembers.begins hne).append _) (by decide),
      h.members hmembers hne (by omega)]
    rfl

theorem Reads.value_succ (h : Reads fuel) {d : Document} {w b rest : Bytes} (hw : Blanks w)
    (hd : Writes d b) (hrest : Delimited rest) (hfuel : 2 * b.length ≤ fuel + 1) :
    Json.value (fuel + 1) (w ++ (b ++ rest)) = some (d, rest) := by
  cases hd with
  | null => exact value_scalar fuel hw (b := ascii 'n') (by decide) (by decide) _
  | boolean b =>
    cases b
    · exact value_scalar fuel hw (b := ascii 'f') (by decide) (by decide) _
    · exact value_scalar fuel hw (b := ascii 't') (by decide) (by decide) _
  | number hnumeral =>
    rw [← scalar_numeral hnumeral hrest]
    obtain ⟨c, bs, rfl, hbegins⟩ := hnumeral.begins
    exact value_scalar fuel hw (hbegins.of_all (by decide) (by decide))
      (hbegins.of_all (by decide) (by decide)) _
  | string hstring =>
    obtain ⟨content, ps, hb, hpieces, rfl⟩ := hstring.reads rest
    rw [hb]
    simp [Json.value, dropBlanks_append hw, dropBlanks_cons (b := ascii '"') (by decide), hpieces]
  | list hitems =>
    simp only [List.length_cons, List.length_append] at hfuel
    exact h.value_list hw hitems rest (by omega)
  | table hmembers =>
    simp only [List.length_cons, List.length_append] at hfuel
    exact h.value_table hw hmembers rest (by omega)

theorem Reads.items_succ (h : Reads fuel) {ds : List Document} {b rest : Bytes}
    (hitems : WritesItems ds b) (hne : ds ≠ []) (hfuel : 2 * b.length < fuel + 1) :
    Json.items (fuel + 1) (b ++ ascii ']' :: rest) = some (ds, rest) := by
  cases hitems with
  | none _ => exact absurd rfl hne
  | last hd =>
    obtain ⟨w, hw, hvalue⟩ := h.padded hd (by omega) (c := ascii ']') (by decide) rest
    have hend : EndsValue (ascii ']') := by decide
    simp [Json.items, hvalue, separator_closing hend hw]
  | @more d ds b b' hd hmore hitems =>
    simp only [List.length_append, List.length_cons] at hfuel
    have hcomma : ascii ',' ≠ ascii ']' := by decide
    obtain ⟨w, hw, hvalue⟩ := h.padded hd (by omega) (c := ascii ',') (by decide)
      (b' ++ ascii ']' :: rest)
    rw [List.append_assoc, List.cons_append]
    simp [Json.items, hvalue, separator_comma hw hcomma, h.items hitems hmore (by omega)]

theorem key_reads {s : Option String} {b : Bytes} (h : WritesString s b) {w w' : Bytes}
    (hw : Blanks w) (hw' : Blanks w') (rest : Bytes) :
    key (dropBlanks (w ++ (b ++ (w' ++ ascii ':' :: rest)))) = some (s, rest) := by
  obtain ⟨content, ps, hb, hpieces, htext⟩ := h.reads (w' ++ ascii ':' :: rest)
  rw [hb, dropBlanks_append hw, dropBlanks_cons (by decide)]
  simp [key, hpieces, dropBlanks_append hw', dropBlanks_cons (b := ascii ':') (by decide), htext]

theorem Reads.member (h : Reads fuel) {key : Option String} {d : Document} {b : Bytes}
    (hm : WritesMember key d b) (hfuel : 2 * b.length ≤ fuel) {c : UInt8} (hc : EndsValue c)
    (rest : Bytes) :
    ∃ input w, Json.key (dropBlanks (b ++ c :: rest)) = some (key, input) ∧ Blanks w ∧
      Json.value fuel input = some (d, w ++ c :: rest) := by
  obtain @⟨_, _, w, k, w', b, hw, hkey, hw', hd⟩ := hm
  simp only [List.length_append, List.length_cons] at hfuel
  obtain ⟨w'', hw'', hvalue⟩ := h.padded hd (by omega) hc rest
  refine ⟨b ++ c :: rest, w'', ?_, hw'', hvalue⟩
  rw [← key_reads hkey hw hw' (b ++ c :: rest)]
  simp only [List.append_assoc, List.cons_append]

theorem Reads.members_succ (h : Reads fuel) {es : List (Option String × Document)}
    {b rest : Bytes} (hmembers : WritesMembers es b) (hne : es ≠ [])
    (hfuel : 2 * b.length < fuel + 1) :
    Json.members (fuel + 1) (b ++ ascii '\x7d' :: rest) = some (es, rest) := by
  cases hmembers with
  | none _ => exact absurd rfl hne
  | last hm =>
    obtain ⟨input, w, hkey, hw, hvalue⟩ :=
      h.member hm (by omega) (c := ascii '\x7d') (by decide) rest
    have hend : EndsValue (ascii '\x7d') := by decide
    simp [Json.members, hkey, hvalue, separator_closing hend hw]
  | @more e es b b' hm hmore hmembers =>
    simp only [List.length_append, List.length_cons] at hfuel
    have hcomma : ascii ',' ≠ ascii '\x7d' := by decide
    obtain ⟨input, w, hkey, hw, hvalue⟩ := h.member hm (by omega) (c := ascii ',') (by decide)
      (b' ++ ascii '\x7d' :: rest)
    rw [List.append_assoc, List.cons_append]
    simp [Json.members, hkey, hvalue, separator_comma hw hcomma,
      h.members hmembers hmore (by omega)]

end Step

theorem reads (fuel : Nat) : Reads fuel := by
  induction fuel with
  | zero =>
    refine ⟨fun _ hd _ hfuel => ?_, fun _ _ hfuel => ?_, fun _ _ hfuel => ?_⟩
    · exact absurd hd.length_pos (by omega)
    · exact absurd hfuel (Nat.not_lt_zero _)
    · exact absurd hfuel (Nat.not_lt_zero _)
  | succ fuel ih => exact ⟨ih.value_succ, ih.items_succ, ih.members_succ⟩

/-- A text that is written for a tree is read as that tree. -/
theorem WritesPadded.reads {d : Document} {b : Bytes} (h : WritesPadded d b) :
    read? b = some d := by
  obtain @⟨_, w, b, w', hw, h, hw'⟩ := h
  have hdelimited : Delimited w' := fun c hc => .inl (hw' c (List.mem_of_head? hc))
  have hend : dropBlanks w' = [] := by
    have hall := dropBlanks_append hw' []
    rwa [List.append_nil] at hall
  have hread := (Json.reads (2 * (w ++ (b ++ w')).length + 2)).value hw h hdelimited
    (by simp only [List.length_append]; omega)
  rw [read?, hread]
  simp [hend]

/-! ## What is read -/

theorem dropBlanks_spelled (input : Bytes) : ∃ w, Blanks w ∧ input = w ++ dropBlanks input := by
  refine ⟨input.takeWhile isBlank, fun b hb => ?_, (List.takeWhile_append_dropWhile ..).symm⟩
  exact List.all_eq_true.1 List.all_takeWhile b hb

theorem pieces_written {input rest : Bytes} {ps : List Piece} (h : pieces input = some (ps, rest)) :
    ∃ b, WritesString (contentText? ps) b ∧ ascii '"' :: input = b ++ rest := by
  obtain ⟨content, hcontent, rfl⟩ := pieces_spelled h
  refine ⟨ascii '"' :: (content ++ [ascii '"']), ?_, by simp⟩
  cases htext : contentText? ps with
  | none => exact .unreadable hcontent htext
  | some s => exact .text (hcontent.quotes htext)

theorem afterWord_eq_some {word : String} {input rest : Bytes}
    (h : afterWord word input = some rest) : input = utf8 word ++ rest := by
  unfold afterWord at h
  split at h
  · next hprefix =>
    cases h
    obtain ⟨more, rfl⟩ := List.isPrefixOf_iff_prefix.1 hprefix
    rw [List.drop_left]
  · cases h

theorem scalar_written {input rest : Bytes} {d : Document} (h : scalar input = some (d, rest)) :
    ∃ b, Writes d b ∧ input = b ++ rest := by
  unfold scalar at h
  split at h
  · next hword => cases h; exact ⟨_, .null, afterWord_eq_some hword⟩
  · split at h
    · next hword => cases h; exact ⟨_, .boolean true, afterWord_eq_some hword⟩
    · split at h
      · next hword => cases h; exact ⟨_, .boolean false, afterWord_eq_some hword⟩
      · obtain ⟨⟨n, rest'⟩, hnumeral, h⟩ := Option.bind_eq_some_iff.1 h
        cases h
        obtain ⟨b, hb, hinput⟩ := numeral_spelled hnumeral
        exact ⟨b, .number hb, hinput⟩

theorem key_written {input rest : Bytes} {k : Option String} (h : key input = some (k, rest)) :
    ∃ b w, WritesString k b ∧ Blanks w ∧ input = b ++ (w ++ ascii ':' :: rest) := by
  unfold key at h
  split at h
  · cases h
  · split at h
    · next hquote =>
      obtain ⟨⟨ps, rest'⟩, hpieces, h⟩ := Option.bind_eq_some_iff.1 h
      simp only at h
      split at h
      · next c rest'' hcolon =>
        split at h
        · next hc =>
          cases h
          obtain ⟨b, hb, hinput⟩ := pieces_written hpieces
          obtain ⟨w, hw, hrest⟩ := dropBlanks_spelled rest'
          refine ⟨b, w, hb, hw, ?_⟩
          rw [hquote, hinput, hrest, hcolon, hc]
        · cases h
      · cases h
    · cases h

theorem separator_written {closing : UInt8} {input rest : Bytes} {last : Bool}
    (h : separator closing input = some (last, rest)) :
    ∃ w, Blanks w ∧ input = w ++ (if last then closing else ascii ',') :: rest := by
  obtain ⟨w, hw, hinput⟩ := dropBlanks_spelled input
  unfold separator at h
  split at h
  · cases h
  · next b more hb =>
    split at h
    · next hclosing =>
      cases h
      exact ⟨w, hw, by rw [hinput, hb, hclosing]; rfl⟩
    · split at h
      · next hcomma =>
        cases h
        exact ⟨w, hw, by rw [hinput, hb, hcomma]; rfl⟩
      · cases h

theorem afterEmpty_written {closing : UInt8} {input rest : Bytes}
    (h : afterEmpty closing input = some rest) : ∃ w, Blanks w ∧ input = w ++ closing :: rest := by
  obtain ⟨w, hw, hinput⟩ := dropBlanks_spelled input
  unfold afterEmpty at h
  split at h
  · cases h
  · next b more hb =>
    split at h
    · next hclosing =>
      cases h
      exact ⟨w, hw, by rw [hinput, hb, hclosing]⟩
    · cases h

/-- With this much fuel, what is read was written. -/
structure Sound (fuel : Nat) : Prop where
  value {input rest : Bytes} {d : Document} (h : value fuel input = some (d, rest)) :
    ∃ w b, Blanks w ∧ Writes d b ∧ input = w ++ (b ++ rest)
  items {input rest : Bytes} {ds : List Document} (h : items fuel input = some (ds, rest)) :
    ∃ b, ds ≠ [] ∧ WritesItems ds b ∧ input = b ++ ascii ']' :: rest
  members {input rest : Bytes} {es : List (Option String × Document)}
    (h : members fuel input = some (es, rest)) :
    ∃ b, es ≠ [] ∧ WritesMembers es b ∧ input = b ++ ascii '\x7d' :: rest

section Rounds

variable {fuel : Nat} {input rest : Bytes}

theorem Sound.value_succ (h : Sound fuel) {d : Document}
    (hvalue : Json.value (fuel + 1) input = some (d, rest)) :
    ∃ w b, Blanks w ∧ Writes d b ∧ input = w ++ (b ++ rest) := by
  obtain ⟨w, hw, hinput⟩ := dropBlanks_spelled input
  suffices hwritten : ∃ b, Writes d b ∧ dropBlanks input = b ++ rest by
    obtain ⟨b, hb, hrest⟩ := hwritten
    exact ⟨w, b, hw, hb, by rw [← hrest]; exact hinput⟩
  rw [Json.value] at hvalue
  split at hvalue
  · cases hvalue
  · next first more hfirst =>
    rw [hfirst]
    split at hvalue
    · next hquote =>
      obtain ⟨⟨ps, rest'⟩, hpieces, hvalue⟩ := Option.bind_eq_some_iff.1 hvalue
      cases hvalue
      obtain ⟨b, hb, hrest⟩ := pieces_written hpieces
      exact ⟨b, .string hb, by rw [hquote, hrest]⟩
    · split at hvalue
      · next hlist =>
        split at hvalue
        · next rest' hempty =>
          cases hvalue
          obtain ⟨w', hw', rfl⟩ := afterEmpty_written hempty
          exact ⟨_, .list (.none hw'), by simp [hlist]⟩
        · obtain ⟨⟨ds, rest'⟩, hitems, hvalue⟩ := Option.bind_eq_some_iff.1 hvalue
          cases hvalue
          obtain ⟨b, -, hb, rfl⟩ := h.items hitems
          exact ⟨_, .list hb, by simp [hlist]⟩
      · split at hvalue
        · next htable =>
          split at hvalue
          · next rest' hempty =>
            cases hvalue
            obtain ⟨w', hw', rfl⟩ := afterEmpty_written hempty
            exact ⟨_, .table (.none hw'), by simp [htable]⟩
          · obtain ⟨⟨es, rest'⟩, hmembers, hvalue⟩ := Option.bind_eq_some_iff.1 hvalue
            cases hvalue
            obtain ⟨b, -, hb, rfl⟩ := h.members hmembers
            exact ⟨_, .table hb, by simp [htable]⟩
        · exact scalar_written hvalue

theorem Sound.padded (h : Sound fuel) {d : Document} {closing : UInt8} {last : Bool}
    {rest' : Bytes} (hvalue : Json.value fuel input = some (d, rest'))
    (hseparator : separator closing rest' = some (last, rest)) :
    ∃ b, WritesPadded d b ∧ input = b ++ (if last then closing else ascii ',') :: rest := by
  obtain ⟨w, b, hw, hb, hinput⟩ := h.value hvalue
  obtain ⟨w', hw', hrest⟩ := separator_written hseparator
  exact ⟨_, .mk hw hb hw', by rw [hinput, hrest]; simp⟩

theorem Sound.items_succ (h : Sound fuel) {ds : List Document}
    (hitems : Json.items (fuel + 1) input = some (ds, rest)) :
    ∃ b, ds ≠ [] ∧ WritesItems ds b ∧ input = b ++ ascii ']' :: rest := by
  rw [Json.items] at hitems
  obtain ⟨⟨d, r₁⟩, hvalue, hitems⟩ := Option.bind_eq_some_iff.1 hitems
  obtain ⟨⟨last, r₂⟩, hseparator, hitems⟩ := Option.bind_eq_some_iff.1 hitems
  obtain ⟨b, hb, hinput⟩ := h.padded hvalue hseparator
  cases last with
  | true =>
    cases hitems
    exact ⟨b, List.cons_ne_nil _ _, .last hb, hinput⟩
  | false =>
    obtain ⟨⟨ds', r₃⟩, hmore, hitems⟩ := Option.bind_eq_some_iff.1 hitems
    cases hitems
    obtain ⟨b', hne, hb', rfl⟩ := h.items hmore
    exact ⟨_, List.cons_ne_nil _ _, .more hb hne hb', by simp [hinput]⟩

theorem Sound.members_succ (h : Sound fuel) {es : List (Option String × Document)}
    (hmembers : Json.members (fuel + 1) input = some (es, rest)) :
    ∃ b, es ≠ [] ∧ WritesMembers es b ∧ input = b ++ ascii '\x7d' :: rest := by
  rw [Json.members] at hmembers
  obtain ⟨⟨k, r₀⟩, hkey, hmembers⟩ := Option.bind_eq_some_iff.1 hmembers
  obtain ⟨⟨d, r₁⟩, hvalue, hmembers⟩ := Option.bind_eq_some_iff.1 hmembers
  obtain ⟨⟨last, r₂⟩, hseparator, hmembers⟩ := Option.bind_eq_some_iff.1 hmembers
  obtain ⟨w, hw, hinput⟩ := dropBlanks_spelled input
  obtain ⟨kb, w', hkb, hw', hrest⟩ := key_written hkey
  obtain ⟨b, hb, hr₀⟩ := h.padded hvalue hseparator
  have hmember : WritesMember k d _ := .mk hw hkb hw' hb
  cases last with
  | true =>
    cases hmembers
    refine ⟨_, List.cons_ne_nil _ _, .last hmember, ?_⟩
    rw [hinput, hrest, hr₀]
    simp
  | false =>
    obtain ⟨⟨es', r₃⟩, hmore, hmembers⟩ := Option.bind_eq_some_iff.1 hmembers
    cases hmembers
    obtain ⟨b', hne, hb', rfl⟩ := h.members hmore
    refine ⟨_, List.cons_ne_nil _ _, .more hmember hne hb', ?_⟩
    rw [hinput, hrest, hr₀]
    simp

end Rounds

theorem sound (fuel : Nat) : Sound fuel := by
  induction fuel with
  | zero => exact ⟨nofun, nofun, nofun⟩
  | succ fuel ih => exact ⟨ih.value_succ, ih.items_succ, ih.members_succ⟩

theorem read?_written {input : Bytes} {d : Document} (h : read? input = some d) :
    WritesPadded d input := by
  obtain ⟨⟨d', rest⟩, hvalue, h⟩ := Option.bind_eq_some_iff.1 h
  obtain ⟨w, b, hw, hb, hinput⟩ := (sound _).value hvalue
  simp only at h
  split at h
  · next hempty =>
    cases h
    obtain ⟨w', hw', hrest⟩ := dropBlanks_spelled rest
    rw [List.isEmpty_iff.1 hempty, List.append_nil] at hrest
    rw [hinput, hrest]
    exact .mk hw hb hw'
  · cases h

/-- A text is read as a tree exactly if it is written for it. -/
theorem read?_eq_some_iff {input : Bytes} {d : Document} :
    read? input = some d ↔ WritesPadded d input :=
  ⟨read?_written, WritesPadded.reads⟩

end Enrolment.Json
