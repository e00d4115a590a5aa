import Enrolment.Cbor.Skip
import Enrolment.Cbor.Writer
import Mathlib.Algebra.Group.Nat.Defs

/-!
# Enrolment.Proofs.Items

Items of definite length, the bytes that spell them, and what the readers make of those bytes. The
length of a head is free: an argument may stand in more bytes than it needs. A relation says where a
cursor stands, with the items before it and the bytes behind those, and each reader moves a cursor
from one such place to the next.

* `Before.text`, `Before.mapLength`: a text and the head of a map are read back.
* `spells_writeTextMap`: what is written is spelled.
-/

namespace Enrolment.Cbor

/-! ## Spelling -/

/-- The bytes that say the major type of an item and its argument. The argument stands in the first
byte, or in the one, two, four or eight bytes behind it. -/
inductive Head (major n : Nat) : Bytes → Prop
  | short (h : n < 24) : Head major n [firstByte major n]
  | long (w : Nat) (hw : w < 4) (h : n < 256 ^ 2 ^ w) :
      Head major n (firstByte major (24 + w) :: toBigEndian (2 ^ w) n)

/-- The items that are a head and nothing else. -/
inductive Atom
  | unsigned
  | negative
  /-- A simple value, or a floating-point number, whose bits are the argument. -/
  | special

def Atom.major : Atom → Nat
  | unsigned => 0
  | negative => 1
  | special => 7

/-- An item of definite length. The content of a text is bytes, so it may be no text in UTF-8. -/
inductive Item
  | atom (kind : Atom) (argument : Nat)
  | bytes (content : Bytes)
  | text (content : Bytes)
  | array (elements : List Item)
  | map (entries : List (Item × Item))
  | tag (number : Nat) (content : Item)

namespace Item

def major : Item → Nat
  | atom kind _ => kind.major
  | bytes _ => majorBytes
  | text _ => majorText
  | array _ => majorArray
  | map _ => majorMap
  | tag .. => 6

/-- What stands in the head: the number, or how many bytes, elements or entries there are. -/
def argument : Item → Nat
  | atom _ n | tag n _ => n
  | bytes content | text content => content.length
  | array elements => elements.length
  | map entries => entries.length

/-- The bytes right behind the head. -/
def content : Item → Bytes
  | bytes content | text content => content
  | _ => []

/-- The items behind the head. -/
def inner : Item → List Item
  | array elements => elements
  | map entries => entries.flatMap fun e => [e.1, e.2]
  | tag _ content => [content]
  | _ => []

/-- Every text in the item is one in UTF-8. -/
inductive Utf8 : Item → Prop
  | mk {item : Item} (content : item.major = majorText → ∃ s, item.content = utf8 s)
      (inner : ∀ i ∈ item.inner, i.Utf8) : item.Utf8

theorem utf8_text (s : String) : (text (Enrolment.utf8 s)).Utf8 :=
  .mk (fun _ => ⟨s, rfl⟩) (List.forall_mem_nil _)

def text? : Item → Option String
  | text content => content.text?
  | _ => none

/-- The map with texts as keys. -/
def ofEntries (entries : List (String × Item)) : Item :=
  map (entries.map fun e => (text (utf8 e.1), e.2))

theorem inner_ofEntries (entries : List (String × Item)) :
    (ofEntries entries).inner = entries.flatMap fun e => [text (utf8 e.1), e.2] :=
  List.flatMap_map ..

theorem utf8_ofEntries {entries : List (String × Item)} (h : ∀ e ∈ entries, e.2.Utf8) :
    (ofEntries entries).Utf8 := by
  refine ⟨nofun, fun i hi => ?_⟩
  rw [inner_ofEntries, List.mem_flatMap] at hi
  obtain ⟨e, he, hi⟩ := hi
  obtain rfl | rfl : i = text (utf8 e.1) ∨ i = e.2 := by simpa using hi
  · exact utf8_text e.1
  · exact h e he

end Item

/-- The bytes spell the items, one after the other. The items inside of one come before those that
follow it. -/
inductive Spells : List Item → Bytes → Prop
  | nil : Spells [] []
  | cons {item : Item} {items : List Item} {b b' : Bytes} (head : Head item.major item.argument b)
      (rest : Spells (item.inner ++ items) b') : Spells (item :: items) (b ++ (item.content ++ b'))

/-! ## Heads -/

theorem foldl_toBigEndian (k n start : Nat) :
    (toBigEndian k n).foldl (fun n d => 256 * n + d.toNat) start =
      256 ^ k * start + n % 256 ^ k := by
  induction k generalizing start with
  | zero => simp [toBigEndian, Nat.mod_one]
  | succ k ih =>
    have hbyte : (UInt8.ofNat (n >>> (8 * k))).toNat = n / 256 ^ k % 256 := by
      rw [UInt8.toNat_ofNat', Nat.shiftRight_eq_div_pow, Nat.pow_mul]
    rw [toBigEndian, List.foldl_cons, ih, hbyte, Nat.mod_pow_succ, Nat.pow_succ, Nat.mul_add,
      Nat.mul_assoc]
    omega

theorem ofBigEndian_toBigEndian {k n : Nat} (h : n < 256 ^ k) :
    ofBigEndian (toBigEndian k n) = n := by
  have hfold := foldl_toBigEndian k n 0
  rwa [Nat.mul_zero, Nat.zero_add, Nat.mod_eq_of_lt h] at hfold

@[simp] theorem length_toBigEndian (k n : Nat) : (toBigEndian k n).length = k := by
  induction k with
  | zero => rfl
  | succ k ih => rw [toBigEndian, List.length_cons, ih]

theorem take_append (b tail : Bytes) (pos : Nat) :
    take b.length ⟨pos, b ++ tail⟩ = .ok (b, ⟨pos + b.length, tail⟩) := by
  have hlen : ¬ (b ++ tail).length < b.length := by simp
  rw [take, if_neg hlen]
  simp [Cursor.advance]

theorem number_append {k n : Nat} (h : n < 256 ^ k) (tail : Bytes) (pos : Nat) :
    number k ⟨pos, toBigEndian k n ++ tail⟩ = .ok (n, ⟨pos + k, tail⟩) := by
  have htake := take_append (toBigEndian k n) tail pos
  rw [length_toBigEndian] at htake
  simp only [number, htake, bind, Except.bind, pure, Except.pure, ofBigEndian_toBigEndian h]

theorem toNat_firstByte {major info : Nat} (hm : major < 8) (hi : info < 32) :
    (firstByte major info).toNat = 32 * major + info := by
  rw [firstByte, UInt8.toNat_ofNat']
  omega

theorem majorOf_firstByte {major info : Nat} (hm : major < 8) (hi : info < 32) :
    majorOf (firstByte major info) = major := by
  rw [majorOf, toNat_firstByte hm hi]
  omega

theorem infoOf_firstByte {major info : Nat} (hm : major < 8) (hi : info < 32) :
    infoOf (firstByte major info) = info := by
  rw [infoOf, toNat_firstByte hm hi]
  omega

/-- A head as the readers take it: a first byte, which says no indefinite length, and the bytes of a
longer argument. -/
structure HeadParts (major n : Nat) (first : UInt8) (rest : Bytes) : Prop where
  major : majorOf first = major
  info : infoOf first < 28
  long : 24 ≤ infoOf first → rest ≠ []
  argument : ∀ (at' pos : Nat) (tail : Bytes),
    Cbor.argument (infoOf first) at' ⟨pos, rest ++ tail⟩ = .ok (n, ⟨pos + rest.length, tail⟩)

theorem Head.read {major n : Nat} {b : Bytes} (hm : major < 8) (h : Head major n b) :
    ∃ first rest, b = first :: rest ∧ HeadParts major n first rest := by
  cases h with
  | short hn =>
    have hinfo := infoOf_firstByte hm (Nat.lt_trans hn (by decide))
    refine ⟨_, _, rfl, majorOf_firstByte hm (by omega), by omega, by omega, fun at' pos tail => ?_⟩
    rw [hinfo, Cbor.argument, if_pos hn]
    rfl
  | long w hw hn =>
    have hinfo : infoOf (firstByte major (24 + w)) = 24 + w := infoOf_firstByte hm (by omega)
    refine ⟨_, _, rfl, majorOf_firstByte hm (by omega), by omega, fun _ => ?_,
      fun at' pos tail => ?_⟩
    · have hpos : 0 < 2 ^ w := Nat.two_pow_pos w
      rw [← List.length_pos_iff, length_toBigEndian]
      exact hpos
    · rw [hinfo, length_toBigEndian, ← number_append hn]
      obtain rfl | rfl | rfl | rfl : w = 0 ∨ w = 1 ∨ w = 2 ∨ w = 3 := by omega
      all_goals rfl

theorem Head.length_pos {major n : Nat} {b : Bytes} (h : Head major n b) : 0 < b.length := by
  cases h <;> exact Nat.succ_pos _

theorem head_spelled {n : Nat} (major : Nat) (h : n < 0x10000000000000000) :
    Head major n (head major n) := by
  rw [head]
  split
  · exact .short ‹_›
  · split
    · exact .long 0 (by decide) (by omega)
    · split
      · exact .long 1 (by decide) (by omega)
      · split
        · exact .long 2 (by decide) (by omega)
        · exact .long 3 (by decide) (by omega)

/-! ## Places -/

theorem length_flatMap_pair {α β : Type} (f g : α → β) (l : List α) :
    (l.flatMap fun a => [f a, g a]).length = 2 * l.length := by
  simp [List.length_flatMap, List.map_const', Nat.mul_comm]

/-- The cursor stands before some items, and behind them comes `tail`. As counts end at
`Pending.maxCount`, the items have no more bytes than that. -/
def Before (items : List Item) (tail : Bytes) (c : Cursor) : Prop :=
  (∀ item ∈ items, item.Utf8) ∧
    ∃ b, c.rest = b ++ tail ∧ Spells items b ∧ b.length ≤ Pending.maxCount

theorem Spells.length_le {items : List Item} {b : Bytes} (h : Spells items b) :
    items.length ≤ b.length := by
  induction h with
  | nil => exact Nat.le_refl 0
  | cons head _ ih =>
    have := head.length_pos
    simp only [List.length_cons, List.length_append] at ih ⊢
    omega

/-- What spells two lists of items is in two parts, which spell them. -/
theorem Spells.of_append {items items' : List Item} {b : Bytes} (h : Spells (items ++ items') b) :
    ∃ b₁ b₂, b = b₁ ++ b₂ ∧ Spells items b₁ ∧ Spells items' b₂ := by
  generalize hall : items ++ items' = all at h
  induction h generalizing items with
  | nil =>
    obtain ⟨rfl, rfl⟩ := List.append_eq_nil_iff.1 hall
    exact ⟨[], [], rfl, .nil, .nil⟩
  | @cons item _ head _ hhead hrest ih =>
    cases items with
    | nil =>
      obtain rfl : items' = _ := hall
      exact ⟨[], _, rfl, .nil, .cons hhead hrest⟩
    | cons first items =>
      obtain ⟨rfl, rfl⟩ := List.cons.inj hall
      have happend : first.inner ++ items ++ items' = first.inner ++ (items ++ items') :=
        List.append_assoc ..
      obtain ⟨b₁, b₂, rfl, h₁, h₂⟩ := ih happend
      exact ⟨head ++ (first.content ++ b₁), b₂, by simp, .cons hhead h₁, h₂⟩

/-- The first byte of an item, and the cursors behind that byte, behind the head and behind the
content. -/
structure Opens (item : Item) (c : Cursor) (first : UInt8) (c₁ c₂ c₃ : Cursor) : Prop where
  rest : c.rest = first :: c₁.rest
  byte : Cbor.byte c = .ok (first, c₁)
  major : majorOf first = item.major
  info : infoOf first < 28
  long : 24 ≤ infoOf first → c₁.rest ≠ []
  argument : ∀ pos, Cbor.argument (infoOf first) pos c₁ = .ok (item.argument, c₂)
  content : take item.content.length c₂ = .ok (item.content, c₃)

variable {item : Item} {items : List Item} {tail : Bytes} {c : Cursor}

theorem Item.major_lt (item : Item) : item.major < 8 := by
  cases item with
  | atom kind n => cases kind <;> simp [major, Atom.major]
  | _ => simp [major, majorBytes, majorText, majorArray, majorMap]

theorem Head.opens (item : Item) {b rest : Bytes} (h : Head item.major item.argument b)
    (hrest : c.rest = b ++ (item.content ++ rest)) :
    ∃ first c₁ c₂ c₃, Opens item c first c₁ c₂ c₃ ∧ c₃.rest = rest := by
  obtain ⟨first, long, rfl, hparts⟩ := h.read item.major_lt
  obtain ⟨pos, _⟩ := c
  simp only [List.cons_append] at hrest
  subst hrest
  refine ⟨first, _, _, _, ⟨rfl, rfl, hparts.major, hparts.info, fun hl => ?_,
    fun at' => hparts.argument at' _ _, take_append item.content _ _⟩, rfl⟩
  simp [Cursor.advance, hparts.long hl]

theorem Before.opens (h : Before (item :: items) tail c) :
    ∃ first c₁ c₂ c₃, Opens item c first c₁ c₂ c₃ ∧ Before (item.inner ++ items) tail c₃ := by
  obtain ⟨hutf8, b, hrest, hspells, hlen⟩ := h
  obtain ⟨⟨-, hinner⟩, hothers⟩ := List.forall_mem_cons.1 hutf8
  cases hspells with
  | @cons _ _ head b' hhead hspells =>
    rw [List.append_assoc, List.append_assoc] at hrest
    obtain ⟨first, c₁, c₂, c₃, hopens, h₃⟩ := hhead.opens _ hrest
    refine ⟨first, c₁, c₂, c₃, hopens, List.forall_mem_append.2 ⟨hinner, hothers⟩, b', h₃, hspells,
      ?_⟩
    simp only [List.length_append] at hlen
    omega

theorem Before.rest_eq (h : Before [] tail c) : c.rest = tail := by
  obtain ⟨-, b, hrest, hspells, -⟩ := h
  cases hspells
  exact hrest

theorem Before.content_text {content : Bytes} (h : Before (.text content :: items) tail c) :
    ∃ s, content.text? = some s := by
  obtain ⟨⟨hcontent, -⟩, -⟩ := List.forall_mem_cons.1 h.1
  obtain ⟨s, rfl⟩ : ∃ s, content = utf8 s := hcontent rfl
  exact ⟨s, Bytes.text?_utf8 s⟩

/-! ## Readers -/

def Item.kind : Item → Kind
  | text _ => .text
  | _ => .other

theorem majorText_iff (item : Item) : item.major = majorText ↔ item.kind = .text := by
  cases item with
  | atom kind n => cases kind <;> simp [Item.major, Item.kind, Atom.major, majorText]
  | _ => simp [Item.major, Item.kind, majorBytes, majorText, majorArray, majorMap]

section Opens

variable {first : UInt8} {c₁ c₂ c₃ : Cursor}

theorem Opens.definite (h : Opens item c first c₁ c₂ c₃) : infoOf first ≠ indefinite := by
  have := h.info
  simp only [indefinite]
  omega

theorem Opens.kindAt (h : Opens item c first c₁ c₂ c₃) : kindAt c = .ok item.kind := by
  have hnext : (namesByNextByte first && c₁.rest.isEmpty) = false := by
    rw [Bool.and_eq_false_iff]
    by_cases hl : 24 ≤ infoOf first
    · exact .inr (by simp [h.long hl])
    · refine .inl ?_
      simp only [infoOf, namesByNextByte, Bool.and_eq_false_iff, decide_eq_false_iff_not] at hl ⊢
      omega
  simp only [Cbor.kindAt, h.rest, hnext, Kind.ofByte, if_neg h.definite, h.major, h.info, and_true,
    majorText_iff]
  cases item <;> rfl

theorem Opens.ne_breakByte (h : Opens item c first c₁ c₂ c₃) : first ≠ breakByte := by
  rintro rfl
  exact absurd h.info (by decide)

theorem Opens.definiteString (h : Opens item c first c₁ c₂ c₃)
    (hlen : item.content.length = item.argument) :
    definiteString item.major c = .ok (item.content, c₃) := by
  simp [Cbor.definiteString, h.byte, h.major, h.definite, h.argument, ← hlen, h.content, bind,
    Except.bind]

theorem Opens.text {content : Bytes} {s : String} (h : Opens (.text content) c first c₁ c₂ c₃)
    (htext : content.text? = some s) : text c = .ok (s, c₃) := by
  have hcontent : Cbor.definiteString majorText c = .ok (content, c₃) := h.definiteString rfl
  simp [Cbor.text, hcontent, htext, bind, Except.bind, pure, Except.pure]

theorem Opens.behind_head (h : Opens item c first c₁ c₂ c₃) (hnone : item.content = []) :
    c₂ = c₃ := by
  have hcontent := h.content
  rw [hnone] at hcontent
  cases hcontent
  rfl

theorem Opens.containerLength (h : Opens item c first c₁ c₂ c₃) (hnone : item.content = []) :
    containerLength item.major c = .ok (some item.argument, c₃) := by
  simp [Cbor.containerLength, h.byte, h.major, h.definite, h.argument, h.behind_head hnone, bind,
    Except.bind, pure, Except.pure]

end Opens

theorem Before.kindAt (h : Before (item :: items) tail c) : kindAt c = .ok item.kind := by
  obtain ⟨first, c₁, c₂, c', hopens, -⟩ := h.opens
  exact hopens.kindAt

theorem Before.text {content : Bytes} (h : Before (.text content :: items) tail c) :
    ∃ s c', content.text? = some s ∧ text c = .ok (s, c') ∧ Before items tail c' := by
  obtain ⟨s, htext⟩ := h.content_text
  obtain ⟨first, c₁, c₂, c', hopens, hbefore⟩ := h.opens
  exact ⟨s, c', htext, hopens.text htext, hbefore⟩

theorem Before.mapLength {entries : List (Item × Item)}
    (h : Before (.map entries :: items) tail c) :
    ∃ c', mapLength c = .ok (some entries.length, c') ∧
      Before ((entries.flatMap fun e => [e.1, e.2]) ++ items) tail c' := by
  obtain ⟨first, c₁, c₂, c', hopens, hbefore⟩ := h.opens
  exact ⟨c', hopens.containerLength rfl, hbefore⟩

/-! ## Writing -/

theorem spells_head {item : Item} {items : List Item} {b : Bytes}
    (hitem : item.argument < 0x10000000000000000) (h : Spells (item.inner ++ items) b) :
    Spells (item :: items) (head item.major item.argument ++ (item.content ++ b)) :=
  .cons (head_spelled _ hitem) h

theorem spells_writeText {s : String} {items : List Item} {b : Bytes}
    (hs : (utf8 s).length < 0x10000000000000000) (h : Spells items b) :
    Spells (.text (utf8 s) :: items) (writeText s ++ b) := by
  have hspells : Spells (.text (utf8 s) :: items) (head 3 (utf8 s).length ++ (utf8 s ++ b)) :=
    spells_head hs h
  rwa [← List.append_assoc] at hspells

theorem spells_writeEntries {entries : List (String × String)}
    (h : (entries.flatMap writeEntry).length < 0x10000000000000000) :
    Spells (entries.flatMap fun e => [.text (utf8 e.1), .text (utf8 e.2)])
      (entries.flatMap writeEntry) := by
  induction entries with
  | nil => exact .nil
  | cons e rest ih =>
    simp only [List.flatMap_cons, writeEntry, writeText, List.length_append] at h
    have hrest := ih (by omega)
    have hvalue := spells_writeText (s := e.2) (by omega) hrest
    have hkey := spells_writeText (s := e.1) (by omega) hvalue
    rwa [← List.append_assoc] at hkey

theorem spells_writeTextMap {entries : List (String × String)}
    (h : (writeTextMap entries).length < 0x10000000000000000) :
    Spells [.ofEntries (entries.map fun e => (e.1, .text (utf8 e.2)))] (writeTextMap entries) := by
  rw [writeTextMap, List.length_append] at h
  have hentries : Spells _ (entries.flatMap writeEntry) := spells_writeEntries (by omega)
  have hcount := hentries.length_le
  rw [length_flatMap_pair] at hcount
  have hhead : Head majorMap entries.length (writeMapHead entries.length) :=
    head_spelled _ (by omega)
  have hmap : Spells [.map (entries.map fun e => (.text (utf8 e.1), .text (utf8 e.2)))]
      (writeMapHead entries.length ++ ([] ++ entries.flatMap writeEntry)) := by
    refine .cons ?_ ?_
    · rwa [Item.argument, List.length_map]
    · simpa only [Item.inner, List.flatMap_map, List.append_nil] using hentries
  rwa [Item.ofEntries, List.map_map]

end Enrolment.Cbor
