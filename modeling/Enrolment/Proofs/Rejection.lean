import Enrolment.Proofs.Response

/-!
# Enrolment.Proofs.Rejection

What a binary rejection says. Of several values under one key the last one counts, and a status that
is no unsigned integer, or does not fit sixteen bits, is none. What is written under a status is not
passed over, though: of an item that is no unsigned integer only the first byte is read. So a status
has to be an unsigned integer or to have one byte, unless it stands last.

* `foldEntries_cons`: one entry, whatever its value is and however its lengths are written.
* `readRejection_written`: the rejection, from the entries, or a refusal of one that cannot be read.
* `readRejection_spelled`: the same for definite lengths only, as a function of the entries.
-/

namespace Enrolment

open Cbor

namespace Payload.Binary

variable {tail : Bytes} {c : Cursor}

/-! ## Texts -/

/-- The item is a text in UTF-8, and the bytes write it with a definite length. -/
def SpellsText (item : Item) (b : Bytes) : Prop := ∃ s, item = .text (utf8 s) ∧ Spells [item] b

theorem text_of_head {s : String} {b : Bytes} (hhead : Head majorText (utf8 s).length b)
    (hrest : c.rest = b ++ (utf8 s ++ tail)) :
    ∃ c', text c = .ok (s, c') ∧ c'.rest = tail := by
  obtain ⟨first, c₁, c₂, c₃, hopens, h₃⟩ := Head.opens (.text (utf8 s)) hhead hrest
  exact ⟨c₃, text_of_opens hopens (Bytes.text?_utf8 s), h₃⟩

theorem head_of_spells {item : Item} {b : Bytes} (h : Spells [item] b) (hinner : item.inner = []) :
    ∃ head, Head item.major item.argument head ∧ b = head ++ item.content := by
  cases h with
  | cons hhead hrest =>
    rw [hinner] at hrest
    cases hrest
    exact ⟨_, hhead, by rw [List.append_nil]⟩

theorem text_of_spells {s : String} {b : Bytes} (h : Spells [.text (utf8 s)] b)
    (hrest : c.rest = b ++ tail) : ∃ c', text c = .ok (s, c') ∧ c'.rest = tail := by
  obtain ⟨head, hhead, rfl⟩ := head_of_spells h rfl
  rw [List.append_assoc] at hrest
  exact text_of_head hhead hrest

/-- The first byte is not that of a text of definite length. -/
theorem text_refused {first : UInt8} {more : Bytes}
    (hfirst : majorOf first ≠ majorText ∨ infoOf first = indefinite)
    (hrest : c.rest = first :: more) : ∃ x, text c = .error x := by
  have hcontent : ∃ x, definiteString majorText c = .error x :=
    ⟨mismatch first c.pos (c.advance 1), by
      simp [definiteString, byte, hrest, hfirst, bind, Except.bind, throw, throwThe,
        MonadExceptOf.throw]⟩
  obtain ⟨x, hcontent⟩ := hcontent
  simp only [text, bind, Except.bind]
  split
  · exact ⟨_, rfl⟩
  · split
    · exact ⟨_, rfl⟩
    · exact ⟨.cbor x, by
        simp [item, Cbor.text, hcontent, Except.mapError, bind, Except.bind]⟩

/-- A text that is none in UTF-8, another item, and a text of indefinite length are refused. -/
theorem text_of_writes {item : Item} {b : Bytes} (h : Writes false [.item item] b)
    (htext : ¬ SpellsText item b) (hrest : c.rest = b ++ tail) : ∃ x, text c = .error x := by
  cases h with
  | @definite _ _ head b hhead _ hwrites =>
    rw [List.append_assoc, List.append_assoc] at hrest
    obtain ⟨first, c₁, c₂, c₃, hopens, -⟩ := hhead.opens _ hrest
    cases item with
    | text content =>
      have hnone : content.text? = none := by
        refine Option.eq_none_iff_forall_ne_some.2 fun s hs => htext ⟨s, ?_, ?_⟩
        · rw [Bytes.utf8_of_text? hs]
        · cases hwrites
          exact .cons hhead .nil
      have hcontent : definiteString majorText c = .ok (content, c₃) := hopens.definiteString rfl
      refine ⟨.cbor (.invalidUtf8 c.pos), ?_⟩
      simp [text, kind, hopens.kindAt, Item.kind, Binary.item, Cbor.text, hcontent, hnone,
        Except.mapError, bind, Except.bind, throw, throwThe, MonadExceptOf.throw]
    | _ =>
      refine text_refused (.inl ?_) hopens.rest
      rw [hopens.major, Ne, majorText_iff]
      simp [Item.kind]
  | chunked hmajor _ _ =>
    exact text_refused (.inr (infoOf_firstByte item.major_lt (by decide))) hrest
  | opened hmajor _ =>
    exact text_refused (.inr (infoOf_firstByte item.major_lt (by decide))) hrest

/-! ## Statuses -/

/-- The unsigned integer that an item is, if it fits sixteen bits. -/
def word? : Item → Option Nat
  | .atom .unsigned n => if n < 0x10000 then some n else none
  | _ => none

/-- What is left of the bytes that write a status: of an unsigned integer all is read, and of
another item the first byte. -/
def unread : Item → Bytes → Bytes
  | .atom .unsigned _, _ => []
  | _, b => b.tail

theorem first_of_writes {item : Item} {b : Bytes} (h : Writes false [.item item] b) :
    ∃ first more, b = first :: more ∧ majorOf first = item.major := by
  cases h with
  | definite hhead _ _ =>
    obtain ⟨first, long, rfl, hparts⟩ := hhead.read item.major_lt
    exact ⟨first, _, rfl, hparts.major⟩
  | chunked _ _ _ | opened _ _ =>
    exact ⟨_, _, rfl, majorOf_firstByte item.major_lt (by decide)⟩

theorem word16_of_head {n : Nat} {head : Bytes} (hhead : Head 0 n head)
    (hrest : c.rest = head ++ tail) :
    ∃ c', word16 c = (word? (.atom .unsigned n), c') ∧ c'.rest = tail := by
  obtain ⟨first, c₁, c₂, c₃, hopens, h₃⟩ := Head.opens (.atom .unsigned n) hhead hrest
  have hmajor : majorOf first = 0 := hopens.major
  have hargument : ∀ pos, argument (infoOf first) pos c₁ = .ok (n, c₂) := hopens.argument
  refine ⟨c₃, ?_, h₃⟩
  simp [word16, hopens.byte, hmajor, hargument, hopens.behind_head rfl, word?]

theorem head_of_unsigned {n : Nat} {b : Bytes} (h : Writes false [.item (.atom .unsigned n)] b) :
    Head 0 n b := by
  cases h with
  | @definite _ _ head b hhead _ hwrites =>
    cases hwrites
    have hbytes : head ++ ((Item.atom .unsigned n).content ++ []) = head := List.append_nil head
    rwa [hbytes]
  | chunked hmajor _ _ | opened hmajor _ => obtain hmajor | hmajor := hmajor <;> cases hmajor

theorem word16_of_writes {item : Item} {b : Bytes} (h : Writes false [.item item] b)
    (hrest : c.rest = b ++ tail) :
    ∃ c', word16 c = (word? item, c') ∧ c'.rest = unread item b ++ tail := by
  obtain ⟨first, more, rfl, hmajor⟩ := first_of_writes h
  have hother (hne : item.major ≠ 0) :
      word16 c = (none, c.advance 1) ∧ (c.advance 1).rest = more ++ tail := by
    simp [word16, byte, hmajor, hne, Cursor.advance, hrest]
  cases item with
  | atom kind n =>
    cases kind with
    | unsigned => exact word16_of_head (head_of_unsigned h) hrest
    | negative | special => exact ⟨_, hother (Nat.succ_ne_zero _)⟩
  | bytes content | text content | array elements | map entries | tag number content =>
    exact ⟨_, hother (Nat.succ_ne_zero _)⟩

/-! ## Entries -/

/-- An entry of a map with texts as keys, and bytes that write it. The value is any item; the
lengths of the key and the value may be indefinite. -/
structure WrittenEntry where
  key : String
  value : Item
  keyBytes : Bytes
  valueBytes : Bytes
  key_written : Writes false [.item (.text (utf8 key))] keyBytes
  value_written : Writes false [.item value] valueBytes

def reasonFields : List String := [errorCodeField, errorMessageField]

namespace WrittenEntry

/-- An entry with definite lengths only. -/
def ofSpells {key : String} {value : Item} {keyBytes valueBytes : Bytes}
    (hkey : Spells [.text (utf8 key)] keyBytes) (hvalue : Spells [value] valueBytes)
    (hutf8 : value.Utf8) : WrittenEntry :=
  ⟨key, value, keyBytes, valueBytes,
    hkey.writes (List.forall_mem_singleton.2 (Item.utf8_text key)),
    hvalue.writes (List.forall_mem_singleton.2 hutf8)⟩

def pair (e : WrittenEntry) : String × Item := (e.key, e.value)

def bytes (e : WrittenEntry) : Bytes := e.keyBytes ++ e.valueBytes

/-- The value, if it is a status, is an unsigned integer or has one byte. -/
def ReadWhole (e : WrittenEntry) : Prop :=
  e.key = statusField → (∃ n, e.value = .atom .unsigned n) ∨ e.valueBytes.length = 1

/-- The key is of definite length. A code or a message is a text in UTF-8, of definite length too.
Under other keys but that of a status, all texts are in UTF-8. -/
structure Readable (e : WrittenEntry) : Prop where
  key : Spells [.text (utf8 e.key)] e.keyBytes
  reason : e.key ∈ reasonFields → SpellsText e.value e.valueBytes
  other : e.key ∉ statusField :: reasonFields → Writes true [.item e.value] e.valueBytes

end WrittenEntry

/-- The payload is a map of definite length with these entries. -/
structure WrittenMap (entries : List WrittenEntry) (payload : Bytes) : Prop where
  written : ∃ head, Head majorMap entries.length head ∧
    payload = head ++ entries.flatMap WrittenEntry.bytes
  size : payload.length < 0x10000000000000000

def putRejection (r : Rejection) (e : String × Item) : Rejection :=
  if e.1 = statusField then { r with status := word? e.2 }
  else if e.1 = errorCodeField then { r with code := e.2.text? }
  else if e.1 = errorMessageField then { r with message := e.2.text? }
  else r

section Entries

variable {e : WrittenEntry} {entries : List WrittenEntry}

theorem WrittenEntry.unread_eq_nil_iff :
    unread e.value e.valueBytes = [] ↔
      (∃ n, e.value = .atom .unsigned n) ∨ e.valueBytes.length = 1 := by
  obtain ⟨first, more, hbytes, -⟩ := first_of_writes e.value_written
  have hlen : e.valueBytes.length = 1 ↔ more = [] := by simp [hbytes]
  rw [hlen, hbytes]
  cases hvalue : e.value with
  | atom kind n => cases kind <;> simp [unread]
  | _ => simp [unread]

/-- Everything is of definite length, and every text in UTF-8. -/
theorem WrittenEntry.Readable.of_spells (hkey : Spells [.text (utf8 e.key)] e.keyBytes)
    (hvalue : Spells [e.value] e.valueBytes) (hutf8 : e.value.Utf8)
    (htext : e.key ∈ reasonFields → ∃ content, e.value = .text content) : e.Readable := by
  refine ⟨hkey, fun hreason => ?_, fun _ => hvalue.writes (List.forall_mem_singleton.2 hutf8)⟩
  obtain ⟨content, hcontent⟩ := htext hreason
  obtain ⟨hutf8, -⟩ := hcontent ▸ hutf8
  obtain ⟨s, rfl⟩ : ∃ s, content = utf8 s := hutf8 rfl
  exact ⟨s, hcontent, hvalue⟩

theorem rejectionEntry_status (r : Rejection) (hkey : e.key = statusField)
    (hrest : c.rest = e.valueBytes ++ tail) :
    ∃ c', rejectionEntry r e.key c = .ok (putRejection r e.pair, c') ∧
      c'.rest = unread e.value e.valueBytes ++ tail := by
  obtain ⟨c', hread, h'⟩ := word16_of_writes e.value_written hrest
  refine ⟨c', ?_, h'⟩
  simp [rejectionEntry, putRejection, WrittenEntry.pair, hkey, hread, pure, Except.pure]

theorem rejectionEntry_readable (h : e.Readable) (r : Rejection) (hkey : e.key ≠ statusField)
    (hlen : e.valueBytes.length ≤ Pending.maxCount) (hrest : c.rest = e.valueBytes ++ tail) :
    ∃ c', rejectionEntry r e.key c = .ok (putRejection r e.pair, c') ∧ c'.rest = tail := by
  by_cases hreason : e.key ∈ reasonFields
  · obtain ⟨s, hvalue, hspells⟩ := h.reason hreason
    rw [hvalue] at hspells
    obtain ⟨c', hread, h'⟩ := text_of_spells hspells hrest
    refine ⟨c', ?_, h'⟩
    simp only [reasonFields, List.mem_cons, List.not_mem_nil, or_false] at hreason
    obtain hreason | hreason := hreason <;>
      simp [rejectionEntry, putRejection, WrittenEntry.pair, hreason, hread, hvalue, Item.text?,
        Bytes.text?_utf8, bind, Except.bind, pure, Except.pure, statusField, errorCodeField,
        errorMessageField]
  · have hutf8 := h.other (by simp [hkey, hreason])
    obtain ⟨c', hskip, h'⟩ := (skip_written e.value_written hlen hrest).1 hutf8
    refine ⟨c', ?_, h'⟩
    simp only [reasonFields, List.mem_cons, List.not_mem_nil, or_false, not_or] at hreason
    simp [rejectionEntry, putRejection, WrittenEntry.pair, hkey, hreason, pass, hskip,
      Except.mapError, bind, Except.bind, pure, Except.pure]

theorem rejectionEntry_refused (h : ¬ e.Readable) (hkey : Spells [.text (utf8 e.key)] e.keyBytes)
    (r : Rejection) (hlen : e.valueBytes.length ≤ Pending.maxCount)
    (hrest : c.rest = e.valueBytes ++ tail) : ∃ x, rejectionEntry r e.key c = .error x := by
  by_cases hreason : e.key ∈ reasonFields
  · have hother : e.key ≠ statusField := by
      rintro hstatus
      rw [hstatus] at hreason
      exact absurd hreason (by decide)
    have htext : ¬ SpellsText e.value e.valueBytes := fun htext =>
      h ⟨hkey, fun _ => htext, fun hnone => absurd (List.mem_cons_of_mem _ hreason) hnone⟩
    obtain ⟨x, hx⟩ := text_of_writes e.value_written htext hrest
    refine ⟨x, ?_⟩
    simp only [reasonFields, List.mem_cons, List.not_mem_nil, or_false] at hreason
    obtain hreason | hreason := hreason <;>
      simp [rejectionEntry, hreason, hx, bind, Except.bind, statusField, errorCodeField,
        errorMessageField]
  · by_cases hstatus : e.key = statusField
    · refine absurd ⟨hkey, fun hmem => absurd hmem hreason, fun hmem => absurd ?_ hmem⟩ h
      simp [hstatus]
    · have hutf8 : ¬ Writes true [.item e.value] e.valueBytes := fun hutf8 =>
        h ⟨hkey, fun hmem => absurd hmem hreason, fun _ => hutf8⟩
      obtain ⟨x, hx⟩ := (skip_written e.value_written hlen hrest).2 hutf8
      refine ⟨.cbor x, ?_⟩
      simp only [reasonFields, List.mem_cons, List.not_mem_nil, or_false, not_or] at hreason
      simp [rejectionEntry, hstatus, hreason, pass, hx, Except.mapError, bind, Except.bind]

/-- Reading goes on behind an entry, unless it is a status that is not read whole. -/
theorem foldEntries_cons (h : e.Readable) (r : Rejection) (n : Nat)
    (hlen : e.bytes.length ≤ Pending.maxCount) (hrest : c.rest = e.bytes ++ tail) :
    ∃ c', foldEntries rejectionEntry (n + 1) r c =
        foldEntries rejectionEntry n (putRejection r e.pair) c' ∧
      c'.rest = (if e.key = statusField then unread e.value e.valueBytes else []) ++ tail := by
  rw [WrittenEntry.bytes, List.append_assoc] at hrest
  rw [WrittenEntry.bytes, List.length_append] at hlen
  obtain ⟨c₁, hkey, h₁⟩ := text_of_spells h.key hrest
  split
  · next hstatus =>
    obtain ⟨c', hread, h'⟩ := rejectionEntry_status r hstatus h₁
    refine ⟨c', ?_, h'⟩
    simp [foldEntries, hkey, hread, bind, Except.bind]
  · next hother =>
    obtain ⟨c', hread, h'⟩ := rejectionEntry_readable h r hother (by omega) h₁
    refine ⟨c', ?_, h'⟩
    simp [foldEntries, hkey, hread, bind, Except.bind]

theorem foldEntries_cons_refused (h : ¬ e.Readable) (r : Rejection) (n : Nat)
    (hlen : e.bytes.length ≤ Pending.maxCount) (hrest : c.rest = e.bytes ++ tail) :
    ∃ x, foldEntries rejectionEntry (n + 1) r c = .error x := by
  rw [WrittenEntry.bytes, List.append_assoc] at hrest
  rw [WrittenEntry.bytes, List.length_append] at hlen
  by_cases hspells : Spells [.text (utf8 e.key)] e.keyBytes
  · obtain ⟨c₁, hkey, h₁⟩ := text_of_spells hspells hrest
    obtain ⟨x, hx⟩ := rejectionEntry_refused h hspells r (by omega) h₁
    exact ⟨x, by simp [foldEntries, hkey, hx, bind, Except.bind]⟩
  · have htext : ¬ SpellsText (.text (utf8 e.key)) e.keyBytes := by
      rintro ⟨s, -, h⟩
      exact hspells h
    obtain ⟨x, hx⟩ := text_of_writes e.key_written htext hrest
    exact ⟨x, by simp [foldEntries, hx, bind, Except.bind]⟩

/-- Entry by entry, as long as the statuses before the last entry are read whole. -/
theorem foldEntries_written (hwhole : ∀ e ∈ entries.dropLast, e.ReadWhole) (r : Rejection)
    (hlen : (entries.flatMap WrittenEntry.bytes).length ≤ Pending.maxCount)
    (hrest : c.rest = entries.flatMap WrittenEntry.bytes ++ tail) :
    ((∀ e ∈ entries, e.Readable) → ∃ c', foldEntries rejectionEntry entries.length r c =
      .ok ((entries.map WrittenEntry.pair).foldl putRejection r, c')) ∧
    ((∃ e ∈ entries, ¬ e.Readable) →
      ∃ x, foldEntries rejectionEntry entries.length r c = .error x) := by
  induction entries generalizing r c with
  | nil => exact ⟨fun _ => ⟨c, rfl⟩, fun ⟨_, he, _⟩ => absurd he List.not_mem_nil⟩
  | cons e rest ih =>
    rw [List.flatMap_cons, List.append_assoc] at hrest
    rw [List.flatMap_cons, List.length_append] at hlen
    by_cases he : e.Readable
    · obtain ⟨c', hread, h'⟩ := foldEntries_cons he r rest.length (by omega) hrest
      cases rest with
      | nil =>
        -- Behind the last entry nothing is read, so its status need not be read whole.
        refine ⟨fun _ => ⟨c', hread⟩, fun ⟨e', he', hbad⟩ => absurd ?_ hbad⟩
        rwa [List.mem_singleton.1 he']
      | cons next rest =>
        obtain ⟨hfirst, hwhole⟩ := List.forall_mem_cons.1 hwhole
        have hunread : (if e.key = statusField then unread e.value e.valueBytes else []) = [] :=
          ite_eq_right_iff.2 fun hstatus => WrittenEntry.unread_eq_nil_iff.2 (hfirst hstatus)
        rw [hunread, List.nil_append] at h'
        obtain ⟨hok, hbad⟩ := ih hwhole (putRejection r e.pair) (by omega) h'
        rw [List.length_cons, hread]
        refine ⟨fun hall => hok (List.forall_mem_cons.1 hall).2, fun ⟨e', he', hbad'⟩ => ?_⟩
        obtain rfl | hrest := List.mem_cons.1 he'
        · exact absurd he hbad'
        · exact hbad ⟨e', hrest, hbad'⟩
    · exact ⟨fun hall => absurd (hall e List.mem_cons_self) he,
        fun _ => foldEntries_cons_refused he r rest.length (by omega) hrest⟩

end Entries

/-! ## Maps -/

/-- What the entries say, read off their values. -/
def said (entries : List (String × Item)) : Rejection :=
  ⟨(lastUnder statusField entries).elim none word?, lastText errorCodeField entries,
    lastText errorMessageField entries⟩

theorem foldl_putRejection (entries : List (String × Item)) :
    entries.foldl putRejection .unexplained = said entries := by
  have hstatus (r e) : (putRejection r e).status =
      if e.1 = statusField then word? e.2 else r.status := by
    grind [putRejection]
  have hcode (r e) : (putRejection r e).code =
      if e.1 = errorCodeField then e.2.text? else r.code := by
    grind [putRejection, statusField, errorCodeField]
  have hmessage (r e) : (putRejection r e).message =
      if e.1 = errorMessageField then e.2.text? else r.message := by
    grind [putRejection, statusField, errorCodeField, errorMessageField]
  have hstatus := foldl_lastUnder hstatus entries .unexplained
  have hcode := foldl_lastUnder hcode entries .unexplained
  have hmessage := foldl_lastUnder hmessage entries .unexplained
  calc entries.foldl putRejection .unexplained
      = ⟨(entries.foldl putRejection .unexplained).status,
          (entries.foldl putRejection .unexplained).code,
          (entries.foldl putRejection .unexplained).message⟩ := rfl
    _ = _ := by rw [hstatus, hcode, hmessage]; rfl

variable {entries : List WrittenEntry} {payload : Bytes}

theorem entryCount_of_head {entries : List (Item × Item)} {head : Bytes}
    (hhead : Head majorMap entries.length head) (hrest : c.rest = head ++ tail) :
    ∃ c', entryCount c = .ok (entries.length, c') ∧ c'.rest = tail := by
  obtain ⟨first, c₁, c₂, c₃, hopens, h₃⟩ := Head.opens (.map entries) hhead hrest
  have hlength : mapLength c = .ok (some entries.length, c₃) := hopens.containerLength rfl
  refine ⟨c₃, ?_, h₃⟩
  simp [entryCount, item, hlength, Except.mapError, bind, Except.bind, pure, Except.pure]

theorem WrittenMap.entryCount (h : WrittenMap entries payload) (suffix : Bytes) :
    ∃ c, entryCount (.ofBytes (payload ++ suffix)) = .ok (entries.length, c) ∧
      c.rest = entries.flatMap WrittenEntry.bytes ++ suffix ∧
      (entries.flatMap WrittenEntry.bytes).length ≤ Pending.maxCount := by
  obtain ⟨⟨head, hhead, rfl⟩, hsize⟩ := h
  rw [List.length_append] at hsize
  have hlen : (entries.map fun e => (Item.text (utf8 e.key), e.value)).length = entries.length :=
    List.length_map ..
  rw [← hlen] at hhead
  obtain ⟨c, hcount, hrest⟩ := entryCount_of_head (c := .ofBytes _) hhead (List.append_assoc ..)
  rw [hlen] at hcount
  exact ⟨c, hcount, hrest, by simp only [Pending.maxCount]; omega⟩

/-- A rejection is read off its entries, if the statuses before the last entry are read whole. What
follows the map does not matter. -/
theorem readRejection_written (h : WrittenMap entries payload)
    (hwhole : ∀ e ∈ entries.dropLast, e.ReadWhole) (suffix : Bytes) :
    ((∀ e ∈ entries, e.Readable) →
      readRejection (payload ++ suffix) = some (said (entries.map WrittenEntry.pair))) ∧
    ((∃ e ∈ entries, ¬ e.Readable) → readRejection (payload ++ suffix) = none) := by
  obtain ⟨c, hcount, hrest, hlen⟩ := h.entryCount suffix
  obtain ⟨hok, hbad⟩ := foldEntries_written hwhole .unexplained hlen hrest
  refine ⟨fun hall => ?_, fun hsome => ?_⟩
  · obtain ⟨c', hread⟩ := hok hall
    simp [readRejection, foldMap, hcount, hread, foldl_putRejection, bind, Except.bind]
  · obtain ⟨x, hx⟩ := hbad hsome
    simp [readRejection, foldMap, hcount, hx, bind, Except.bind]

/-! ## Definite lengths only -/

/-- Entries that are spelled are written. -/
theorem exists_written {entries : List (String × Item)} {b : Bytes}
    (h : Spells (entries.flatMap fun e => [.text (utf8 e.1), e.2]) b)
    (hutf8 : ∀ e ∈ entries, e.2.Utf8) :
    ∃ written : List WrittenEntry, written.map WrittenEntry.pair = entries ∧
      written.flatMap WrittenEntry.bytes = b ∧
      ∀ w ∈ written, Spells [.text (utf8 w.key)] w.keyBytes ∧ Spells [w.value] w.valueBytes ∧
        w.value.Utf8 := by
  induction entries generalizing b with
  | nil =>
    cases h
    exact ⟨[], rfl, rfl, List.forall_mem_nil _⟩
  | cons e rest ih =>
    obtain ⟨hvalue, hothers⟩ := List.forall_mem_cons.1 hutf8
    have h : Spells ([.text (utf8 e.1)] ++ ([e.2] ++ _)) b := h
    obtain ⟨keyBytes, b, rfl, hkey, h⟩ := h.of_append
    obtain ⟨valueBytes, b, rfl, hspells, h⟩ := h.of_append
    obtain ⟨written, rfl, rfl, hwritten⟩ := ih h hothers
    exact ⟨.ofSpells hkey hspells hvalue :: written, rfl, List.append_assoc ..,
      List.forall_mem_cons.2 ⟨⟨hkey, hspells, hvalue⟩, hwritten⟩⟩

/-- The values under a key are unsigned integers. -/
def UnsignedUnder (key : String) (entries : List (String × Item)) : Prop :=
  ∀ v ∈ valuesUnder key entries, ∃ n, v = .atom .unsigned n

/-- The rejection is read off the entries. What follows the map does not matter. -/
theorem readRejection_spelled {entries : List (String × Item)}
    (hstatus : UnsignedUnder statusField entries) (htext : TextUnder reasonFields entries)
    {payload : Bytes} (h : SpellsMap entries payload) (suffix : Bytes) :
    readRejection (payload ++ suffix) =
      some ⟨(lastUnder statusField entries).elim none word?, lastText errorCodeField entries,
        lastText errorMessageField entries⟩ := by
  obtain ⟨hutf8, hspells, hsize⟩ := h
  cases hspells with
  | @cons _ _ head b hhead hrest =>
    rw [Item.inner_ofEntries, List.append_nil] at hrest
    obtain ⟨written, rfl, rfl, hwritten⟩ := exists_written hrest hutf8
    have hmem {w : WrittenEntry} (hw : w ∈ written) {key : String} (hkey : w.key = key) :
        w.value ∈ valuesUnder key (written.map WrittenEntry.pair) :=
      mem_valuesUnder.2 (hkey ▸ List.mem_map_of_mem (f := WrittenEntry.pair) hw)
    have hmap : WrittenMap written (head ++ written.flatMap WrittenEntry.bytes) := by
      refine ⟨⟨head, ?_, rfl⟩, hsize⟩
      rwa [Item.ofEntries, Item.argument, List.length_map, List.length_map] at hhead
    refine (readRejection_written hmap (fun w hw hkey => ?_) suffix).1 fun w hw => ?_
    · exact .inl (hstatus _ (hmem ((List.dropLast_sublist written).mem hw) hkey))
    · obtain ⟨hkey, hvalue, hwutf8⟩ := hwritten w hw
      exact .of_spells hkey hvalue hwutf8 fun hreason => htext _ hreason _ (hmem hw rfl)

end Payload.Binary

end Enrolment
