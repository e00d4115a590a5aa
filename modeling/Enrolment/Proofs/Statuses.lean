import Enrolment.Proofs.Rejection
import Enrolment.Proofs.Spelling

/-!
# Enrolment.Proofs.Statuses

When a status spoils what is read of a rejection. Where reading goes on inside of a status, what is
read there may be taken for entries. Whether it is depends on what follows, so the condition that a
status is read whole cannot be left out for any status: some message behind it is not read.

* `misread_of_part`: the message behind a status that is not read whole.
* `rejection_read_past_whole_statuses`: what is read, and that the condition is exact.
-/

namespace Enrolment

open Cbor

namespace Payload.Binary

variable {c : Cursor}

/-! ## Reading again -/

/-- What reads one text reads it again, whatever follows. -/
theorem text_again {s : String} {c' : Cursor} (h : text c = .ok (s, c')) :
    ∃ b, b.length ≤ 9 + (utf8 s).length ∧ c.rest = b ++ c'.rest ∧
      ∀ (d : Cursor) (tail : Bytes), d.rest = b ++ tail →
        ∃ d', text d = .ok (s, d') ∧ d'.rest = tail := by
  have htext : Cbor.text c = .ok (s, c') := by
    simp only [text, item, bind, Except.bind] at h
    split at h
    · cases h
    · split at h
      · cases h
      · generalize Cbor.text c = r at h
        cases r with
        | error x => cases h
        | ok p =>
          cases h
          rfl
  obtain ⟨head, hhead, hrest⟩ := spelled_of_text htext
  refine ⟨head ++ utf8 s, ?_, by rw [List.append_assoc, hrest], fun d tail hd => ?_⟩
  · have := hhead.length_le
    rw [List.length_append]
    omega
  · rw [List.append_assoc] at hd
    exact text_of_head hhead hd

/-- The last byte does not change what is read in front of it. -/
theorem texts_again {body : Bytes} {x y : UInt8} {d c₁ c₂ : Cursor} {s t : String}
    (hlen : 18 + (utf8 s).length + (utf8 t).length ≤ body.length) (hc : c.rest = body ++ [x])
    (hd : d.rest = body ++ [y]) (hs : text c = .ok (s, c₁)) (ht : text c₁ = .ok (t, c₂)) :
    ∃ d₁ d₂, text d = .ok (s, d₁) ∧ text d₁ = .ok (t, d₂) := by
  obtain ⟨b₁, hlen₁, hrest₁, hagain₁⟩ := text_again hs
  obtain ⟨b₂, hlen₂, hrest₂, hagain₂⟩ := text_again ht
  have hsplit : body ++ [x] = (b₁ ++ b₂) ++ c₂.rest := by
    rw [← hc, hrest₁, hrest₂, List.append_assoc]
  -- The texts are too short to reach the last byte.
  have hmore : c₂.rest ≠ [] := by
    intro hnone
    have hlength := congrArg List.length hsplit
    simp only [hnone, List.length_append, List.length_cons, List.length_nil] at hlength
    omega
  have hbody : body = b₁ ++ (b₂ ++ c₂.rest.dropLast) := by
    have hdrop := congrArg List.dropLast hsplit
    rwa [List.dropLast_concat, List.dropLast_append_of_ne_nil hmore, List.append_assoc] at hdrop
  rw [hbody, List.append_assoc, List.append_assoc] at hd
  obtain ⟨d₁, hread₁, hd₁⟩ := hagain₁ d _ hd
  obtain ⟨d₂, hread₂, -⟩ := hagain₂ d₁ _ hd₁
  exact ⟨d₁, d₂, hread₁, hread₂⟩

/-- Only the entry of a message changes the message. -/
theorem rejectionEntry_message {r r' : Rejection} {key : String} {c' : Cursor}
    (h : rejectionEntry r key c = .ok (r', c')) :
    r'.message = r.message ∨
      key = errorMessageField ∧ ∃ s, r'.message = some s ∧ text c = .ok (s, c') := by
  simp only [rejectionEntry, bind, Except.bind, pure, Except.pure] at h
  split at h
  · cases h
    exact .inl rfl
  · split at h
    · split at h
      · cases h
      · cases h
        exact .inl rfl
    · split at h
      · next hkey =>
        split at h
        · cases h
        · next p htext =>
          cases h
          exact .inr ⟨hkey, p.1, rfl, htext⟩
      · split at h
        · cases h
        · cases h
          exact .inl rfl

theorem texts_of_message {r r' : Rejection} {c' : Cursor} {s : String}
    (h : foldEntries rejectionEntry 1 r c = .ok (r', c')) (hnone : r.message = none)
    (hsome : r'.message = some s) :
    ∃ c₁, text c = .ok (errorMessageField, c₁) ∧ text c₁ = .ok (s, c') := by
  simp only [foldEntries, bind, Except.bind] at h
  split at h
  · cases h
  · next p htext =>
    split at h
    · cases h
    · next p' hentry =>
      cases h
      obtain hsame | ⟨hkey, t, ht, hvalue⟩ := rejectionEntry_message hentry
      · rw [hsame, hnone] at hsome
        cases hsome
      · rw [hsome] at ht
        cases ht
        exact ⟨p.2, hkey ▸ htext, hvalue⟩

/-! ## Long messages -/

/-- A text with its length in as many bytes as it can have. -/
def longText (s : String) : Bytes :=
  firstByte majorText 27 :: toBigEndian 8 (utf8 s).length ++ utf8 s

theorem length_longText (s : String) : (longText s).length = 9 + (utf8 s).length := by
  rw [longText, List.length_append, List.length_cons, length_toBigEndian]

theorem spells_longText {s : String} (h : (utf8 s).length < 0x10000000000000000) :
    Spells [.text (utf8 s)] (longText s) := by
  have hspells : Spells [.text (utf8 s)]
      (firstByte majorText 27 :: toBigEndian 8 (utf8 s).length ++ (utf8 s ++ [])) :=
    .cons (.long 3 (by decide) h) .nil
  rwa [List.append_nil] at hspells

def longMessage (s : String) (h : (utf8 s).length < 0x100) : WrittenEntry :=
  .ofSpells (spells_longText (s := errorMessageField) (by decide))
    (spells_longText (Nat.lt_trans h (by decide))) (Item.utf8_text s)

section LongMessages

variable {e : WrittenEntry} {s : String} {h : (utf8 s).length < 0x100}

theorem longMessage_key : (longMessage s h).key ≠ statusField :=
  show errorMessageField ≠ statusField by decide

theorem longMessage_readable : (longMessage s h).Readable :=
  .of_spells (spells_longText (s := errorMessageField) (by decide))
    (spells_longText (Nat.lt_trans h (by decide))) (Item.utf8_text s) fun _ => ⟨utf8 s, rfl⟩

theorem length_longMessage : (longMessage s h).bytes.length = 30 + (utf8 s).length := by
  have hkey : (longText errorMessageField).length = 21 := by decide
  rw [WrittenEntry.bytes, List.length_append, longMessage, WrittenEntry.ofSpells, hkey,
    length_longText]
  omega

/-- If a status and a message are read as what they say, the texts of the message are read from what
is left of the status. -/
theorem texts_of_longMessage (hkey : e.key = statusField) (hreadable : e.Readable)
    (hlen : e.bytes.length < 0x8000000000000000)
    (hread : ∀ payload, WrittenMap [e, longMessage s h] payload →
      readRejection payload = some (said [e.pair, (longMessage s h).pair])) :
    ∃ c c₁ c₂, c.rest = unread e.value e.valueBytes ++ (longMessage s h).bytes ∧
      text c = .ok (errorMessageField, c₁) ∧ text c₁ = .ok (s, c₂) := by
  obtain ⟨payload, hmap⟩ : ∃ payload, WrittenMap [e, longMessage s h] payload := by
    refine ⟨_, ⟨_, .short (n := 2) (by decide), rfl⟩, ?_⟩
    simp only [List.length_append, List.flatMap_cons, List.flatMap_nil, List.length_cons,
      List.length_nil, length_longMessage]
    omega
  obtain ⟨c₀, hcount, hrest, hbytes⟩ := hmap.entryCount []
  simp only [List.flatMap_cons, List.flatMap_nil, List.append_nil, List.length_append]
    at hcount hrest hbytes
  obtain ⟨c, hfold, hc⟩ := foldEntries_cons hreadable .unexplained 1 (by omega) hrest
  rw [if_pos hkey] at hc
  have hread := hread payload hmap
  have hmessage : (said [e.pair, (longMessage s h).pair]).message = some s := by
    rw [← foldl_putRejection]
    simp [putRejection, WrittenEntry.pair, hkey, longMessage, WrittenEntry.ofSpells, Item.text?,
      statusField, errorCodeField, errorMessageField]
  have hnone : (putRejection .unexplained e.pair).message = none := by
    simp [putRejection, WrittenEntry.pair, hkey, Rejection.unexplained]
  simp only [readRejection, foldMap, hcount, bind, Except.bind, List.length_cons, List.length_nil,
    Nat.reduceAdd, hfold] at hread
  split at hread
  · next r c' hfold =>
    cases hread
    obtain ⟨c₁, hfield, hvalue⟩ := texts_of_message hfold hnone hmessage
    exact ⟨c, c₁, c', hc, hfield, hvalue⟩
  · cases hread

end LongMessages

/-- A status that is not read whole may be followed by a message that is not read as it stands. Else
two messages, which differ in their last byte, would be read from bytes that end before it. -/
theorem misread_of_part {e : WrittenEntry} (hkey : e.key = statusField) (hreadable : e.Readable)
    (hlen : e.bytes.length < 0x8000000000000000) (hpart : ¬ e.ReadWhole) :
    ∃ m payload, m.key ≠ statusField ∧ m.Readable ∧ WrittenMap [e, m] payload ∧
      readRejection payload ≠ some (said [e.pair, m.pair]) := by
  refine Classical.byContradiction fun hall => ?_
  have hread (s : String) (h : (utf8 s).length < 0x100) :
      ∃ c c₁ c₂, c.rest = unread e.value e.valueBytes ++ (longMessage s h).bytes ∧
        text c = .ok (errorMessageField, c₁) ∧ text c₁ = .ok (s, c₂) :=
    texts_of_longMessage hkey hreadable hlen fun payload hmap =>
      Classical.byContradiction fun hne =>
        hall ⟨longMessage s h, payload, longMessage_key, longMessage_readable, hmap, hne⟩
  obtain ⟨c, c₁, c₂, hc, hfield, hvalue⟩ := hread "a" (by decide)
  obtain ⟨d, d₁, d₂, hd, hfield', hvalue'⟩ := hread "b" (by decide)
  have hunread : 0 < (unread e.value e.valueBytes).length :=
    List.length_pos_iff.2 fun hnil => hpart fun _ => WrittenEntry.unread_eq_nil_iff.1 hnil
  -- The two messages, as bytes.
  obtain ⟨front, hfront, ha, hb⟩ : ∃ front : Bytes, front.length = 30 ∧
      (longMessage "a" (by decide)).bytes = front ++ [0x61] ∧
      (longMessage "b" (by decide)).bytes = front ++ [0x62] :=
    ⟨(longMessage "a" (by decide)).bytes.dropLast, by rfl, by rfl, by rfl⟩
  rw [ha, ← List.append_assoc] at hc
  rw [hb, ← List.append_assoc] at hd
  have hbody : 18 + (utf8 errorMessageField).length + (utf8 "a").length ≤
      (unread e.value e.valueBytes ++ front).length := by
    have hfield : (utf8 errorMessageField).length = 12 := by decide
    have hvalue : (utf8 "a").length = 1 := by decide
    rw [List.length_append]
    omega
  obtain ⟨e₁, e₂, hagain, hagain'⟩ := texts_again hbody hc hd hfield hvalue
  rw [hfield'] at hagain
  cases hagain
  rw [hvalue'] at hagain'
  simp at hagain'

/-! ## Rejections, read -/

/-- The code and the message are the last texts under their keys, and the status is the last value
under its own, if that is an unsigned integer below `2^16`, as long as every status before the last
entry is an unsigned integer or has one byte; an entry that cannot be read makes the rejection
unreadable. A status of another kind may be followed by readable entries that are not read. -/
theorem rejection_read_past_whole_statuses {entries : List WrittenEntry} {payload : Bytes}
    (h : WrittenMap entries payload) (suffix : Bytes) :
    ((∀ e ∈ entries.dropLast, e.ReadWhole) →
      ((∀ e ∈ entries, e.Readable) →
        readRejection (payload ++ suffix) = some (said (entries.map WrittenEntry.pair))) ∧
      ((∃ e ∈ entries, ¬ e.Readable) → readRejection (payload ++ suffix) = none)) ∧
    ∀ e ∈ entries, e.key = statusField → e.Readable → e.bytes.length < 0x8000000000000000 →
      (e.ReadWhole ↔ ∀ (later : List WrittenEntry) (payload : Bytes),
        (∀ l ∈ later, l.key ≠ statusField ∧ l.Readable) → WrittenMap (e :: later) payload →
          readRejection payload = some (said ((e :: later).map WrittenEntry.pair))) := by
  refine ⟨fun hwhole => readRejection_written h hwhole suffix,
    fun e _ hkey hreadable hlen => ⟨fun hwhole later payload hlater hmap => ?_, fun hall => ?_⟩⟩
  · have hstatuses : ∀ l ∈ (e :: later).dropLast, l.ReadWhole := by
      intro l hl hstatus
      obtain rfl | hl := List.mem_cons.1 ((List.dropLast_sublist _).mem hl)
      · exact hwhole hstatus
      · exact absurd hstatus (hlater l hl).1
    have hread := (readRejection_written hmap hstatuses []).1
      (List.forall_mem_cons.2 ⟨hreadable, fun l hl => (hlater l hl).2⟩)
    rwa [List.append_nil] at hread
  · refine Classical.byContradiction fun hpart => ?_
    obtain ⟨m, payload, hother, hm, hmap, hne⟩ := misread_of_part hkey hreadable hlen hpart
    exact hne (hall [m] payload (List.forall_mem_singleton.2 ⟨hother, hm⟩) hmap)

/-- An entry whose value is a text too. -/
def spelledEntry (key value : String) (hkey : (utf8 key).length < 0x10000000000000000)
    (hvalue : (utf8 value).length < 0x10000000000000000) : WrittenEntry :=
  .ofSpells (spells_writeText hkey .nil) (spells_writeText hvalue .nil) (Item.utf8_text value)

theorem spelledEntry_readable {key value : String}
    (hkey : (utf8 key).length < 0x10000000000000000)
    (hvalue : (utf8 value).length < 0x10000000000000000) :
    (spelledEntry key value hkey hvalue).Readable :=
  .of_spells (spells_writeText hkey .nil) (spells_writeText hvalue .nil) (Item.utf8_text value)
    fun _ => ⟨utf8 value, rfl⟩

theorem spells_null : Spells [.atom .special 22] [0xf6] := .cons (.short (by decide)) .nil

def nullStatus : WrittenEntry :=
  .ofSpells (spells_writeText (s := statusField) (by decide) .nil) spells_null ⟨nofun, nofun⟩

/-- An array of indefinite length, with a byte string of indefinite length in it. -/
def nested : Item := .array [.atom .unsigned 1, .bytes [1, 2]]

def nestedBytes : Bytes := [0x9f, 0x01, 0x5f, 0x41, 0x01, 0x41, 0x02, 0xff, 0xff]

theorem nested_writes (strict : Bool) : Writes strict [.item nested] nestedBytes := by
  have hhead : Head majorBytes 1 [0x41] := .short (by decide)
  have hchunk (byte : UInt8) (content b : Bytes) (h : Chunks strict majorBytes content b) :
      Chunks strict majorBytes ([byte] ++ content) ([0x41] ++ ([byte] ++ b)) :=
    .cons hhead nofun h
  have hbytes : Writes strict (.item (.bytes [1, 2]) :: [.close]) _ :=
    .chunked (.inl rfl) (hchunk 1 _ _ (hchunk 2 _ _ .nil)) (.close .nil)
  have hnumber : Writes strict (.item (.atom .unsigned 1) :: _) _ :=
    .definite (.short (by decide)) nofun hbytes
  have harray : Writes strict (.item nested :: []) _ := .opened (.inl rfl) hnumber
  exact harray

def nestedEntry : WrittenEntry where
  key := "detail"
  value := nested
  keyBytes := writeText "detail" ++ []
  valueBytes := nestedBytes
  key_written :=
    (spells_writeText (by decide) .nil).writes (List.forall_mem_singleton.2 (Item.utf8_text _))
  value_written := nested_writes false

/-- A status that is `null`, a value that is passed over, a code, and a status that is a text. -/
def wholeStatuses : List WrittenEntry :=
  [nullStatus, nestedEntry, spelledEntry errorCodeField "E" (by decide) (by decide),
    spelledEntry statusField "404" (by decide) (by decide)]

theorem wholeStatuses_read :
    ∃ payload, WrittenMap wholeStatuses payload ∧ (∀ e ∈ wholeStatuses.dropLast, e.ReadWhole) ∧
      (∀ e ∈ wholeStatuses, e.Readable) ∧
      readRejection (payload ++ [0xff]) = some ⟨none, some "E", none⟩ := by
  have hmap : WrittenMap wholeStatuses
      (writeMapHead 4 ++ wholeStatuses.flatMap WrittenEntry.bytes) :=
    ⟨⟨_, head_spelled _ (by decide), rfl⟩, by decide⟩
  have hwhole : ∀ e ∈ wholeStatuses.dropLast, e.ReadWhole := by
    simp only [wholeStatuses, List.dropLast_cons_cons, List.dropLast_singleton,
      List.forall_mem_cons]
    refine ⟨fun _ => .inr (by decide), ?_, ?_, List.forall_mem_nil _⟩ <;> exact nofun
  have hreadable : ∀ e ∈ wholeStatuses, e.Readable := by
    simp only [wholeStatuses, List.forall_mem_cons]
    refine ⟨?_, ?_, spelledEntry_readable _ _, spelledEntry_readable _ _, List.forall_mem_nil _⟩
    · exact .of_spells (spells_writeText (s := statusField) (by decide) .nil) spells_null
        ⟨nofun, nofun⟩ nofun
    · exact ⟨spells_writeText (by decide) .nil, nofun, fun _ => nested_writes true⟩
  have hread := ((rejection_read_past_whole_statuses hmap [0xff]).1 hwhole).1 hreadable
  exact ⟨_, hmap, hwhole, hreadable, hread⟩

/-- A status that is a text, and a code behind it. -/
def textualStatus : List WrittenEntry :=
  [spelledEntry statusField "404" (by decide) (by decide),
    spelledEntry errorCodeField "E" (by decide) (by decide)]

/-- The code behind a status that is a text is not read, though it can be: inside of the status, a
key is looked for, and none found. -/
theorem textual_status_hides_code :
    WrittenMap textualStatus (writeTextMap [(statusField, "404"), (errorCodeField, "E")]) ∧
      (∀ e ∈ textualStatus, e.Readable) ∧
      said (textualStatus.map WrittenEntry.pair) = ⟨none, some "E", none⟩ ∧
      readRejection (writeTextMap [(statusField, "404"), (errorCodeField, "E")]) = none := by
  have hmap : WrittenMap textualStatus
      (writeTextMap [(statusField, "404"), (errorCodeField, "E")]) :=
    ⟨⟨writeMapHead 2, head_spelled _ (by decide), by rfl⟩, by decide⟩
  have hreadable : ∀ e ∈ textualStatus, e.Readable := by
    simp only [textualStatus, List.forall_mem_cons]
    exact ⟨spelledEntry_readable _ _, spelledEntry_readable _ _, List.forall_mem_nil _⟩
  exact ⟨hmap, hreadable, by rfl, by rfl⟩

end Payload.Binary

end Enrolment
