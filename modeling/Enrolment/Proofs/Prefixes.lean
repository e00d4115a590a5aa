import Enrolment.Payload.Standard
import Enrolment.Proofs.Spelling

/-!
# Enrolment.Proofs.Prefixes

No accepted binary response is the beginning of another one. Every reader goes forward, and what it
makes of its input does not depend on what follows: with more input it does the same, unless it has
come to the end of the shorter one (`Stands`). Fuel is no exception, because more input brings more
of it.

Cut short, a response that was read as a whole therefore ends too early, wherever the cut is: inside
a head, inside a text, between a key and its value, or inside a value that is passed over. With
anything behind it, it is read up to its end, and has bytes too many.

* `Cbor.skip_steady`, `Payload.Binary.foldMap_steady`: the readers that descend, and the one that
  takes entry after entry.
* `responses_stand_alone`: both responses, under any limits.
-/

namespace Enrolment

namespace Cbor

/-- The cursor with more input behind what is left. -/
def Cursor.extend (more : Bytes) (c : Cursor) : Cursor := ⟨c.pos, c.rest ++ more⟩

@[simp] theorem Cursor.extend_pos (more : Bytes) (c : Cursor) : (c.extend more).pos = c.pos := rfl

@[simp] theorem Cursor.extend_rest (more : Bytes) (c : Cursor) :
    (c.extend more).rest = c.rest ++ more := rfl

theorem Cursor.extend_advance {n : Nat} {c : Cursor} (more : Bytes) (h : n ≤ c.rest.length) :
    (c.extend more).advance n = (c.advance n).extend more := by
  simp [advance, extend, List.drop_append_of_le_length h]

end Cbor

/-- What a reader makes of some input, and of the same input with more behind it: unless the input
has ended, it is the same. -/
def Stands {ε α : Type} (ended : ε) (extend : α → α) (r longer : Except ε α) : Prop :=
  r = .error ended ∨ longer = r.map extend

namespace Stands

variable {ε ε' α β : Type} {ended : ε} {extend : α → α} {extend' : β → β} {r longer : Except ε α}

theorem bind {f g : α → Except ε β} (h : Stands ended extend r longer)
    (hnext : ∀ a, Stands ended extend' (f a) (g (extend a))) :
    Stands ended extend' (r >>= f) (longer >>= g) := by
  obtain rfl | rfl := h
  · exact .inl rfl
  · cases r with
    | error e => exact .inr rfl
    | ok a => exact hnext a

theorem mapError (h : Stands ended extend r longer) (f : ε → ε') :
    Stands (f ended) extend (r.mapError f) (longer.mapError f) := by
  obtain rfl | rfl := h
  · exact .inl rfl
  · cases r <;> exact .inr rfl

theorem ite {p : Prop} [Decidable p] {r' longer' : Except ε α}
    (h : p → Stands ended extend r longer) (h' : ¬ p → Stands ended extend r' longer') :
    Stands ended extend (if p then r else r') (if p then longer else longer') := by
  split
  · exact h ‹_›
  · exact h' ‹_›

/-- What does not depend on the input stands. -/
theorem same (r : Except ε α) : Stands ended id r r := by
  cases r <;> exact .inr rfl

theorem ok (a : α) : Stands ended extend (.ok a) (.ok (extend a)) := .inr rfl

theorem error (e : ε) : Stands ended extend (.error e) (.error e) := .inr rfl

end Stands

namespace Cbor

/-- More input behind a value that has been read. -/
def extendRead {α : Type} (more : Bytes) (r : α × Cursor) : α × Cursor := (r.1, r.2.extend more)

/-- More input changes nothing for the reader, unless it has run to the end. -/
def Steady {α : Type} (read : Reader α) : Prop :=
  ∀ c more, Stands .endOfInput (extendRead more) (read c) (read (c.extend more))

theorem byte_steady : Steady byte := by
  intro c more
  rw [byte, byte, Cursor.extend_rest]
  cases hrest : c.rest with
  | nil => exact .inl rfl
  | cons b rest =>
    have hadvance : (c.extend more).advance 1 = (c.advance 1).extend more :=
      Cursor.extend_advance more (by simp [hrest])
    simp only [List.cons_append, hadvance]
    exact .ok (b, c.advance 1)

theorem take_steady (n : Nat) : Steady (take n) := by
  intro c more
  rw [take]
  split
  · exact .inl rfl
  · next hlong =>
    have hle : n ≤ c.rest.length := Nat.not_lt.1 hlong
    have hmore : ¬ (c.extend more).rest.length < n := by
      rw [Cursor.extend_rest, List.length_append]
      omega
    rw [take, if_neg hmore, Cursor.extend_advance more hle, Cursor.extend_rest,
      List.take_append_of_le_length hle]
    exact .ok (c.rest.take n, c.advance n)

theorem number_steady (n : Nat) : Steady (number n) := fun c more =>
  (take_steady n c more).bind fun (b, c) => .ok (ofBigEndian b, c)

theorem argument_steady (info pos : Nat) : Steady (argument info pos) := by
  intro c more
  unfold argument
  split
  · exact .ok (info, c)
  · split
    · exact number_steady 1 c more
    · split
      · exact number_steady 2 c more
      · split
        · exact number_steady 4 c more
        · split
          · exact number_steady 8 c more
          · exact .error _

theorem kindAt_steady (c : Cursor) (more : Bytes) :
    Stands .endOfInput id (kindAt c) (kindAt (c.extend more)) := by
  rw [kindAt, kindAt, Cursor.extend_rest]
  cases c.rest with
  | nil => exact .inl rfl
  | cons b rest =>
    simp only [List.cons_append]
    by_cases hended : namesByNextByte b && rest.isEmpty
    · rw [if_pos hended]
      exact .inl rfl
    · have hmore : ¬ (namesByNextByte b && (rest ++ more).isEmpty) := by
        simp only [Bool.and_eq_true, List.isEmpty_iff, List.append_eq_nil_iff, not_and] at hended ⊢
        exact fun hnames hrest => absurd hrest (hended hnames)
      rw [if_neg hended, if_neg hmore]
      exact .ok (Kind.ofByte b)

theorem mismatch_steady {α : Type} {extend : α → α} (b : UInt8) (pos : Nat) (c : Cursor)
    (more : Bytes) :
    Stands .endOfInput extend (.error (mismatch b pos c))
      (.error (mismatch b pos (c.extend more))) := by
  rw [mismatch, mismatch, Cursor.extend_rest, List.length_append]
  by_cases hended : namesByNextByte b && c.rest.length < 2
  · rw [if_pos hended]
    exact .inl rfl
  · have hmore : ¬ (namesByNextByte b && c.rest.length + more.length < 2) := by
      simp only [Bool.and_eq_true, decide_eq_true_eq, not_and] at hended ⊢
      exact fun hnames => by have := hended hnames; omega
    rw [if_neg hended, if_neg hmore]
    exact .error _

theorem definiteString_steady (major : Nat) : Steady (definiteString major) := by
  intro c more
  refine (byte_steady c more).bind fun (b, c') => .ite (fun _ => ?_) (fun _ => ?_)
  · exact mismatch_steady b c.pos c' more
  · exact (argument_steady (infoOf b) c.pos c' more).bind fun (n, c') => take_steady n c' more

theorem text_steady : Steady text := by
  intro c more
  refine (definiteString_steady majorText c more).bind fun (content, c') => ?_
  simp only [extendRead]
  cases content.text? with
  | some s => exact .ok (s, c')
  | none => exact .error _

theorem containerLength_steady (major : Nat) : Steady (containerLength major) := by
  intro c more
  refine (byte_steady c more).bind fun (b, c') => .ite (fun _ => ?_) (fun _ => ?_)
  · exact mismatch_steady b c.pos c' more
  · refine .ite (fun _ => .ok (none, c')) (fun _ => ?_)
    exact (argument_steady (infoOf b) c.pos c' more).bind fun (n, c') => .ok (some n, c')

/-! ## Passing over -/

theorem skipChunks_steady (major : Nat) (more : Bytes) {fuel fuel' : Nat} (hfuel : fuel ≤ fuel')
    (c : Cursor) :
    Stands .endOfInput (Cursor.extend more) (skipChunks major fuel c)
      (skipChunks major fuel' (c.extend more)) := by
  induction fuel generalizing fuel' c with
  | zero => exact .inl rfl
  | succ fuel ih =>
    obtain ⟨fuel', rfl⟩ := Nat.exists_eq_add_one_of_ne_zero (by omega : fuel' ≠ 0)
    rw [skipChunks, skipChunks, Cursor.extend_rest]
    cases hrest : c.rest with
    | nil => exact .inl rfl
    | cons b rest =>
      refine .ite (fun _ => ?_) (fun _ => ?_)
      · rw [Cursor.extend_advance more (by simp [hrest])]
        exact .ok (c.advance 1)
      · refine (definiteString_steady major c more).bind fun (content, c') => ?_
        exact (Stands.same (checkContent major c.pos content)).bind fun _ => ih (by omega) c'

theorem skipString_steady (major : Nat) (c : Cursor) (more : Bytes) :
    Stands .endOfInput (Cursor.extend more) (skipString major c)
      (skipString major (c.extend more)) := by
  refine (byte_steady c more).bind fun (b, c') => .ite (fun _ => ?_) (fun _ => ?_)
  · exact skipChunks_steady major more (by simp) c'
  · refine (argument_steady (infoOf b) c.pos c' more).bind fun (n, c') => ?_
    refine (take_steady n c' more).bind fun (content, c') => ?_
    exact (Stands.same (checkContent major c.pos content)).bind fun _ => .ok c'

theorem skipHead_steady (c : Cursor) (more : Bytes) :
    Stands .endOfInput (Cursor.extend more) (skipHead c) (skipHead (c.extend more)) :=
  (byte_steady c more).bind fun (b, c') =>
    (argument_steady (infoOf b) c.pos c' more).bind fun (_, c') => .ok c'

theorem skipContainer_steady (major perEntry : Nat) (p : Pending) :
    Steady (skipContainer major perEntry p) := by
  intro c more
  refine (containerLength_steady major c more).bind fun (length, c') => ?_
  cases length with
  | some n => exact .ok (p.openDefinite (min (perEntry * n) Pending.maxCount), c')
  | none => exact .ok (p.openIndefinite, c')

theorem skipStep_steady (p : Pending) : Steady (skipStep p) := by
  intro c more
  rw [skipStep, skipStep, Cursor.extend_rest]
  cases hrest : c.rest with
  | nil => exact .inl rfl
  | cons b rest =>
    refine .ite (fun _ => ?_) (fun _ => .ite (fun _ => ?_) (fun _ => .ite (fun _ => ?_)
      (fun _ => .ite (fun _ => ?_) (fun _ => .ite (fun _ => .error _) (fun _ => .ite (fun _ => ?_)
        (fun _ => ?_))))))
    · rw [Cursor.extend_advance more (by simp [hrest])]
      exact .ok (p.close.endRound, c.advance 1)
    · exact (skipString_steady (majorOf b) c more).bind fun c' => .ok (p.endRound, c')
    · refine (skipContainer_steady (majorOf b) 1 p c more).bind fun (p', c') => ?_
      exact .ok (p'.endRound, c')
    · refine (skipContainer_steady (majorOf b) 2 p c more).bind fun (p', c') => ?_
      exact .ok (p'.endRound, c')
    · exact (skipHead_steady c more).bind fun c' => .ok (p, c')
    · exact (skipHead_steady c more).bind fun c' => .ok (p.endRound, c')

theorem skipLoop_steady (more : Bytes) {fuel fuel' : Nat} (hfuel : fuel ≤ fuel') (p : Pending)
    (c : Cursor) :
    Stands .endOfInput (Cursor.extend more) (skipLoop fuel p c)
      (skipLoop fuel' p (c.extend more)) := by
  induction fuel generalizing fuel' p c with
  | zero => exact .inl rfl
  | succ fuel ih =>
    obtain ⟨fuel', rfl⟩ := Nat.exists_eq_add_one_of_ne_zero (by omega : fuel' ≠ 0)
    rw [skipLoop, skipLoop]
    refine .ite (fun _ => .ok c) (fun _ => ?_)
    exact (skipStep_steady p c more).bind fun (p, c') => ih (by omega) p c'

theorem skip_steady (c : Cursor) (more : Bytes) :
    Stands .endOfInput (Cursor.extend more) (skip c) (skip (c.extend more)) :=
  skipLoop_steady more (by simp) .one c

end Cbor

namespace Payload.Binary
open Cbor (Cursor Kind extendRead)

variable {σ : Type}

/-- More input changes nothing for the reader, unless it has run to the end. -/
def Steady {α : Type} (read : Reader α) : Prop :=
  ∀ c more, Stands (.cbor .endOfInput) (extendRead more) (read c) (read (c.extend more))

theorem item_steady {α : Type} {read : Cbor.Reader α} (h : Cbor.Steady read) :
    Steady (item read) := fun c more => (h c more).mapError CodecError.cbor

theorem kind_steady (c : Cursor) (more : Bytes) :
    Stands (.cbor .endOfInput) id (kind c) (kind (c.extend more)) :=
  (Cbor.kindAt_steady c more).mapError CodecError.cbor

theorem entryCount_steady : Steady entryCount := by
  intro c more
  refine (item_steady (Cbor.containerLength_steady Cbor.majorMap) c more).bind fun (n, c') => ?_
  cases n with
  | some n => exact .ok (n, c')
  | none => exact .error _

theorem text_steady : Steady text := by
  intro c more
  refine (kind_steady c more).bind fun k => .ite (fun _ => .error _) (fun _ => ?_)
  exact item_steady Cbor.text_steady c more

theorem pass_steady (c : Cursor) (more : Bytes) :
    Stands (.cbor .endOfInput) (Cursor.extend more) (pass c) (pass (c.extend more)) :=
  (Cbor.skip_steady c more).mapError CodecError.cbor

theorem passDefinite_steady (c : Cursor) (more : Bytes) :
    Stands (.cbor .endOfInput) (Cursor.extend more) (passDefinite c)
      (passDefinite (c.extend more)) := by
  refine (kind_steady c more).bind fun k => ?_
  cases k with
  | text | other => exact pass_steady c more
  | _ => exact .error _

theorem foldEntries_steady {step : σ → String → Reader σ} (hstep : ∀ s key, Steady (step s key))
    (n : Nat) (s : σ) : Steady (foldEntries step n s) := by
  induction n generalizing s with
  | zero => exact fun c more => .ok (s, c)
  | succ n ih =>
    intro c more
    refine (text_steady c more).bind fun (key, c') => ?_
    exact (hstep s key c' more).bind fun (s, c') => ih s c' more

theorem foldMap_steady {step : σ → String → Reader σ} (hstep : ∀ s key, Steady (step s key))
    (start : σ) : Steady (foldMap step start) := fun c more =>
  (entryCount_steady c more).bind fun (n, c') => foldEntries_steady hstep n start c' more

theorem textEntry_steady (m : TextMap) (key : String) : Steady (textEntry m key) := by
  intro c more
  refine (kind_steady c more).bind fun k => .ite (fun _ => ?_) (fun _ => ?_)
  · exact (item_steady Cbor.text_steady c more).bind fun (value, c') => .ok (m.insert key value, c')
  · exact (passDefinite_steady c more).bind fun c' => .ok (m, c')

theorem textMap_steady : Steady textMap := foldMap_steady textEntry_steady _

theorem credentialEntry_steady (t : CredentialTexts) (key : String) :
    Steady (credentialEntry t key) := by
  intro c more
  refine .ite (fun _ => ?_) (fun _ => .ite (fun _ => ?_) (fun _ => .ite (fun _ => ?_)
    (fun _ => ?_)))
  · exact (text_steady c more).bind fun (s, c') => .ok ({ t with pem := some s }, c')
  · exact (text_steady c more).bind fun (s, c') => .ok ({ t with id := some s }, c')
  · exact (text_steady c more).bind fun (s, c') => .ok ({ t with token := some s }, c')
  · exact (passDefinite_steady c more).bind fun c' => .ok (t, c')

theorem registrationEntry_steady (found : Option String × TextMap) (key : String) :
    Steady (registrationEntry found key) := by
  intro c more
  refine .ite (fun _ => ?_) (fun _ => .ite (fun _ => ?_) (fun _ => ?_))
  · exact (text_steady c more).bind fun (s, c') => .ok ((some s, found.2), c')
  · exact (textMap_steady c more).bind fun (m, c') => .ok ((found.1, m), c')
  · exact (passDefinite_steady c more).bind fun c' => .ok (found, c')

/-! ## Whole payloads -/

/-- Among the payloads that begin with `payload`, or are a beginning of it, `read` takes no other
one: cut short, the input ends, and with anything behind it there are bytes too many. -/
structure StandsAlone {α : Type} (read : Bytes → Except CodecError α) (payload : Bytes) : Prop where
  cut {front : Bytes} : front <+: payload → front ≠ payload →
    read front = .error (.cbor .endOfInput)
  trailing {more : Bytes} : more ≠ [] → read (payload ++ more) = .error .trailingBytes

theorem StandsAlone.bind {α β : Type} {read : Bytes → Except CodecError α} {payload : Bytes}
    (h : StandsAlone read payload) (check : α → Except CodecError β) :
    StandsAlone (fun b => read b >>= check) payload where
  cut hfront hne := by rw [h.cut hfront hne]; rfl
  trailing hmore := by rw [h.trailing hmore]; rfl

theorem wholeMap_eq_ok {step : σ → String → Reader σ} {start s : σ} {payload : Bytes}
    (h : wholeMap step start payload = .ok s) :
    ∃ c, foldMap step start (.ofBytes payload) = .ok (s, c) ∧ c.rest = [] := by
  obtain ⟨⟨s₁, c⟩, hfold, h⟩ := ok_of_bind h
  simp only at h
  split at h
  · next hrest =>
    cases h
    exact ⟨c, hfold, List.isEmpty_iff.1 hrest⟩
  · cases h

theorem wholeMap_standsAlone {step : σ → String → Reader σ} (hstep : ∀ s key, Steady (step s key))
    {start s : σ} {payload : Bytes} (h : wholeMap step start payload = .ok s) :
    StandsAlone (wholeMap step start) payload := by
  obtain ⟨c, hfold, hrest⟩ := wholeMap_eq_ok h
  refine ⟨?_, ?_⟩
  · rintro front ⟨more, rfl⟩ hne
    have hmore : more ≠ [] := by rintro rfl; exact hne (List.append_nil front).symm
    obtain hend | hread := foldMap_steady hstep start (.ofBytes front) more
    · rw [wholeMap, hend]; rfl
    · -- Otherwise the whole payload would have been read with `more` left over.
      change foldMap step start (.ofBytes (front ++ more)) = _ at hread
      rw [hfold] at hread
      cases hshort : foldMap step start (.ofBytes front) with
      | error e => rw [hshort] at hread; cases hread
      | ok r =>
        rw [hshort] at hread
        cases hread
        exact absurd (List.append_eq_nil_iff.1 hrest).2 hmore
  · intro more hmore
    obtain hend | hread := foldMap_steady hstep start (.ofBytes payload) more
    · rw [hfold] at hend; cases hend
    · change foldMap step start (.ofBytes (payload ++ more)) = _ at hread
      have hleft : (c.extend more).rest.isEmpty = false := by simp [hrest, hmore]
      rw [wholeMap, hread, hfold]
      change (if (c.extend more).rest.isEmpty = true then _ else _) = _
      rw [hleft]
      rfl

/-- Whatever the limits are, a payload that is read as a credential stands alone among its
beginnings and the payloads that it begins, and so does one that is read as a registration. -/
theorem responses_stand_alone (limits : FieldLimits) (payload : Bytes) :
    (∀ c, (Codec.standard limits .cbor).readCredential payload = .ok c → ∀ limits',
      StandsAlone (Codec.standard limits' .cbor).readCredential payload) ∧
    (∀ r, (Codec.standard limits .cbor).readRegistration payload = .ok r → ∀ limits',
      StandsAlone (Codec.standard limits' .cbor).readRegistration payload) := by
  constructor
  · intro c h limits'
    obtain ⟨texts, hmap, -⟩ := ok_of_bind h
    exact (wholeMap_standsAlone credentialEntry_steady hmap).bind _
  · intro r h limits'
    obtain ⟨found, hmap, -⟩ := ok_of_bind h
    exact (wholeMap_standsAlone registrationEntry_steady hmap).bind _

/-- The entries of an answer to both requests. -/
def answerFields : List (String × String) :=
  [(certificatePemField, "pem"), (certificateIdField, "id"), (ownershipTokenField, "token"),
    (thingNameField, "thing")]

/-- Before them, the value of an unknown key is an array of a tagged number and a map, which holds a
string in chunks. -/
def answerWithArray : Bytes :=
  Cbor.writeMapHead 5 ++
    (Cbor.writeText "x" ++ [0x82, 0xc1, 0x18, 0x2a, 0xa1, 0x01, 0x5f, 0x41, 0x00, 0xff]) ++
    answerFields.flatMap Cbor.writeEntry

theorem answerWithArray_stands_alone :
    ((Codec.standard .standard .cbor).readCredential answerWithArray = .ok ⟨"pem", "id", "token"⟩ ∧
      StandsAlone (Codec.standard .standard .cbor).readCredential answerWithArray) ∧
    ((Codec.standard .standard .cbor).readRegistration answerWithArray = .ok ⟨"thing", .empty⟩ ∧
      StandsAlone (Codec.standard .standard .cbor).readRegistration answerWithArray) :=
  have hcredential : (Codec.standard .standard .cbor).readCredential answerWithArray =
      .ok ⟨"pem", "id", "token"⟩ := by rfl
  have hregistration : (Codec.standard .standard .cbor).readRegistration answerWithArray =
      .ok ⟨"thing", .empty⟩ := by rfl
  ⟨⟨hcredential, (responses_stand_alone .standard answerWithArray).1 _ hcredential .standard⟩,
    ⟨hregistration, (responses_stand_alone .standard answerWithArray).2 _ hregistration .standard⟩⟩

end Payload.Binary

end Enrolment
