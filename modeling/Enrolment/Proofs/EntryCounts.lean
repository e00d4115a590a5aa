import Enrolment.Proofs.Lengths

/-!
# Enrolment.Proofs.EntryCounts

The number of entries that a map declares is only a promise. Every entry that is read takes bytes,
two at least where key and value are both read whole, and one, for the key, in a rejection. So the
bytes that are left bound the entries that are read, whatever the head of the map declares, and a
response whose map, or whose configuration, declares more than there can be is refused.

* `Between.length_le`: what has been read has a byte for every token.
* `countEntries`: the entries that are read, counted, also where the reading fails.
* `declared_counts_are_bounded`: all loops over entries, and both responses.
-/

namespace Enrolment

namespace Cbor

theorem Token.Spells.length_pos {t : Token} {b : Bytes} (h : t.Spells b) : 0 < b.length := by
  cases h with
  | string _ hhead =>
    rw [List.length_append]
    exact Nat.add_pos_left hhead.length_pos _
  | head _ _ hhead => exact hhead.length_pos
  | opening _ _ | close => exact Nat.one_pos

theorem Tokens.length_le {ts : List Token} {b : Bytes} (h : Tokens ts b) :
    ts.length ≤ b.length := by
  induction h with
  | nil => exact Nat.le_refl 0
  | cons first _ ih =>
    have hpos := first.length_pos
    rw [List.length_cons, List.length_append]
    omega

theorem Between.length_le {ts : List Token} {c c' : Cursor} (h : Between ts c c') :
    c'.rest.length + ts.length ≤ c.rest.length := by
  obtain ⟨b, htokens, hrest⟩ := h
  have hle := htokens.length_le
  rw [hrest, List.length_append]
  omega

/-- A status is not always read, but nothing before it is read again. -/
theorem word16_length_le (c : Cursor) : (word16 c).2.rest.length ≤ c.rest.length := by
  rw [word16]
  split
  · exact Nat.le_refl _
  · next b c' hbyte =>
    have hfirst : c'.rest.length ≤ c.rest.length := by
      rw [rest_of_byte hbyte]
      exact Nat.le_succ _
    split
    · exact hfirst
    · split
      · exact hfirst
      · next n c'' hargument =>
        obtain ⟨long, -, hrest⟩ := Head.of_argument hargument
        rw [hrest, List.length_append] at hfirst
        exact Nat.le_trans (Nat.le_add_left _ _) hfirst

end Cbor

namespace Payload.Binary
open Cbor

/-! ## Loops over entries -/

section Loops

variable {σ α : Type} {step : σ → String → Reader σ} {least n : Nat} {s s' : σ} {c c' : Cursor}

/-- An entry that is read, key and value, takes so many bytes at least. -/
def Uses (least : Nat) (step : σ → String → Reader σ) : Prop :=
  ∀ s key c c₁ s' c', text c = .ok (key, c₁) → step s key c₁ = .ok (s', c') →
    c'.rest.length + least ≤ c.rest.length

/-- Reads entries, and counts those that have been read. -/
def countEntries (step : σ → String → Reader σ) :
    Nat → σ → Cursor → Nat × Except CodecError (σ × Cursor)
  | 0, s, c => (0, .ok (s, c))
  | n + 1, s, c =>
    match text c with
    | .error e => (0, .error e)
    | .ok (key, c) =>
      match step s key c with
      | .error e => (0, .error e)
      | .ok (s, c) =>
        let (count, result) := countEntries step n s c
        (count + 1, result)

theorem countEntries_result (step : σ → String → Reader σ) (n : Nat) (s : σ) (c : Cursor) :
    (countEntries step n s c).2 = foldEntries step n s c := by
  induction n generalizing s c with
  | zero => rfl
  | succ n ih =>
    rw [countEntries, foldEntries]
    cases text c with
    | error e => rfl
    | ok keyed =>
      obtain ⟨key, c₁⟩ := keyed
      simp only [bind, Except.bind]
      cases step s key c₁ with
      | error e => rfl
      | ok next => exact ih next.1 next.2

/-- By induction on the entries declared: each that is read leaves fewer bytes to the others. -/
theorem Uses.count_le (h : Uses least step) (n : Nat) (s : σ) (c : Cursor) :
    least * (countEntries step n s c).1 ≤ c.rest.length := by
  induction n generalizing s c with
  | zero => exact Nat.zero_le _
  | succ n ih =>
    rw [countEntries]
    split
    · exact Nat.zero_le _
    · next key c₁ hkey =>
      split
      · exact Nat.zero_le _
      · next s' c' hvalue =>
        have hused := h _ _ _ _ _ _ hkey hvalue
        have hrest := ih s' c'
        rw [Nat.mul_succ]
        omega

/-- When all is read, all is counted. -/
theorem count_of_ok (h : foldEntries step n s c = .ok (s', c')) :
    (countEntries step n s c).1 = n := by
  induction n generalizing s c with
  | zero => rfl
  | succ n ih =>
    obtain ⟨⟨key, c₁⟩, hkey, h⟩ := ok_of_bind h
    obtain ⟨⟨s₁, c₂⟩, hvalue, h⟩ := ok_of_bind h
    simp only [countEntries, hkey, hvalue, ih h]

theorem Uses.declared_le (h : Uses least step) (hok : foldEntries step n s c = .ok (s', c')) :
    least * n ≤ c.rest.length := by
  have hcount := h.count_le n s c
  rwa [count_of_ok hok] at hcount

theorem Uses.count_lt (h : Uses least step) (hlong : c.rest.length < least * n) (s : σ) :
    (countEntries step n s c).1 < n :=
  Nat.lt_of_mul_lt_mul_left (Nat.lt_of_le_of_lt (h.count_le n s c) hlong)

theorem uses_two {tokens : α → List Token} {P : String → α → Prop}
    (hstep : ReadsValues step tokens P) (htokens : ∀ a, 1 ≤ (tokens a).length) : Uses 2 step := by
  intro s key c c₁ s' c' hkey hvalue
  obtain ⟨a, -, hvalue⟩ := hstep _ _ _ _ _ hvalue
  have hle := ((text_between hkey).append hvalue).length_le
  have hpos := htokens a
  rw [List.length_append, List.length_singleton] at hle
  omega

end Loops

/-! ## The four loops -/

theorem TakenValue.one_le_length_tokens (v : TakenValue) : 1 ≤ v.tokens.length := by
  cases v with
  | text s => exact Nat.le_refl 1
  | skipped v => exact Nat.succ_pos _

theorem TakenField.one_le_length_tokens (f : TakenField) : 1 ≤ f.tokens.length := by
  cases f with
  | value v => exact v.one_le_length_tokens
  | map entries => exact Nat.succ_pos _

theorem credentialEntry_uses : Uses 2 credentialEntry :=
  uses_two credentialEntry_values TakenValue.one_le_length_tokens

theorem registrationEntry_uses : Uses 2 registrationEntry :=
  uses_two registrationEntry_values TakenField.one_le_length_tokens

theorem textEntry_uses : Uses 2 textEntry :=
  uses_two textEntry_values TakenValue.one_le_length_tokens

/-- The value of an entry may be no status, and then nothing of it need be read. -/
theorem rejectionEntry_length_le {r r' : Rejection} {key : String} {c c' : Cursor}
    (h : rejectionEntry r key c = .ok (r', c')) : c'.rest.length ≤ c.rest.length := by
  have htext (h : ∃ s, text c = .ok (s, c')) : c'.rest.length ≤ c.rest.length := by
    obtain ⟨s, hs⟩ := h
    exact Nat.le_of_add_right_le (text_between hs).length_le
  unfold rejectionEntry at h
  split at h
  · cases h
    exact word16_length_le c
  · split at h
    · exact htext (text_of_take (fun s => { r with code := some s }) h)
    · split at h
      · exact htext (text_of_take (fun s => { r with message := some s }) h)
      · obtain ⟨c₁, hpass, h⟩ := ok_of_bind h
        cases h
        obtain ⟨head, inside, hts⟩ := skip_between (ok_of_mapError hpass)
        exact Nat.le_of_add_right_le hts.length_le

theorem rejectionEntry_uses : Uses 1 rejectionEntry := by
  intro r key c c₁ r' c' hkey hvalue
  have hkey := (text_between hkey).length_le
  have hvalue := rejectionEntry_length_le hvalue
  rw [List.length_singleton] at hkey
  omega

/-! ## Both responses -/

theorem entries_of_wholeMap {σ : Type} {step : σ → String → Reader σ} {start s : σ} {n : Nat}
    {payload : Bytes} {c : Cursor} (hcount : entryCount (.ofBytes payload) = .ok (n, c))
    (h : wholeMap step start payload = .ok s) :
    ∃ c', foldEntries step n start c = .ok (s, c') := by
  obtain ⟨c', hfold, -⟩ := wholeMap_eq_ok h
  obtain ⟨⟨n', c₁⟩, hcount', hentries⟩ := ok_of_bind hfold
  cases hcount.symm.trans hcount'
  exact ⟨c', hentries⟩

theorem foldEntries_add {σ : Type} (step : σ → String → Reader σ) (k m : Nat) (s : σ) (c : Cursor) :
    foldEntries step (k + m) s c = (do
      let (s, c) ← foldEntries step k s c
      foldEntries step m s c) := by
  induction k generalizing s c with
  | zero => rw [Nat.zero_add]; rfl
  | succ k ih =>
    rw [Nat.add_right_comm]
    simp only [foldEntries, ih, bind_assoc]

/-- While a registration is read, after some of its entries, the configuration is reached: a map
that declares `m` entries, at the cursor. -/
def ReachesConfiguration (payload : Bytes) (m : Nat) (c' : Cursor) : Prop :=
  ∃ n c k found c₁ c₂, entryCount (.ofBytes payload) = .ok (n, c) ∧ k < n ∧
    foldEntries registrationEntry k (none, .empty) c = .ok (found, c₁) ∧
    text c₁ = .ok (configurationField, c₂) ∧ entryCount c₂ = .ok (m, c')

theorem ReachesConfiguration.declared_le {payload : Bytes} {m : Nat} {c' : Cursor}
    {found : Option String × TextMap} (h : ReachesConfiguration payload m c')
    (hok : wholeMap registrationEntry (none, .empty) payload = .ok found) :
    2 * m ≤ c'.rest.length := by
  obtain ⟨n, c, k, found₁, c₁, c₂, hcount, hk, hbefore, hkey, hhead⟩ := h
  obtain ⟨c₃, hentries⟩ := entries_of_wholeMap hcount hok
  obtain ⟨later, rfl⟩ := Nat.exists_eq_add_of_lt hk
  rw [Nat.add_assoc, foldEntries_add, hbefore] at hentries
  have hrest : foldEntries registrationEntry (later + 1) found₁ c₁ = .ok (found, c₃) := hentries
  obtain ⟨⟨key, c₄⟩, hkey', hrest⟩ := ok_of_bind hrest
  cases hkey.symm.trans hkey'
  obtain ⟨⟨found₂, c₅⟩, hvalue, -⟩ := ok_of_bind hrest
  have hother : configurationField ≠ thingNameField := by decide
  simp only [registrationEntry, if_neg hother, if_true] at hvalue
  obtain ⟨⟨configuration, c₆⟩, hmap, -⟩ := ok_of_bind hvalue
  obtain ⟨⟨m', c₇⟩, hhead', htexts⟩ := ok_of_bind hmap
  cases hhead.symm.trans hhead'
  exact textEntry_uses.declared_le htexts

/-- What does not end well ends with an error. -/
theorem exists_error {α : Type} {r : Except CodecError α} (h : ∀ a, r ≠ .ok a) :
    ∃ e, r = .error e := by
  cases r with
  | error e => exact ⟨e, rfl⟩
  | ok a => exact absurd rfl (h a)

/-- Whatever a map declares, the entries that are read of it, before the end or an error, are
bounded by the bytes that are left: each takes two at least, or one in a rejection. A response that
declares more entries than half of the bytes behind the head, for its map or for the configuration
where that is reached, is refused, and not all of these entries are read. -/
theorem declared_counts_are_bounded (limits : FieldLimits) (payload : Bytes) :
    (∀ {σ : Type} (step : σ → String → Reader σ) n s c,
      (countEntries step n s c).2 = foldEntries step n s c) ∧
    (Uses 2 credentialEntry ∧ Uses 2 registrationEntry ∧ Uses 2 textEntry ∧
      Uses 1 rejectionEntry) ∧
    (∀ n c, (∀ t, 2 * (countEntries credentialEntry n t c).1 ≤ c.rest.length) ∧
      (∀ found, 2 * (countEntries registrationEntry n found c).1 ≤ c.rest.length) ∧
      (∀ m, 2 * (countEntries textEntry n m c).1 ≤ c.rest.length) ∧
      ∀ r, (countEntries rejectionEntry n r c).1 ≤ c.rest.length) ∧
    (∀ n c, entryCount (.ofBytes payload) = .ok (n, c) → c.rest.length < payload.length ∧
      (c.rest.length < 2 * n →
        (∃ e, (Codec.standard limits .cbor).readCredential payload = .error e) ∧
        (∃ e, (Codec.standard limits .cbor).readRegistration payload = .error e) ∧
        (∀ t, (countEntries credentialEntry n t c).1 < n) ∧
        ∀ found, (countEntries registrationEntry n found c).1 < n)) ∧
    (∀ m c, ReachesConfiguration payload m c → c.rest.length < 2 * m →
      (∃ e, (Codec.standard limits .cbor).readRegistration payload = .error e) ∧
      ∀ found, (countEntries textEntry m found c).1 < m) := by
  refine ⟨countEntries_result,
    ⟨credentialEntry_uses, registrationEntry_uses, textEntry_uses, rejectionEntry_uses⟩,
    fun n c => ⟨fun t => credentialEntry_uses.count_le n t c,
      fun found => registrationEntry_uses.count_le n found c,
      fun m => textEntry_uses.count_le n m c, fun r => ?_⟩, ?outer, ?configuration⟩
  · have hle := rejectionEntry_uses.count_le n r c
    rwa [Nat.one_mul] at hle
  case outer =>
    intro n c hcount
    refine ⟨(entryCount_between hcount).length_le, fun hlong => ?_⟩
    refine ⟨exists_error fun a ha => ?_, exists_error fun a ha => ?_,
      credentialEntry_uses.count_lt hlong, registrationEntry_uses.count_lt hlong⟩
    · obtain ⟨texts, hmap, -⟩ := ok_of_bind ha
      obtain ⟨c', hentries⟩ := entries_of_wholeMap hcount hmap
      exact Nat.not_le_of_lt hlong (credentialEntry_uses.declared_le hentries)
    · obtain ⟨found, hmap, -⟩ := ok_of_bind ha
      obtain ⟨c', hentries⟩ := entries_of_wholeMap hcount hmap
      exact Nat.not_le_of_lt hlong (registrationEntry_uses.declared_le hentries)
  case configuration =>
    intro m c hreached hlong
    refine ⟨exists_error fun a ha => ?_, textEntry_uses.count_lt hlong⟩
    obtain ⟨found, hmap, -⟩ := ok_of_bind ha
    exact Nat.not_le_of_lt hlong (hreached.declared_le hmap)

/-- A map that declares as many entries as can be declared, and has one. -/
def boastfulPayload : Bytes :=
  Cbor.writeMapHead 0xffffffffffffffff ++ Cbor.writeEntry (thingNameField, "thing")

/-- A configuration like that. -/
def boastfulConfiguration : Bytes :=
  Cbor.writeMapHead 1 ++ Cbor.writeText configurationField ++
    Cbor.writeMapHead 0xffffffffffffffff ++ Cbor.writeEntry ("key", "value")

theorem boastful_counts_are_bounded :
    entryCount (.ofBytes boastfulPayload) =
      .ok (0xffffffffffffffff, ⟨9, Cbor.writeEntry (thingNameField, "thing")⟩) ∧
    (∃ e, (Codec.standard .standard .cbor).readRegistration boastfulPayload = .error e) ∧
    (countEntries registrationEntry 0xffffffffffffffff (none, .empty)
      ⟨9, Cbor.writeEntry (thingNameField, "thing")⟩).1 < 0xffffffffffffffff ∧
    ReachesConfiguration boastfulConfiguration 0xffffffffffffffff
      ⟨30, Cbor.writeEntry ("key", "value")⟩ ∧
    ∃ e, (Codec.standard .standard .cbor).readRegistration boastfulConfiguration = .error e := by
  have hcount : entryCount (.ofBytes boastfulPayload) =
      .ok (0xffffffffffffffff, ⟨9, Cbor.writeEntry (thingNameField, "thing")⟩) := by rfl
  have hreached : ReachesConfiguration boastfulConfiguration 0xffffffffffffffff
      ⟨30, Cbor.writeEntry ("key", "value")⟩ :=
    ⟨1, _, 0, (none, .empty), _, _, rfl, by decide, rfl, rfl, rfl⟩
  obtain ⟨-, -, -, houter, -⟩ := declared_counts_are_bounded .standard boastfulPayload
  obtain ⟨-, -, -, -, hconfiguration⟩ := declared_counts_are_bounded .standard boastfulConfiguration
  obtain ⟨-, hrefused, -, hread⟩ := (houter _ _ hcount).2 (by decide)
  exact ⟨hcount, hrefused, hread _, hreached, (hconfiguration _ _ hreached (by decide)).1⟩

end Payload.Binary

end Enrolment
