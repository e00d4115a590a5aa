import Enrolment.Proofs.Items

/-!
# Enrolment.Proofs.Spelling

What a reader takes was spelled: the bytes between the cursor before an item and the cursor behind
it are a head with the item's argument, in one of its lengths, and the content.

* `ok_of_bind`, `ok_of_mapError`: if a result is there, so were those that it was made from.
* `Head.of_argument`: the bytes of an argument.
* `spelled_of_text`: the bytes of a text.
-/

namespace Enrolment

theorem ok_of_bind {ε α β : Type} {r : Except ε α} {f : α → Except ε β} {b : β}
    (h : r >>= f = .ok b) : ∃ a, r = .ok a ∧ f a = .ok b := by
  cases r with
  | error e => cases h
  | ok a => exact ⟨a, rfl, h⟩

theorem ok_of_mapError {ε ε' α : Type} {r : Except ε α} {f : ε → ε'} {a : α}
    (h : r.mapError f = .ok a) : r = .ok a := by
  cases r with
  | error e => cases h
  | ok b => cases h; rfl

end Enrolment

namespace Enrolment.Cbor

/-! ## Numbers -/

theorem foldl_bigEndian_div (b : Bytes) (start : Nat) :
    b.foldl (fun n d => 256 * n + d.toNat) start / 256 ^ b.length = start := by
  induction b generalizing start with
  | nil => simp
  | cons d b ih =>
    have hd : d.toNat < 256 := d.toNat_lt
    rw [List.foldl_cons, List.length_cons, Nat.pow_succ, ← Nat.div_div_eq_div_mul, ih]
    omega

/-- Any number that ends in some bytes is written with them. -/
theorem toBigEndian_foldl (b : Bytes) (start : Nat) :
    toBigEndian b.length (b.foldl (fun n d => 256 * n + d.toNat) start) = b := by
  induction b generalizing start with
  | nil => rfl
  | cons d b ih =>
    rw [List.foldl_cons, List.length_cons, toBigEndian, ih, Nat.shiftRight_eq_div_pow, Nat.pow_mul,
      foldl_bigEndian_div]
    have hfirst : UInt8.ofNat (256 * start + d.toNat) = d := by
      have hd : d.toNat < 256 := d.toNat_lt
      rw [← UInt8.toNat_inj, UInt8.toNat_ofNat']
      omega
    rw [hfirst]

theorem ofBigEndian_lt (b : Bytes) : ofBigEndian b < 256 ^ b.length :=
  Nat.lt_of_div_eq_zero (Nat.pow_pos (by decide)) (foldl_bigEndian_div b 0)

/-! ## Heads -/

variable {first : UInt8} {major n pos : Nat} {c c' : Cursor}

theorem firstByte_of_byte (b : UInt8) : firstByte (majorOf b) (infoOf b) = b := by
  rw [firstByte, majorOf, infoOf, ← UInt8.toNat_inj, UInt8.toNat_ofNat']
  have := b.toNat_lt
  omega

theorem spelled_of_take {content : Bytes} (h : take n c = .ok (content, c')) :
    content.length = n ∧ c.rest = content ++ c'.rest := by
  unfold take at h
  split at h
  · cases h
  · next hlong =>
    cases h
    exact ⟨by rw [List.length_take]; omega, (List.take_append_drop n c.rest).symm⟩

theorem spelled_of_number {k : Nat} (h : number k c = .ok (n, c')) :
    n < 256 ^ k ∧ c.rest = toBigEndian k n ++ c'.rest := by
  simp only [number, bind, Except.bind] at h
  split at h
  · cases h
  · next p htake =>
    cases h
    obtain ⟨rfl, hrest⟩ := spelled_of_take htake
    refine ⟨ofBigEndian_lt _, ?_⟩
    rwa [ofBigEndian, toBigEndian_foldl]

theorem Head.of_argument (h : argument (infoOf first) pos c = .ok (n, c')) :
    ∃ b, Head (majorOf first) n (first :: b) ∧ c.rest = b ++ c'.rest := by
  have hlong (w : Nat) (hw : w < 4) (hinfo : infoOf first = 24 + w)
      (h : number (2 ^ w) c = .ok (n, c')) :
      ∃ b, Head (majorOf first) n (first :: b) ∧ c.rest = b ++ c'.rest := by
    obtain ⟨hn, hrest⟩ := spelled_of_number h
    refine ⟨_, ?_, hrest⟩
    have hfirst : firstByte (majorOf first) (24 + w) = first := hinfo ▸ firstByte_of_byte first
    have hhead : Head (majorOf first) n _ := .long w hw hn
    rwa [hfirst] at hhead
  unfold argument at h
  split at h
  · next hshort =>
    cases h
    have hhead : Head (majorOf first) (infoOf first) _ := .short hshort
    rw [firstByte_of_byte] at hhead
    exact ⟨[], hhead, rfl⟩
  · split at h
    · next hinfo => exact hlong 0 (by decide) hinfo h
    · split at h
      · next hinfo => exact hlong 1 (by decide) hinfo h
      · split at h
        · next hinfo => exact hlong 2 (by decide) hinfo h
        · split at h
          · next hinfo => exact hlong 3 (by decide) hinfo h
          · cases h

theorem Head.length_le {b : Bytes} (h : Head major n b) : b.length ≤ 9 := by
  cases h with
  | short _ => exact Nat.succ_le_succ (Nat.zero_le 8)
  | long w hw _ =>
    have hpow : 2 ^ w ≤ 2 ^ 3 := Nat.pow_le_pow_right (by decide) (by omega)
    rw [List.length_cons, length_toBigEndian]
    omega

/-! ## Texts -/

theorem spelled_of_definiteString {content : Bytes}
    (h : definiteString major c = .ok (content, c')) :
    ∃ b, Head major content.length b ∧ c.rest = b ++ (content ++ c'.rest) := by
  obtain ⟨pos, rest⟩ := c
  cases rest with
  | nil => cases h
  | cons first rest =>
    simp only [definiteString, byte, bind, Except.bind] at h
    split at h
    · cases h
    · next hmajor =>
      have hmajor : majorOf first = major := Classical.not_not.1 (not_or.1 hmajor).1
      split at h
      · cases h
      · next p hargument =>
        obtain ⟨length, c₂⟩ := p
        obtain ⟨b, hhead, hrest⟩ := Head.of_argument hargument
        obtain ⟨rfl, hcontent⟩ := spelled_of_take h
        rw [hmajor] at hhead
        refine ⟨first :: b, hhead, ?_⟩
        have hrest : rest = b ++ c₂.rest := hrest
        rw [hrest, hcontent]
        rfl

theorem spelled_of_text {s : String} (h : text c = .ok (s, c')) :
    ∃ b, Head majorText (utf8 s).length b ∧ c.rest = b ++ (utf8 s ++ c'.rest) := by
  simp only [text, bind, Except.bind] at h
  split at h
  · cases h
  · next p hcontent =>
    obtain ⟨content, c₂⟩ := p
    simp only at h
    split at h
    · next t ht =>
      cases h
      rw [Bytes.utf8_of_text? ht]
      exact spelled_of_definiteString hcontent
    · cases h

end Enrolment.Cbor
