import Enrolment.Proofs.Quotations

/-!
# Enrolment.Proofs.Pieces

Strings of JSON piece by piece, as they are read before anyone asks for their text. A piece is a
byte that stands for itself or for which a letter stands, or a code unit, so a string may hold bytes
and surrogates that are no text. Where it is one, the pieces come together to its characters.

* `SpellsPieces.pieces`, `pieces_spelled`: what is read up to a closing quote are pieces.
* `SpellsPieces.quotes`: pieces that are a text are a quotation of it.
-/

namespace Enrolment.Json

/-! ## Spelling -/

/-- The bytes of a part of a string. -/
inductive SpellsPiece : Piece → Bytes → Prop
  | plain {b : UInt8} (h : IsPlain b) : SpellsPiece (.byte b) [b]
  | short {c letter : Char} (h : (c, letter) ∈ shortEscapes) :
      SpellsPiece (.byte (ascii c)) [ascii '\\', ascii letter]
  | unit {n : Nat} {b : Bytes} (h : SpellsUnit n b) :
      SpellsPiece (.unit n) (ascii '\\' :: ascii 'u' :: b)

inductive SpellsPieces : List Piece → Bytes → Prop
  | nil : SpellsPieces [] []
  | cons {p : Piece} {ps : List Piece} {b b' : Bytes} (head : SpellsPiece p b)
      (rest : SpellsPieces ps b') : SpellsPieces (p :: ps) (b ++ b')

/-! ## Reading -/

instance (n : Nat) (b : UInt8) : Decidable (IsHexDigit n b) :=
  inferInstanceAs (Decidable (_ ∧ (_ ∨ _)))

theorem isHexDigit_of_hexDigit? {n : Nat} {b : UInt8} (h : hexDigit? b = some n) :
    IsHexDigit n b := by
  have hall : ∀ b, ∀ n ∈ hexDigit? b, IsHexDigit n b := Bytes.forall_byte (by decide +kernel)
  exact hall b n h

theorem escaped_of_escaped? {b c : UInt8} (h : escaped? b = some c) :
    ∃ e ∈ shortEscapes, ascii e.2 = b ∧ ascii e.1 = c := by
  have hall : ∀ b, ∀ c ∈ escaped? b, ∃ e ∈ shortEscapes, ascii e.2 = b ∧ ascii e.1 = c :=
    Bytes.forall_byte (by decide +kernel)
  exact hall b c h

theorem spellsUnit_of_codeUnit? {n : Nat} {a b c d : UInt8} (h : codeUnit? a b c d = some n) :
    SpellsUnit n [a, b, c, d] := by
  simp only [codeUnit?, Option.bind_eq_bind, Option.pure_def, Option.bind_eq_some_iff,
    Option.some.injEq] at h
  obtain ⟨n₁, h₁, n₂, h₂, n₃, h₃, n₄, h₄, rfl⟩ := h
  have h₁ := isHexDigit_of_hexDigit? h₁
  have h₂ := isHexDigit_of_hexDigit? h₂
  have h₃ := isHexDigit_of_hexDigit? h₃
  have h₄ := isHexDigit_of_hexDigit? h₄
  have hlt₁ := h₁.1
  have hlt₂ := h₂.1
  have hlt₃ := h₃.1
  have hlt₄ := h₄.1
  refine ⟨?_, ?_, ?_, ?_⟩
  · rwa [show (4096 * n₁ + 256 * n₂ + 16 * n₃ + n₄) / 0x1000 = n₁ by omega]
  · rwa [show (4096 * n₁ + 256 * n₂ + 16 * n₃ + n₄) / 0x100 % 16 = n₂ by omega]
  · rwa [show (4096 * n₁ + 256 * n₂ + 16 * n₃ + n₄) / 0x10 % 16 = n₃ by omega]
  · rwa [show (4096 * n₁ + 256 * n₂ + 16 * n₃ + n₄) % 16 = n₄ by omega]

theorem SpellsPiece.pieces {p : Piece} {b : Bytes} (h : SpellsPiece p b) (rest : Bytes) :
    pieces (b ++ rest) = (pieces rest).map fun r => (p :: r.1, r.2) := by
  cases h with
  | @plain b hb => exact pieces_plain (List.forall_mem_singleton.2 hb) rest
  | short h => exact pieces_short h rest
  | unit h => exact h.pieces rest

/-- Pieces are read up to the closing quote. -/
theorem SpellsPieces.pieces {ps : List Piece} {content : Bytes} (h : SpellsPieces ps content)
    (rest : Bytes) : pieces (content ++ ascii '"' :: rest) = some (ps, rest) := by
  induction h with
  | nil =>
    rw [List.nil_append, Json.pieces.eq_def]
    simp
  | cons hp _ ih =>
    rw [List.append_assoc, hp.pieces, ih]
    rfl

/-- What is read up to a closing quote is made of pieces. -/
theorem pieces_spelled {input rest : Bytes} {ps : List Piece} (h : pieces input = some (ps, rest)) :
    ∃ content, SpellsPieces ps content ∧ input = content ++ ascii '"' :: rest := by
  fun_induction pieces input generalizing ps with
  | case1 | case3 | case5 | case7 => cases h
  | case2 rest' =>
    cases h
    exact ⟨[], .nil, rfl⟩
  | case4 b₁ b₂ b₃ b₄ rest' _ ih =>
    obtain ⟨n, hunit, h⟩ := Option.bind_eq_some_iff.1 h
    obtain ⟨⟨ps', rest''⟩, hpieces, h⟩ := Option.bind_eq_some_iff.1 h
    cases h
    obtain ⟨content, hcontent, rfl⟩ := ih hpieces
    exact ⟨_, .cons (.unit (spellsUnit_of_codeUnit? hunit)) hcontent, rfl⟩
  | case6 e rest' _ _ ih =>
    obtain ⟨c, hescaped, h⟩ := Option.bind_eq_some_iff.1 h
    obtain ⟨⟨ps', rest''⟩, hpieces, h⟩ := Option.bind_eq_some_iff.1 h
    cases h
    obtain ⟨content, hcontent, rfl⟩ := ih hpieces
    obtain ⟨escape, hmem, rfl, rfl⟩ := escaped_of_escaped? hescaped
    exact ⟨_, .cons (.short hmem) hcontent, rfl⟩
  | case8 b rest' hquote hbackslash hcontrol ih =>
    obtain ⟨⟨ps', rest''⟩, hpieces, h⟩ := Option.bind_eq_some_iff.1 h
    cases h
    obtain ⟨content, hcontent, rfl⟩ := ih hpieces
    exact ⟨_, .cons (.plain ⟨hquote, hbackslash, UInt8.not_lt.1 hcontrol⟩) hcontent, rfl⟩

/-! ## Characters -/

/-- The bytes of a character are one that begins a character, and others that do not. -/
theorem utf8EncodeChar_eq_cons (c : Char) : ∃ first tail, String.utf8EncodeChar c = first :: tail ∧
    first.IsUTF8FirstByte ∧ ∀ b ∈ tail, ¬ b.IsUTF8FirstByte := by
  have hlen : 0 < (String.utf8EncodeChar c).length := by
    rw [String.length_utf8EncodeChar]
    exact c.utf8Size_pos
  have hbyte (i : Nat) (hi : i < (String.utf8EncodeChar c).length) :
      (String.utf8EncodeChar c)[i].IsUTF8FirstByte ↔ i = 0 :=
    UInt8.isUTF8FirstByte_getElem_utf8EncodeChar
  generalize String.utf8EncodeChar c = bytes at hlen hbyte
  cases bytes with
  | nil => exact absurd hlen (Nat.lt_irrefl 0)
  | cons first tail =>
    refine ⟨first, tail, rfl, (hbyte 0 hlen).2 rfl, fun b hb => ?_⟩
    obtain ⟨i, hi, rfl⟩ := List.mem_iff_getElem.1 hb
    have hnext := hbyte (i + 1) (Nat.succ_lt_succ hi)
    exact fun hfirst => absurd (hnext.1 hfirst) (Nat.succ_ne_zero i)

theorem utf8EncodeChar_append_inj {c c' : Char} {r r' : Bytes}
    (h : String.utf8EncodeChar c ++ r = String.utf8EncodeChar c' ++ r') : c = c' ∧ r = r' := by
  have hdecode (c : Char) (r : Bytes) :
      (String.utf8EncodeChar c ++ r).toByteArray.utf8DecodeChar? 0 = some c := by
    rw [List.toByteArray_append]
    exact ByteArray.utf8DecodeChar?_utf8EncodeChar_append
  have hc := hdecode c r
  rw [h, hdecode] at hc
  cases hc
  exact ⟨rfl, List.append_cancel_left h⟩

theorem isUTF8FirstByte_of_mem_shortEscapes {e : Char × Char} (h : e ∈ shortEscapes) :
    (ascii e.1).IsUTF8FirstByte ∧ String.utf8EncodeChar e.1 = [ascii e.1] := by
  have hall : ∀ e ∈ shortEscapes, (ascii e.1).IsUTF8FirstByte ∧
      String.utf8EncodeChar e.1 = [ascii e.1] := by decide
  exact hall e h

theorem contentBytes?_byte {b : UInt8} {ps : List Piece} {bs : Bytes}
    (h : contentBytes? (.byte b :: ps) = some bs) :
    ∃ bs', contentBytes? ps = some bs' ∧ bs = b :: bs' := by
  obtain ⟨bs', hps, h⟩ := Option.bind_eq_some_iff.1 h
  cases h
  exact ⟨bs', hps, rfl⟩

theorem toNat_ofNat {n : Nat} (h : n < 0xd800 ∨ 0xdfff < n ∧ n < 0x110000) :
    (Char.ofNat n).toNat = n := by
  rw [Char.ofNat, dif_pos h]
  rfl

theorem SpellsUnit.lt {n : Nat} {b : Bytes} (h : SpellsUnit n b) : n < 0x10000 := by
  cases h with
  | mk h₁ _ _ _ =>
    have := h₁.1
    omega

/-- A pair of surrogates is the one of the character that it stands for. -/
theorem ofSurrogates_eq {n m : Nat} (hhigh : isHighSurrogate n = true)
    (hlow : isLowSurrogate m = true) :
    0x10000 ≤ ofSurrogates n m ∧ ofSurrogates n m < 0x110000 ∧
      0xd800 + (ofSurrogates n m - 0x10000) / 0x400 = n ∧
      0xdc00 + (ofSurrogates n m - 0x10000) % 0x400 = m := by
  simp only [isHighSurrogate, isLowSurrogate, Bool.and_eq_true, decide_eq_true_eq] at hhigh hlow
  unfold ofSurrogates
  omega

theorem spellsChar_pair {n m : Nat} {u u' : Bytes} (hu : SpellsUnit n u) (hu' : SpellsUnit m u')
    (hhigh : isHighSurrogate n = true) (hlow : isLowSurrogate m = true) :
    SpellsChar (.ofNat (ofSurrogates n m))
      (ascii '\\' :: ascii 'u' :: (u ++ ascii '\\' :: ascii 'u' :: u')) := by
  obtain ⟨hle, hlt, hn, hm⟩ := ofSurrogates_eq hhigh hlow
  have hc : (Char.ofNat (ofSurrogates n m)).toNat = ofSurrogates n m :=
    toNat_ofNat (.inr ⟨by omega, hlt⟩)
  refine .pair ?_ ?_ ?_ <;> rw [hc]
  · exact hle
  · rwa [hn]
  · rwa [hm]

theorem spellsChar_unit {n : Nat} {u : Bytes} (hu : SpellsUnit n u)
    (hhigh : ¬ isHighSurrogate n = true) (hlow : ¬ isLowSurrogate n = true) :
    SpellsChar (.ofNat n) (ascii '\\' :: ascii 'u' :: u) := by
  have hlt := hu.lt
  simp only [isHighSurrogate, isLowSurrogate, Bool.and_eq_true, decide_eq_true_eq, not_and]
    at hhigh hlow
  refine .unit ?_
  rwa [toNat_ofNat (by omega)]

/-- The bytes of a string are those of a character, and others that decode to `bs`. -/
def Uncons (content : Bytes) (c : Char) (bs : Bytes) : Prop :=
  ∃ b ps content', content = b ++ content' ∧ SpellsChar c b ∧ SpellsPieces ps content' ∧
    contentBytes? ps = some bs

theorem uncons_unit {n : Nat} {u content : Bytes} {ps : List Piece} {bs : Bytes}
    (hu : SpellsUnit n u) (hps : SpellsPieces ps content)
    (h : contentBytes? (.unit n :: ps) = some bs) :
    ∃ c bs', bs = String.utf8EncodeChar c ++ bs' ∧
      Uncons (ascii '\\' :: ascii 'u' :: (u ++ content)) c bs' := by
  rw [contentBytes?.eq_def] at h
  simp only at h
  split at h
  · next hhigh =>
    cases hps with
    | nil => cases h
    | cons hp hps =>
      cases hp with
      | plain _ | short _ => cases h
      | unit hu' =>
        simp only at h
        split at h
        · next hlow =>
          obtain ⟨bs', hbs, h⟩ := Option.bind_eq_some_iff.1 h
          rw [Option.pure_def, Option.some_inj] at h
          exact ⟨_, bs', h.symm, _, _, _, by simp, spellsChar_pair hu hu' hhigh hlow, hps, hbs⟩
        · cases h
  · next hhigh =>
    split at h
    · cases h
    · next hlow =>
      obtain ⟨bs', hbs, h⟩ := Option.bind_eq_some_iff.1 h
      rw [Option.pure_def, Option.some_inj] at h
      exact ⟨_, bs', h.symm, _, _, _, rfl, spellsChar_unit hu hhigh hlow, hps, hbs⟩

/-- Bytes that begin no character stand for themselves. -/
theorem SpellsPieces.tail {ps : List Piece} {content tail bs : Bytes} (h : SpellsPieces ps content)
    (htail : ∀ b ∈ tail, ¬ b.IsUTF8FirstByte) (hbytes : contentBytes? ps = some (tail ++ bs)) :
    ∃ ps' content', content = tail ++ content' ∧ SpellsPieces ps' content' ∧
      contentBytes? ps' = some bs := by
  induction tail generalizing ps content with
  | nil => exact ⟨ps, content, rfl, h, hbytes⟩
  | cons b tail ih =>
    obtain ⟨hb, htail⟩ := List.forall_mem_cons.1 htail
    cases h with
    | nil => cases hbytes
    | cons hp hps =>
      cases hp with
      | plain _ =>
        obtain ⟨bs', hps', heq⟩ := contentBytes?_byte hbytes
        obtain ⟨rfl, rfl⟩ := List.cons.inj heq
        obtain ⟨ps', content', rfl, hrest, hbs⟩ := ih hps htail hps'
        exact ⟨ps', content', rfl, hrest, hbs⟩
      | short hmem =>
        obtain ⟨bs', -, heq⟩ := contentBytes?_byte hbytes
        obtain ⟨rfl, -⟩ := List.cons.inj heq
        exact absurd (isUTF8FirstByte_of_mem_shortEscapes hmem).1 hb
      | unit hu =>
        obtain ⟨c, bs', heq, -⟩ := uncons_unit hu hps hbytes
        obtain ⟨first, rest, hc, hfirst, -⟩ := utf8EncodeChar_eq_cons c
        rw [hc] at heq
        obtain ⟨rfl, -⟩ := List.cons.inj heq
        exact absurd hfirst hb

theorem spellsChar_plain {c : Char} {b : UInt8} {tail : Bytes} (hb : IsPlain b)
    (hc : String.utf8EncodeChar c = b :: tail) : SpellsChar c (b :: tail) := by
  obtain ⟨hquote, hbackslash, hcontrol⟩ := hb
  rw [← hc]
  refine .plain ?_ ?_ ?_
  · rintro rfl
    exact hquote (List.cons.inj hc).1.symm
  · rintro rfl
    exact hbackslash (List.cons.inj hc).1.symm
  · refine Nat.not_lt.1 fun hlow => ?_
    have hascii : c.val.toNat ≤ 0x7f := Nat.le_trans (Nat.le_of_lt hlow) (by decide)
    have hbyte : String.utf8EncodeChar c = [UInt8.ofNat c.toNat] := by
      rw [String.utf8EncodeChar.eq_1, if_pos hascii]
      rfl
    rw [hbyte] at hc
    obtain rfl := (List.cons.inj hc).1
    rw [UInt8.le_iff_toNat_le, UInt8.toNat_ofNat'] at hcontrol
    have : (0x20 : UInt8).toNat = 0x20 := rfl
    omega

/-- The first character of a text is spelled by what the bytes of a string begin with. -/
theorem SpellsPieces.uncons {ps : List Piece} {content bs : Bytes} {c : Char}
    (h : SpellsPieces ps content)
    (hbytes : contentBytes? ps = some (String.utf8EncodeChar c ++ bs)) : Uncons content c bs := by
  obtain ⟨first, tail, hc, -, htail⟩ := utf8EncodeChar_eq_cons c
  cases h with
  | nil =>
    rw [hc] at hbytes
    cases hbytes
  | cons hp hps =>
    cases hp with
    | plain hb =>
      obtain ⟨bs', hps', heq⟩ := contentBytes?_byte hbytes
      rw [hc] at heq
      obtain ⟨rfl, rfl⟩ := List.cons.inj heq
      obtain ⟨ps', content', rfl, hrest, hbs⟩ := hps.tail htail hps'
      exact ⟨_, ps', content', rfl, spellsChar_plain hb hc, hrest, hbs⟩
    | short hmem =>
      obtain ⟨bs', hps', heq⟩ := contentBytes?_byte hbytes
      have hescaped := (isUTF8FirstByte_of_mem_shortEscapes hmem).2
      rw [← List.singleton_append, ← hescaped] at heq
      obtain ⟨rfl, rfl⟩ := utf8EncodeChar_append_inj heq
      exact ⟨_, _, _, rfl, .short hmem, hps, hps'⟩
    | unit hu =>
      obtain ⟨c', bs', heq, huncons⟩ := uncons_unit hu hps hbytes
      obtain ⟨rfl, rfl⟩ := utf8EncodeChar_append_inj heq
      exact huncons

theorem SpellsPieces.chars {cs : List Char} {ps : List Piece} {content : Bytes}
    (h : SpellsPieces ps content)
    (hbytes : contentBytes? ps = some (cs.flatMap String.utf8EncodeChar)) :
    SpellsChars cs content := by
  induction cs generalizing ps content with
  | nil =>
    cases h with
    | nil => exact .nil
    | cons hp hps =>
      cases hp with
      | plain _ | short _ =>
        obtain ⟨bs', -, heq⟩ := contentBytes?_byte hbytes
        cases heq
      | unit hu =>
        obtain ⟨c, bs', heq, -⟩ := uncons_unit hu hps hbytes
        obtain ⟨first, tail, hc, -⟩ := utf8EncodeChar_eq_cons c
        rw [hc] at heq
        cases heq
  | cons c cs ih =>
    rw [List.flatMap_cons] at hbytes
    obtain ⟨b, ps', content', rfl, hc, hps', hbs⟩ := h.uncons hbytes
    exact .cons hc (ih hps' hbs)

/-- A string that is the text `s` is a quotation of it. -/
theorem SpellsPieces.quotes {ps : List Piece} {content : Bytes} {s : String}
    (h : SpellsPieces ps content) (htext : contentText? ps = some s) :
    Quotes s (ascii '"' :: (content ++ [ascii '"'])) := by
  obtain ⟨bs, hbytes, hs⟩ := Option.bind_eq_some_iff.1 htext
  refine ⟨content, h.chars ?_, rfl⟩
  rw [hbytes, ← Bytes.utf8_of_text? hs, utf8_eq_flatMap]

end Enrolment.Json
