import Enrolment.Json.Reader
import Enrolment.Json.Writer

/-!
# Enrolment.Proofs.Quotations

Strings of JSON, as the grammar has them: every character stands for itself in UTF-8, or is escaped
by a letter, by one code unit of UTF-16 or by a pair of them. The quote, the backslash and the
characters below the space must be escaped, and any other may be.

* `Quotes.reads`: a string is read to its closing quote, and decodes to its text.
* `quotes_string`: what is written is such a string.
-/

namespace Enrolment.Json

/-! ## Spelling -/

/-- The letters that escape a character. -/
def shortEscapes : List (Char × Char) :=
  [('"', '"'), ('\\', '\\'), ('/', '/'), ('\x08', 'b'), ('\x0c', 'f'), ('\n', 'n'), ('\r', 'r'),
    ('\t', 't')]

/-- The bytes of a hexadecimal digit, in small or in capital letters. -/
def IsHexDigit (n : Nat) (b : UInt8) : Prop :=
  n < 16 ∧ (b = ascii (Nat.digitChar n) ∨ b = ascii (Nat.digitChar n).toUpper)

/-- The four hexadecimal digits of a code unit. -/
inductive SpellsUnit (n : Nat) : Bytes → Prop
  | mk {b₁ b₂ b₃ b₄ : UInt8} (h₁ : IsHexDigit (n / 0x1000) b₁)
      (h₂ : IsHexDigit (n / 0x100 % 16) b₂) (h₃ : IsHexDigit (n / 0x10 % 16) b₃)
      (h₄ : IsHexDigit (n % 16) b₄) : SpellsUnit n [b₁, b₂, b₃, b₄]

/-- The bytes that a character may stand as inside a string. -/
inductive SpellsChar (c : Char) : Bytes → Prop
  | plain (hquote : c ≠ '"') (hbackslash : c ≠ '\\') (hcontrol : 0x20 ≤ c.toNat) :
      SpellsChar c (String.utf8EncodeChar c)
  | short {letter : Char} (h : (c, letter) ∈ shortEscapes) :
      SpellsChar c [ascii '\\', ascii letter]
  | unit {b : Bytes} (h : SpellsUnit c.toNat b) : SpellsChar c (ascii '\\' :: ascii 'u' :: b)
  /-- A character beyond the first 2^16, as a high and a low surrogate. -/
  | pair {b b' : Bytes} (hc : 0x10000 ≤ c.toNat)
      (hhigh : SpellsUnit (0xd800 + (c.toNat - 0x10000) / 0x400) b)
      (hlow : SpellsUnit (0xdc00 + (c.toNat - 0x10000) % 0x400) b') :
      SpellsChar c (ascii '\\' :: ascii 'u' :: (b ++ ascii '\\' :: ascii 'u' :: b'))

inductive SpellsChars : List Char → Bytes → Prop
  | nil : SpellsChars [] []
  | cons {c : Char} {cs : List Char} {b b' : Bytes} (head : SpellsChar c b)
      (rest : SpellsChars cs b') : SpellsChars (c :: cs) (b ++ b')

/-- The bytes are a string that says the text. -/
def Quotes (s : String) (b : Bytes) : Prop :=
  ∃ content, SpellsChars s.toList content ∧ b = ascii '"' :: (content ++ [ascii '"'])

/-! ## Reading -/

theorem hexDigit?_of_isHexDigit {n : Nat} {b : UInt8} (h : IsHexDigit n b) :
    hexDigit? b = some n := by
  have hall : ∀ n < 16, hexDigit? (ascii (Nat.digitChar n)) = some n ∧
      hexDigit? (ascii (Nat.digitChar n).toUpper) = some n := by decide
  obtain ⟨hn, rfl | rfl⟩ := h
  · exact (hall n hn).1
  · exact (hall n hn).2

theorem SpellsUnit.pieces {n : Nat} {b : Bytes} (h : SpellsUnit n b) (rest : Bytes) :
    pieces (ascii '\\' :: ascii 'u' :: (b ++ rest)) =
      (pieces rest).map fun r => (.unit n :: r.1, r.2) := by
  cases h with
  | @mk b₁ b₂ b₃ b₄ h₁ h₂ h₃ h₄ =>
    have hunit : codeUnit? b₁ b₂ b₃ b₄ = some n := by
      simp only [codeUnit?, hexDigit?_of_isHexDigit h₁, hexDigit?_of_isHexDigit h₂,
        hexDigit?_of_isHexDigit h₃, hexDigit?_of_isHexDigit h₄, Option.pure_def,
        Option.bind_eq_bind, Option.bind_some, Option.some.injEq]
      omega
    have hquote : ascii '\\' ≠ ascii '"' := by decide
    rw [Json.pieces.eq_def]
    simp only [List.cons_append, List.nil_append, if_neg hquote, if_pos, hunit]
    cases Json.pieces rest <;> rfl

/-- A byte that stands for itself in a string. -/
def IsPlain (b : UInt8) : Prop := b ≠ ascii '"' ∧ b ≠ ascii '\\' ∧ 0x20 ≤ b

/-- Beyond the first 128 characters, every byte of a character is 0x80 at least. -/
theorem le_of_mem_utf8EncodeChar {c : Char} (hc : ¬ c.val.toNat ≤ 0x7f) :
    ∀ b ∈ String.utf8EncodeChar c, 0x80 ≤ b.toNat := by
  have hbyte (n : Nat) (h : 0x80 ≤ n % 0x100) : 0x80 ≤ (UInt8.ofNat n).toNat := by
    rwa [UInt8.toNat_ofNat']
  rw [String.utf8EncodeChar.eq_1, if_neg hc]
  intro b hb
  repeat' split at hb
  all_goals
    simp only [List.mem_cons, List.not_mem_nil, or_false] at hb
    obtain rfl | rfl | rfl | rfl := hb <;> exact hbyte _ (by omega)

theorem isPlain_of_mem {c : Char} (hquote : c ≠ '"') (hbackslash : c ≠ '\\')
    (hcontrol : 0x20 ≤ c.toNat) : ∀ b ∈ String.utf8EncodeChar c, IsPlain b := by
  by_cases hc : c.val.toNat ≤ 0x7f
  · have hbyte : (UInt8.ofNat c.val.toNat).toNat = c.toNat := by
      rw [UInt8.toNat_ofNat']
      exact Nat.mod_eq_of_lt (by omega)
    rw [String.utf8EncodeChar.eq_1, if_pos hc, List.forall_mem_singleton]
    refine ⟨fun h => hquote ?_, fun h => hbackslash ?_, ?_⟩
    · exact Char.toNat_inj.1 (hbyte.symm.trans (congrArg UInt8.toNat h))
    · exact Char.toNat_inj.1 (hbyte.symm.trans (congrArg UInt8.toNat h))
    · rw [UInt8.le_iff_toNat_le, hbyte]
      exact hcontrol
  · intro b hb
    have hb := le_of_mem_utf8EncodeChar hc b hb
    refine ⟨?_, ?_, UInt8.le_iff_toNat_le.2 (Nat.le_trans (by decide) hb)⟩
    all_goals
      rintro rfl
      exact absurd hb (by decide)

theorem pieces_plain {bs : Bytes} (h : ∀ b ∈ bs, IsPlain b) (rest : Bytes) :
    pieces (bs ++ rest) = (pieces rest).map fun r => (bs.map .byte ++ r.1, r.2) := by
  induction bs with
  | nil => simp
  | cons b bs ih =>
    obtain ⟨⟨hquote, hbackslash, hcontrol⟩, hbs⟩ := List.forall_mem_cons.1 h
    have hcontrol : ¬ b < 0x20 := UInt8.not_lt.2 hcontrol
    rw [List.cons_append, pieces.eq_def]
    simp only [if_neg hquote, if_neg hbackslash, if_neg hcontrol, ih hbs]
    cases pieces rest <;> rfl

theorem pieces_short {c letter : Char} (h : (c, letter) ∈ shortEscapes) (rest : Bytes) :
    pieces (ascii '\\' :: ascii letter :: rest) =
      (pieces rest).map fun r => (.byte (ascii c) :: r.1, r.2) := by
  have hall : ∀ e ∈ shortEscapes,
      ascii e.2 ≠ ascii 'u' ∧ escaped? (ascii e.2) = some (ascii e.1) := by decide
  obtain ⟨hu, hescaped⟩ := hall _ h
  have hquote : ascii '\\' ≠ ascii '"' := by decide
  rw [pieces.eq_def]
  simp only [if_neg hquote, if_pos, if_neg hu, hescaped]
  cases pieces rest <;> rfl

/-- What a part of a string is read as: some pieces, which decode to some bytes. -/
structure ReadsAs (part : Bytes) (content : Bytes) (ps : List Piece) : Prop where
  pieces : ∀ rest, pieces (part ++ rest) = (pieces rest).map fun r => (ps ++ r.1, r.2)
  content : ∀ qs, contentBytes? (ps ++ qs) = (contentBytes? qs).map (content ++ ·)

theorem contentBytes?_bytes (bs : Bytes) (qs : List Piece) :
    contentBytes? (bs.map .byte ++ qs) = (contentBytes? qs).map (bs ++ ·) := by
  induction bs with
  | nil => simp
  | cons b bs ih =>
    rw [List.map_cons, List.cons_append, contentBytes?.eq_def]
    simp only [ih]
    cases contentBytes? qs <;> rfl

theorem not_surrogate (c : Char) :
    isHighSurrogate c.toNat = false ∧ isLowSurrogate c.toNat = false := by
  have hvalid : c.toNat < 0xd800 ∨ 0xdfff < c.toNat ∧ c.toNat < 0x110000 := c.valid
  simp only [isHighSurrogate, isLowSurrogate, Bool.and_eq_false_iff, decide_eq_false_iff_not]
  omega

theorem char_toNat_lt (c : Char) : c.toNat < 0x110000 := by
  have hvalid : c.toNat < 0xd800 ∨ 0xdfff < c.toNat ∧ c.toNat < 0x110000 := c.valid
  omega

theorem surrogates_of_le {n : Nat} (hlow : 0x10000 ≤ n) (hhigh : n < 0x110000) :
    isHighSurrogate (0xd800 + (n - 0x10000) / 0x400) = true ∧
      isLowSurrogate (0xdc00 + (n - 0x10000) % 0x400) = true ∧
      ofSurrogates (0xd800 + (n - 0x10000) / 0x400) (0xdc00 + (n - 0x10000) % 0x400) = n := by
  refine ⟨?_, ?_, ?_⟩
  · rw [isHighSurrogate, Bool.and_eq_true, decide_eq_true_eq, decide_eq_true_eq]
    omega
  · rw [isLowSurrogate, Bool.and_eq_true, decide_eq_true_eq, decide_eq_true_eq]
    omega
  · unfold ofSurrogates
    omega

theorem SpellsChar.reads {c : Char} {b : Bytes} (h : SpellsChar c b) :
    ∃ ps, ReadsAs b (String.utf8EncodeChar c) ps := by
  cases h with
  | plain hquote hbackslash hcontrol =>
    have hplain := isPlain_of_mem hquote hbackslash hcontrol
    exact ⟨_, pieces_plain hplain, contentBytes?_bytes _⟩
  | @short letter h =>
    have hall : ∀ e ∈ shortEscapes, String.utf8EncodeChar e.1 = [ascii e.1] := by decide
    refine ⟨[.byte (ascii c)], pieces_short h, fun qs => ?_⟩
    rw [hall _ h]
    exact contentBytes?_bytes [ascii c] qs
  | unit h =>
    refine ⟨[.unit c.toNat], h.pieces, fun qs => ?_⟩
    obtain ⟨hhigh, hlow⟩ := not_surrogate c
    rw [List.cons_append, contentBytes?.eq_def]
    simp only [hhigh, hlow, Bool.false_eq_true, if_false, Char.ofNat_toNat, List.nil_append]
    cases contentBytes? qs <;> rfl
  | @pair b b' hc hhigh hlow =>
    refine ⟨[.unit (0xd800 + (c.toNat - 0x10000) / 0x400),
      .unit (0xdc00 + (c.toNat - 0x10000) % 0x400)], fun rest => ?_, fun qs => ?_⟩
    · have hrest := hhigh.pieces (ascii '\\' :: ascii 'u' :: (b' ++ rest))
      rw [hlow.pieces rest] at hrest
      simp only [List.cons_append, List.append_assoc, hrest]
      cases Json.pieces rest <;> rfl
    · obtain ⟨hhigh, hlow, hvalue⟩ := surrogates_of_le hc (char_toNat_lt c)
      rw [List.cons_append, List.cons_append, contentBytes?.eq_def]
      simp only [hhigh, hlow, if_true, hvalue, Char.ofNat_toNat, List.nil_append]
      cases contentBytes? qs <;> rfl

theorem SpellsChars.reads {cs : List Char} {b : Bytes} (h : SpellsChars cs b) :
    ∃ ps, ReadsAs b (cs.flatMap String.utf8EncodeChar) ps := by
  induction h with
  | nil => exact ⟨[], fun rest => by simp, fun qs => by simp⟩
  | @cons c cs b b' head _ ih =>
    obtain ⟨ps, hpieces, hcontent⟩ := head.reads
    obtain ⟨ps', hpieces', hcontent'⟩ := ih
    refine ⟨ps ++ ps', fun rest => ?_, fun qs => ?_⟩
    · rw [List.append_assoc, hpieces, hpieces', Option.map_map]
      simp [Function.comp_def]
    · rw [List.append_assoc, hcontent, hcontent', Option.map_map]
      simp [Function.comp_def]

/-- A string is read to its closing quote, and is the text that it says. -/
theorem Quotes.reads {s : String} {b : Bytes} (h : Quotes s b) (rest : Bytes) :
    ∃ content ps, b ++ rest = ascii '"' :: content ∧ pieces content = some (ps, rest) ∧
      contentText? ps = some s := by
  obtain ⟨content, hcontent, rfl⟩ := h
  obtain ⟨ps, hpieces, hbytes⟩ := hcontent.reads
  refine ⟨content ++ ascii '"' :: rest, ps, by simp, ?_, ?_⟩
  · have hend : pieces (ascii '"' :: rest) = some ([], rest) := by
      rw [pieces.eq_def]
      simp
    rw [hpieces, hend]
    simp
  · have hall := hbytes []
    rw [List.append_nil] at hall
    rw [contentText?, hall]
    simp [contentBytes?, ← utf8_eq_flatMap]

/-! ## Writing -/

theorem spellsUnit_control {n : Nat} (h : n < 0x20) :
    SpellsUnit n (['0', '0', Nat.digitChar (n / 16), Nat.digitChar (n % 16)].flatMap
      String.utf8EncodeChar) := by
  have hbytes : ∀ d < 16, String.utf8EncodeChar (Nat.digitChar d) = [ascii (Nat.digitChar d)] := by
    decide
  simp only [List.flatMap_cons, List.flatMap_nil, hbytes (n / 16) (by omega),
    hbytes (n % 16) (by omega)]
  refine ⟨⟨by omega, .inl ?_⟩, ⟨by omega, .inl ?_⟩, ⟨by omega, .inl ?_⟩, ⟨by omega, .inl rfl⟩⟩
  · rw [Nat.div_eq_of_lt (by omega)]
    decide
  · rw [Nat.div_eq_of_lt (by omega)]
    decide
  · rw [Nat.mod_eq_of_lt (by omega)]

theorem spellsChar_escape (c : Char) : SpellsChar c ((escape c).flatMap String.utf8EncodeChar) := by
  have hshort : ∀ e ∈ shortEscapes, ['\\', e.2].flatMap String.utf8EncodeChar =
      [ascii '\\', ascii e.2] := by decide
  have short {letter : Char} (h : (c, letter) ∈ shortEscapes) :
      SpellsChar c (['\\', letter].flatMap String.utf8EncodeChar) := by
    rw [hshort _ h]
    exact .short h
  by_cases hquote : c = '"'
  · subst hquote
    exact short (by decide)
  by_cases hbackslash : c = '\\'
  · subst hbackslash
    exact short (by decide)
  simp only [escape, hquote, hbackslash, decide_false, Bool.or_false, Bool.false_eq_true, if_false]
  split
  · next h => subst h; exact short (by decide)
  split
  · next h => subst h; exact short (by decide)
  split
  · next h => subst h; exact short (by decide)
  split
  · next h => subst h; exact short (by decide)
  split
  · next h => subst h; exact short (by decide)
  split
  · next hcontrol => exact .unit (spellsUnit_control hcontrol)
  · next hcontrol =>
    rw [List.flatMap_cons, List.flatMap_nil, List.append_nil]
    exact .plain hquote hbackslash (Nat.not_lt.1 hcontrol)

theorem spellsChars_escape (cs : List Char) :
    SpellsChars cs ((cs.flatMap escape).flatMap String.utf8EncodeChar) := by
  induction cs with
  | nil => exact .nil
  | cons c cs ih =>
    rw [List.flatMap_cons, List.flatMap_append]
    exact .cons (spellsChar_escape c) ih

theorem quotes_string (s : String) : Quotes s (utf8 (string s)) := by
  refine ⟨_, spellsChars_escape s.toList, ?_⟩
  rw [string, utf8_ofList]
  simp [show String.utf8EncodeChar '"' = [ascii '"'] by decide]

end Enrolment.Json
