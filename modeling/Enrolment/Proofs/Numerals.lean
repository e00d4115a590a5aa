import Enrolment.Json.Reader
import Mathlib.Data.Nat.Digits.Lemmas

/-!
# Enrolment.Proofs.Numerals

Numerals in JSON: decimal digits without a leading zero, with a minus sign, a fraction and an
exponent or without. A numeral ends at a blank, a comma or the end of a container.

* `SpellsNumeral.reads`, `numeral_spelled`: such a numeral is read to its end, and nothing else is.
* `Numeral.document_decimal`: an integer is worth its value, if that has 64 bits. A greater one is a
  finite number.
-/

namespace Enrolment.Json

/-! ## Spelling -/

/-- One digit at least. -/
inductive SpellsDigits : List Nat → Bytes → Prop
  | mk {ds : List Nat} (hne : ds ≠ []) (hlt : ∀ d ∈ ds, d < 10) :
      SpellsDigits ds (ds.map fun d => ascii (Nat.digitChar d))

inductive SpellsFraction : Option (List Nat) → Bytes → Prop
  | absent : SpellsFraction none []
  | present {ds : List Nat} {b : Bytes} (h : SpellsDigits ds b) :
      SpellsFraction (some ds) (ascii '.' :: b)

/-- The sign of an exponent. -/
inductive SpellsSign : Bool → Bytes → Prop
  | absent : SpellsSign false []
  | plus : SpellsSign false [ascii '+']
  | minus : SpellsSign true [ascii '-']

inductive SpellsExponent : Option (Bool × List Nat) → Bytes → Prop
  | absent : SpellsExponent none []
  | present {letter : UInt8} {negative : Bool} {sign b : Bytes} {ds : List Nat}
      (hletter : letter = ascii 'e' ∨ letter = ascii 'E') (hsign : SpellsSign negative sign)
      (h : SpellsDigits ds b) : SpellsExponent (some (negative, ds)) (letter :: (sign ++ b))

/-- The minus sign of a numeral, if there is one. -/
def minusSign (negative : Bool) : Bytes := if negative then [ascii '-'] else []

/-- The bytes of a numeral. No zero stands before other digits. -/
inductive SpellsNumeral : Numeral → Bytes → Prop
  | mk {negative : Bool} {whole : List Nat} {fraction : Option (List Nat)}
      {exponent : Option (Bool × List Nat)} {b f e : Bytes} (hwhole : SpellsDigits whole b)
      (hzero : whole.head? = some 0 → whole = [0]) (hfraction : SpellsFraction fraction f)
      (hexponent : SpellsExponent exponent e) :
      SpellsNumeral ⟨negative, whole, fraction, exponent⟩
        (minusSign negative ++ (b ++ (f ++ e)))

/-! ## Reading -/

/-- What may stand behind a numeral. -/
def Delimited (rest : Bytes) : Prop :=
  ∀ b ∈ rest.head?, isBlank b ∨ b = ascii ',' ∨ b = ascii ']' ∨ b = ascii '\x7d'

theorem digit?_digitChar {d : Nat} (h : d < 10) : digit? (ascii (Nat.digitChar d)) = some d := by
  have hall : ∀ d < 10, digit? (ascii (Nat.digitChar d)) = some d := by decide
  exact hall d h

theorem Delimited.ne {rest : Bytes} (h : Delimited rest) {c : Char}
    (hc : isBlank (ascii c) = false ∧ ascii c ≠ ascii ',' ∧ ascii c ≠ ascii ']' ∧
      ascii c ≠ ascii '\x7d') : rest.head? ≠ some (ascii c) := by
  intro hhead
  simpa [hc] using h _ hhead

theorem digits_of_head {b : UInt8} (h : digit? b = none) (rest : Bytes) :
    digits (b :: rest) = ([], b :: rest) := by
  simp [digits, h]

/-- Behind the digits comes no other digit. -/
theorem Delimited.digits {rest : Bytes} (h : Delimited rest) : digits rest = ([], rest) := by
  cases rest with
  | nil => rfl
  | cons b rest =>
    refine digits_of_head ?_ rest
    obtain hb | rfl | rfl | rfl := h b rfl
    · simp only [isBlank, Bool.or_eq_true, beq_iff_eq] at hb
      obtain ((rfl | rfl) | rfl) | rfl := hb <;> decide
    all_goals decide

theorem digits_append {ds : List Nat} (hds : ∀ d ∈ ds, d < 10) (rest : Bytes) :
    digits (ds.map (fun d => ascii (Nat.digitChar d)) ++ rest) =
      (ds ++ (digits rest).1, (digits rest).2) := by
  induction ds with
  | nil => rfl
  | cons d ds ih =>
    obtain ⟨hd, hds⟩ := List.forall_mem_cons.1 hds
    have hdigit := digit?_digitChar hd
    have ih := ih hds
    simp only [digits, Prod.mk.injEq] at ih ⊢
    simp [hdigit, ih.1, ih.2]

section Parts

variable {ds : List Nat} {b rest : Bytes}

theorem SpellsDigits.digits (h : SpellsDigits ds b) (hrest : digits rest = ([], rest)) :
    digits (b ++ rest) = (ds, rest) := by
  obtain ⟨-, hlt⟩ := h
  rw [digits_append hlt, hrest, List.append_nil]

theorem SpellsDigits.someDigits (h : SpellsDigits ds b) (hrest : Json.digits rest = ([], rest)) :
    someDigits (b ++ rest) = some (ds, rest) := by
  rw [Json.someDigits, h.digits hrest]
  obtain ⟨hne, -⟩ := h
  cases ds with
  | nil => exact absurd rfl hne
  | cons d ds => rfl

theorem SpellsDigits.wholePart (h : SpellsDigits ds b) (hzero : ds.head? = some 0 → ds = [0])
    (hrest : Json.digits rest = ([], rest)) : wholePart (b ++ rest) = some (ds, rest) := by
  rw [Json.wholePart, h.digits hrest]
  obtain ⟨hne, -⟩ := h
  match ds with
  | [] => exact absurd rfl hne
  | 0 :: _ :: _ => cases hzero rfl
  | [0] | (_ + 1) :: _ => rfl

/-- What begins with a digit begins with no other byte. -/
theorem SpellsDigits.eq_cons (h : SpellsDigits ds b) :
    ∃ d more, d < 10 ∧ b = ascii (Nat.digitChar d) :: more := by
  obtain ⟨hne, hlt⟩ := h
  cases ds with
  | nil => exact absurd rfl hne
  | cons d ds => exact ⟨d, _, hlt d List.mem_cons_self, rfl⟩

theorem SpellsSign.reads {negative : Bool} {sign : Bytes} (hsign : SpellsSign negative sign)
    (h : SpellsDigits ds b) (rest : Bytes) :
    signPart (sign ++ (b ++ rest)) = (negative, b ++ rest) := by
  cases hsign with
  | absent =>
    obtain ⟨d, more, hd, rfl⟩ := h.eq_cons
    have hdigit : ∀ d < 10, ascii (Nat.digitChar d) ≠ ascii '-' ∧
        ascii (Nat.digitChar d) ≠ ascii '+' := by decide
    obtain ⟨hminus, hplus⟩ := hdigit d hd
    simp [signPart, hminus, hplus]
  | plus => rfl
  | minus => rfl

theorem SpellsExponent.reads {exponent : Option (Bool × List Nat)} (h : SpellsExponent exponent b)
    (hrest : Delimited rest) : exponentPart (b ++ rest) = some (exponent, rest) := by
  cases h with
  | absent =>
    cases rest with
    | nil => rfl
    | cons c rest =>
      have hsmall : c ≠ ascii 'e' := fun hc => hrest.ne (c := 'e') (by decide) (congrArg some hc)
      have hcapital : c ≠ ascii 'E' := fun hc => hrest.ne (c := 'E') (by decide) (congrArg some hc)
      simp [exponentPart, hsmall, hcapital]
  | @present letter negative sign b ds hletter hsign hdigits =>
    have hsigned : signPart (sign ++ (b ++ rest)) = (negative, b ++ rest) :=
      hsign.reads hdigits rest
    simp [exponentPart, hletter, hsigned, hdigits.someDigits hrest.digits]

/-- An exponent begins with its letter. -/
theorem SpellsExponent.stops {exponent : Option (Bool × List Nat)} (h : SpellsExponent exponent b)
    (hrest : Delimited rest) :
    digits (b ++ rest) = ([], b ++ rest) ∧ (b ++ rest).head? ≠ some (ascii '.') := by
  cases h with
  | absent => exact ⟨hrest.digits, hrest.ne (c := '.') (by decide)⟩
  | present hletter hsign _ =>
    obtain rfl | rfl := hletter <;>
      exact ⟨digits_of_head (by decide) _, fun h => absurd (Option.some.inj h) (by decide)⟩

theorem SpellsFraction.reads {fraction : Option (List Nat)} (h : SpellsFraction fraction b)
    (hrest : digits rest = ([], rest) ∧ rest.head? ≠ some (ascii '.')) :
    fractionPart (b ++ rest) = some (fraction, rest) := by
  cases h with
  | absent =>
    cases rest with
    | nil => rfl
    | cons c rest =>
      have hpoint : c ≠ ascii '.' := fun hc => hrest.2 (congrArg some hc)
      simp [fractionPart, hpoint]
  | present hdigits => simp [fractionPart, hdigits.someDigits hrest.1]

theorem SpellsFraction.stops {fraction : Option (List Nat)} (h : SpellsFraction fraction b)
    (hrest : digits rest = ([], rest)) : digits (b ++ rest) = ([], b ++ rest) := by
  cases h with
  | absent => exact hrest
  | present _ => exact digits_of_head (by decide) _

end Parts

/-- A byte that a numeral begins with. -/
def BeginsNumeral (b : UInt8) : Prop := b = ascii '-' ∨ ∃ d < 10, b = ascii (Nat.digitChar d)

theorem BeginsNumeral.of_all {P : UInt8 → Prop} (hminus : P (ascii '-'))
    (hdigits : ∀ d < 10, P (ascii (Nat.digitChar d))) {b : UInt8} (h : BeginsNumeral b) : P b := by
  obtain rfl | ⟨d, hd, rfl⟩ := h
  · exact hminus
  · exact hdigits d hd

theorem SpellsNumeral.begins {n : Numeral} {b : Bytes} (h : SpellsNumeral n b) :
    ∃ first more, b = first :: more ∧ BeginsNumeral first := by
  obtain @⟨negative, _, _, _, _, _, _, hwhole, _, _, _⟩ := h
  cases negative with
  | true => exact ⟨_, _, rfl, .inl rfl⟩
  | false =>
    obtain ⟨d, more, hd, rfl⟩ := hwhole.eq_cons
    exact ⟨_, _, rfl, .inr ⟨d, hd, rfl⟩⟩

/-- A numeral is read to its end. -/
theorem SpellsNumeral.reads {n : Numeral} {b rest : Bytes} (h : SpellsNumeral n b)
    (hrest : Delimited rest) : numeral (b ++ rest) = some (n, rest) := by
  obtain @⟨negative, whole, fraction, exponent, b, f, e, hwhole, hzero, hfraction, hexponent⟩ := h
  have he := hexponent.stops hrest
  have hexponent : exponentPart (e ++ rest) = some (exponent, rest) := hexponent.reads hrest
  have hf : fractionPart (f ++ (e ++ rest)) = some (fraction, e ++ rest) := hfraction.reads he
  have hw : wholePart (b ++ (f ++ (e ++ rest))) = some (whole, f ++ (e ++ rest)) :=
    hwhole.wholePart hzero (hfraction.stops he.1)
  simp only [List.append_assoc]
  cases negative with
  | true => simp [minusSign, numeral, hw, hf, hexponent]
  | false =>
    obtain ⟨d, more, hd, rfl⟩ := hwhole.eq_cons
    have hminus : ∀ d < 10, ascii (Nat.digitChar d) ≠ ascii '-' := by decide
    rw [List.cons_append] at hw
    simp [minusSign, numeral, hminus d hd, hw, hf, hexponent]

/-! ## What is read -/

theorem digitChar_of_digit? {b : UInt8} {d : Nat} (h : digit? b = some d) :
    d < 10 ∧ b = ascii (Nat.digitChar d) := by
  have hall : ∀ b, ∀ d ∈ digit? b, d < 10 ∧ b = ascii (Nat.digitChar d) :=
    Bytes.forall_byte (by decide +kernel)
  exact hall b d h

theorem digits_spelled (input : Bytes) :
    (∀ d ∈ (digits input).1, d < 10) ∧
      input = (digits input).1.map (fun d => ascii (Nat.digitChar d)) ++ (digits input).2 := by
  induction input with
  | nil => exact ⟨List.forall_mem_nil _, rfl⟩
  | cons b rest ih =>
    cases hb : digit? b with
    | none => simp [digits, hb]
    | some d =>
      obtain ⟨hd, rfl⟩ := digitChar_of_digit? hb
      have hdigits : digits (ascii (Nat.digitChar d) :: rest) =
          (d :: (digits rest).1, (digits rest).2) := by
        simp [digits, hb]
      rw [hdigits]
      exact ⟨List.forall_mem_cons.2 ⟨hd, ih.1⟩, congrArg (ascii (Nat.digitChar d) :: ·) ih.2⟩

theorem spellsDigits_of_digits {input rest : Bytes} {ds : List Nat} (hne : ds ≠ [])
    (h : digits input = (ds, rest)) : ∃ b, SpellsDigits ds b ∧ input = b ++ rest := by
  obtain ⟨hlt, hinput⟩ := digits_spelled input
  rw [h] at hlt hinput
  exact ⟨_, ⟨hne, hlt⟩, hinput⟩

theorem someDigits_spelled {input rest : Bytes} {ds : List Nat}
    (h : someDigits input = some (ds, rest)) : ∃ b, SpellsDigits ds b ∧ input = b ++ rest := by
  unfold someDigits at h
  split at h
  · cases h
  · next hne =>
    rw [Option.some_inj] at h
    refine spellsDigits_of_digits ?_ h
    rintro rfl
    exact hne _ h

theorem wholePart_spelled {input rest : Bytes} {ds : List Nat}
    (h : wholePart input = some (ds, rest)) :
    ∃ b, SpellsDigits ds b ∧ (ds.head? = some 0 → ds = [0]) ∧ input = b ++ rest := by
  unfold wholePart at h
  split at h
  · cases h
  · cases h
  · next hne hzero =>
    rw [Option.some_inj] at h
    obtain ⟨b, hb, rfl⟩ := spellsDigits_of_digits (by rintro rfl; exact hne _ h) h
    refine ⟨b, hb, fun hhead => ?_, rfl⟩
    obtain ⟨more, rfl⟩ := List.head?_eq_some_iff.1 hhead
    cases more with
    | nil => rfl
    | cons d more => exact absurd h (hzero d more rest)

theorem fractionPart_spelled {input rest : Bytes} {fraction : Option (List Nat)}
    (h : fractionPart input = some (fraction, rest)) :
    ∃ b, SpellsFraction fraction b ∧ input = b ++ rest := by
  unfold fractionPart at h
  split at h
  · cases h
    exact ⟨[], .absent, rfl⟩
  · split at h
    · next hpoint =>
      obtain ⟨⟨ds, rest'⟩, hdigits, h⟩ := Option.bind_eq_some_iff.1 h
      cases h
      obtain ⟨b, hb, rfl⟩ := someDigits_spelled hdigits
      exact ⟨_, .present hb, by rw [hpoint]; rfl⟩
    · cases h
      exact ⟨[], .absent, rfl⟩

theorem signPart_spelled {input rest : Bytes} {negative : Bool}
    (h : signPart input = (negative, rest)) :
    ∃ sign, SpellsSign negative sign ∧ input = sign ++ rest := by
  unfold signPart at h
  split at h
  · cases h
    exact ⟨[], .absent, rfl⟩
  · split at h
    · next hminus =>
      cases h
      exact ⟨_, .minus, by rw [hminus]; rfl⟩
    · split at h
      · next hplus =>
        cases h
        exact ⟨_, .plus, by rw [hplus]; rfl⟩
      · cases h
        exact ⟨[], .absent, rfl⟩

theorem exponentPart_spelled {input rest : Bytes} {exponent : Option (Bool × List Nat)}
    (h : exponentPart input = some (exponent, rest)) :
    ∃ b, SpellsExponent exponent b ∧ input = b ++ rest := by
  unfold exponentPart at h
  split at h
  · cases h
    exact ⟨[], .absent, rfl⟩
  · next letter more =>
    split at h
    · next hletter =>
      generalize hsign : signPart more = p at h
      obtain ⟨negative, more'⟩ := p
      obtain ⟨⟨ds, rest'⟩, hdigits, h⟩ := Option.bind_eq_some_iff.1 h
      cases h
      obtain ⟨sign, hspells, rfl⟩ := signPart_spelled hsign
      obtain ⟨b, hb, rfl⟩ := someDigits_spelled hdigits
      exact ⟨_, .present hletter hspells hb, by simp⟩
    · cases h
      exact ⟨[], .absent, rfl⟩

theorem parts_spelled {input r₁ r₂ rest : Bytes} {whole : List Nat}
    {fraction : Option (List Nat)} {exponent : Option (Bool × List Nat)} (negative : Bool)
    (hwhole : wholePart input = some (whole, r₁))
    (hfraction : fractionPart r₁ = some (fraction, r₂))
    (hexponent : exponentPart r₂ = some (exponent, rest)) :
    ∃ b, SpellsNumeral ⟨negative, whole, fraction, exponent⟩ b ∧
      minusSign negative ++ input = b ++ rest := by
  obtain ⟨b, hb, hzero, rfl⟩ := wholePart_spelled hwhole
  obtain ⟨f, hf, rfl⟩ := fractionPart_spelled hfraction
  obtain ⟨e, he, rfl⟩ := exponentPart_spelled hexponent
  exact ⟨_, .mk hb hzero hf he, by simp⟩

theorem numeral_spelled {input rest : Bytes} {n : Numeral} (h : numeral input = some (n, rest)) :
    ∃ b, SpellsNumeral n b ∧ input = b ++ rest := by
  cases input with
  | nil => cases h
  | cons first more =>
    by_cases hminus : first = ascii '-'
    · simp only [numeral, if_pos hminus, Option.bind_eq_bind, Option.bind_eq_some_iff, Prod.exists,
        Option.pure_def, Option.some.injEq, Prod.mk.injEq] at h
      obtain ⟨_, _, hwhole, _, _, hfraction, _, _, hexponent, rfl, rfl⟩ := h
      rw [hminus]
      exact parts_spelled true hwhole hfraction hexponent
    · simp only [numeral, if_neg hminus, Option.bind_eq_bind, Option.bind_eq_some_iff, Prod.exists,
        Option.pure_def, Option.some.injEq, Prod.mk.injEq] at h
      obtain ⟨_, _, hwhole, _, _, hfraction, _, _, hexponent, rfl, rfl⟩ := h
      exact parts_spelled false hwhole hfraction hexponent

/-! ## Integers -/

/-- The digits of a number, the most significant first. Zero has one. -/
def decimalDigits (n : Nat) : List Nat := if n = 0 then [0] else (Nat.digits 10 n).reverse

def decimal (n : Nat) : Bytes := (decimalDigits n).map fun d => ascii (Nat.digitChar d)

theorem decimalDigits_lt {n d : Nat} (h : d ∈ decimalDigits n) : d < 10 := by
  rw [decimalDigits] at h
  split at h
  · obtain rfl := List.mem_singleton.1 h
    decide
  · exact Nat.digits_lt_base (by decide) (List.mem_reverse.1 h)

theorem decimalDigits_head (n : Nat) :
    decimalDigits n = [0] ∨ ∃ d rest, decimalDigits n = (d + 1) :: rest := by
  rw [decimalDigits]
  split
  · exact .inl rfl
  · next hn =>
    have hne : Nat.digits 10 n ≠ [] := Nat.digits_ne_nil_iff_ne_zero.2 hn
    obtain ⟨d, hd⟩ := Nat.exists_eq_succ_of_ne_zero (Nat.getLast_digit_ne_zero 10 hn)
    refine .inr ⟨d, ((Nat.digits 10 n).dropLast).reverse, ?_⟩
    conv_lhs => rw [← List.dropLast_append_getLast hne]
    rw [List.reverse_append, hd]
    rfl

theorem ofDigits_decimalDigits (n : Nat) : ofDigits (decimalDigits n) = n := by
  rw [decimalDigits]
  split
  · next hn => exact hn.symm
  · calc ofDigits (Nat.digits 10 n).reverse
        = (Nat.digits 10 n).foldr (fun d n => 10 * n + d) 0 := List.foldl_reverse
      _ = Nat.ofDigits 10 (Nat.digits 10 n) := by simp [Nat.ofDigits_eq_foldr, Nat.add_comm]
      _ = n := Nat.ofDigits_digits 10 n

/-- An integer in decimal digits, behind a minus sign or not. -/
def signed (negative : Bool) (n : Nat) : Bytes :=
  if negative then ascii '-' :: decimal n else decimal n

theorem spellsNumeral_signed (negative : Bool) (n : Nat) :
    SpellsNumeral ⟨negative, decimalDigits n, none, none⟩ (signed negative n) := by
  have hdigits : SpellsDigits (decimalDigits n) (decimal n) := by
    refine ⟨?_, fun _ => decimalDigits_lt⟩
    obtain hn | ⟨d, rest, hn⟩ := decimalDigits_head n <;> simp [hn]
  have hzero : (decimalDigits n).head? = some 0 → decimalDigits n = [0] := by
    obtain hn | ⟨d, rest, hn⟩ := decimalDigits_head n <;> simp [hn]
  have hnumeral : SpellsNumeral ⟨negative, decimalDigits n, none, none⟩
      (minusSign negative ++ (decimal n ++ ([] ++ []))) := .mk hdigits hzero .absent .absent
  rw [List.append_nil, List.append_nil] at hnumeral
  cases negative <;> exact hnumeral

/-! ## Worth -/

/-- Rounding to a number of significant bits does not more than double a number. -/
theorem roundToBits_le {bits : Nat} (hbits : 0 < bits) (n : Nat) : roundToBits bits n ≤ 2 * n := by
  obtain rfl | hn := Nat.eq_zero_or_pos n
  · simp [roundToBits, Nat.sub_eq_zero_of_le (Nat.succ_le_of_lt hbits)]
  generalize hunit : 1 <<< (Nat.log2 n + 1 - bits) = unit
  have hle : unit ≤ n := by
    calc unit = 2 ^ (Nat.log2 n + 1 - bits) := by rw [← hunit, Nat.one_shiftLeft]
      _ ≤ 2 ^ Nat.log2 n := Nat.pow_le_pow_right (by decide) (by omega)
      _ ≤ n := Nat.log2_self_le (by omega)
  have hup : (n / unit + 1) * unit ≤ 2 * n := by
    have := Nat.div_mul_le_self n unit
    rw [Nat.add_one_mul]
    omega
  rw [roundToBits, hunit]
  refine le_trans (Nat.mul_le_mul_right unit ?_) hup
  split
  · exact le_refl _
  · exact Nat.le_succ _

theorem isFinite_of_le {s : Scaled} {p : Nat} (hp : s.power = p)
    (h : s.significand * 10 ^ p ≤ 0x10000000000000000) : s.isFinite := by
  rw [Scaled.isFinite, hp, Int.toNat_natCast]
  split
  · rfl
  · next hpos =>
    have hsignificand : 0 < s.significand := by
      simp only [Bool.or_eq_true, decide_eq_true_eq, not_or] at hpos
      omega
    have hpower : 10 ^ p ≤ 0x10000000000000000 :=
      le_trans (Nat.le_mul_of_pos_left _ hsignificand) h
    have hp : ¬ maxPower < p := by
      intro hlt
      have hmany : 10 ^ 20 ≤ 10 ^ p :=
        Nat.pow_le_pow_right (by decide) (le_trans (by decide) (le_of_lt hlt))
      exact absurd (le_trans hmany hpower) (by decide)
    rw [if_neg hp, decide_eq_true_eq]
    calc roundToBits precision s.significand * roundToBits precision (Nat.pow 10 p)
        ≤ (2 * s.significand) * (2 * 10 ^ p) :=
          Nat.mul_le_mul (roundToBits_le (by decide) _) (roundToBits_le (by decide) _)
      _ = 4 * (s.significand * 10 ^ p) := by ring
      _ ≤ 4 * 0x10000000000000000 := Nat.mul_le_mul_left 4 h
      _ < infinityBound := by decide

/-- The significand of the leading digits, scaled, is never greater than the number. It is not
scaled before a digit has been left out. -/
theorem foldl_addWhole (ds : List Nat) {s : Scaled} {n p : Nat} (hp : s.power = p)
    (hfull : s.full = false → p = 0) (h : s.significand * 10 ^ p ≤ n) :
    ∃ p' : Nat, (ds.foldl Scaled.addWhole s).power = p' ∧
      (ds.foldl Scaled.addWhole s).significand * 10 ^ p' ≤ ds.foldl (fun n d => 10 * n + d) n := by
  induction ds generalizing s n p with
  | nil => exact ⟨p, hp, h⟩
  | cons d ds ih =>
    rw [List.foldl_cons, List.foldl_cons]
    by_cases hfits : s.full = false ∧ 10 * s.significand + d ≤ maxSignificand
    · have hp₀ : p = 0 := hfull hfits.1
      have hadd : s.addWhole d = { s with significand := 10 * s.significand + d } := by
        have hle : ¬ maxSignificand < 10 * s.significand + d := Nat.not_lt.2 hfits.2
        simp [Scaled.addWhole, Scaled.extended, hfits.1, hle]
      rw [hadd]
      refine ih hp hfull ?_
      subst hp₀
      simp only [Nat.pow_zero, Nat.mul_one] at h ⊢
      omega
    · have hadd : s.addWhole d = { s with power := s.power + 1, full := true } := by
        have hnone : s.full = true ∨ maxSignificand < 10 * s.significand + d := by
          rw [← Nat.not_le, ← Bool.not_eq_false]
          exact Classical.not_and_iff_not_or_not.1 hfits
        simp [Scaled.addWhole, Scaled.extended, hnone]
      rw [hadd]
      refine ih (p := p + 1) ?_ nofun ?_
      · simp [hp]
      · simp only [Nat.pow_succ]
        rw [← Nat.mul_assoc]
        omega

theorem isFinite_decimal {negative : Bool} {n : Nat} (h : n ≤ 0x10000000000000000) :
    (⟨negative, decimalDigits n, none, none⟩ : Numeral).scaled.isFinite := by
  obtain ⟨p, hp, hle⟩ := foldl_addWhole (decimalDigits n) (s := ⟨0, 0, false⟩) (n := 0) (p := 0)
    rfl (fun _ => rfl) (Nat.le_refl 0)
  rw [← ofDigits, ofDigits_decimalDigits] at hle
  exact isFinite_of_le (s := Numeral.scaled _) hp (le_trans hle h)

theorem Numeral.document_decimal {n : Nat} (negative : Bool) (h : n ≤ 0x10000000000000000) :
    (⟨negative, decimalDigits n, none, none⟩ : Numeral).document =
      if negative then
        if 0 < n ∧ n ≤ 0x8000000000000000 then .integer (-n) else .other
      else if n < 0x10000000000000000 then .integer n else .other := by
  have hinteger : (⟨negative, decimalDigits n, none, none⟩ : Numeral).integer? =
      if negative then if 0 < n ∧ n ≤ 0x8000000000000000 then some (-n : Int) else none
      else if n < 0x10000000000000000 then some (n : Int) else none := by
    simp [integer?, ofDigits_decimalDigits]
  rw [document, hinteger, isFinite_decimal h]
  repeat' split
  all_goals simp_all

end Enrolment.Json
