import Enrolment.Timestamp.Reader
import Enrolment.Timestamp.Writer
import Mathlib.Algebra.Group.Nat.Defs

/-!
# Enrolment.Proofs.Timestamps

Points in time survive writing. The reader takes every field that the writer makes, with its zeros
in front, and stops at the separator behind it.

* `digits_append`: how far a run of digits is read.
* `fraction_fractionText`: the fraction of a second, in whatever number of digits it is written.
* `ofText?_toText`: a point in time is read back from its text.
-/

namespace Enrolment.Timestamp

open Text (isBlank dropBlanks)

/-! ## Digits -/

theorem isBlank_of_isDigit {c : Char} (h : c.isDigit) : isBlank c = false := by
  have hc : 48 ≤ c.toNat ∧ c.toNat ≤ 57 := by
    simp only [Char.isDigit, Bool.and_eq_true, decide_eq_true_eq] at h
    exact h
  simp only [isBlank, Bool.or_eq_false_iff, Bool.and_eq_false_iff, decide_eq_false_iff_not,
    beq_eq_false_iff_ne]
  omega

theorem dropBlanks_cons {c : Char} (h : isBlank c = false) (cs : List Char) :
    dropBlanks (c :: cs) = c :: cs := by
  simp [dropBlanks, h]

/-- No digit follows. -/
def Stops (cs : List Char) : Prop := ∀ c ∈ cs.head?, c.isDigit = false

theorem takeWhile_digits {ds rest : List Char} (hds : ∀ c ∈ ds, c.isDigit) (hrest : Stops rest) :
    (ds ++ rest).takeWhile Char.isDigit = ds := by
  rw [List.takeWhile_append_of_pos hds]
  cases rest with
  | nil => simp
  | cons c rest => simp [hrest c rfl]

/-- Digits are read up to the first other character, or up to the greatest number. -/
theorem digits_append {most : Nat} {ds rest : List Char} (hds : ∀ c ∈ ds, c.isDigit)
    (hpos : ds ≠ []) (hmost : ds.length = most ∨ ds.length ≤ most ∧ Stops rest) :
    digits most (ds ++ rest) = some (ds, rest) := by
  have hle : ds.length ≤ most := by omega
  have hstops : Stops (rest.take (most - ds.length)) := by
    rcases hmost with rfl | ⟨-, hrest⟩
    · rw [Nat.sub_self]
      exact nofun
    · intro c hc
      rw [List.head?_take] at hc
      split at hc
      · cases hc
      · exact hrest c hc
  have htaken : ((ds ++ rest).take most).takeWhile Char.isDigit = ds := by
    rw [List.take_append, List.take_of_length_le hle, takeWhile_digits hds hstops]
  rw [digits, htaken]
  cases ds with
  | nil => exact absurd rfl hpos
  | cons d ds => simp

theorem padded_isDigit (width n : Nat) : ∀ c ∈ padded width n, c.isDigit := by
  intro c hc
  rw [padded, List.mem_append] at hc
  rcases hc with hzero | hdigit
  · rw [List.eq_of_mem_replicate hzero]
    rfl
  · exact Nat.isDigit_of_mem_toDigits (by decide) (by decide) hdigit

theorem padded_ne_nil (width n : Nat) : padded width n ≠ [] := by
  have hpos : 0 < (Nat.toDigits 10 n).length := Nat.length_toDigits_pos
  intro h
  have hlength := congrArg List.length h
  simp only [padded, List.length_append, List.length_nil] at hlength
  omega

theorem length_padded {width n : Nat} (hpos : 0 < width) (h : n < 10 ^ width) :
    (padded width n).length = width := by
  have hle : (Nat.toDigits 10 n).length ≤ width :=
    (Nat.length_toDigits_le_iff (by decide) hpos).2 h
  simp only [padded, List.length_append, List.length_replicate]
  omega

theorem digitsValue_padded (width n : Nat) : digitsValue (padded width n) = n := by
  have hzeros (k : Nat) :
      (List.replicate k '0').foldl (fun n c => 10 * n + digitValue c) 0 = 0 := by
    induction k with
    | zero => rfl
    | succ k ih => exact ih
  rw [digitsValue, padded, List.foldl_append, hzeros]
  exact Nat.ofDigitChars_toDigits (by decide) (by decide)

/-! ## Fields -/

theorem dropBlanks_padded (width n : Nat) (rest : List Char) :
    dropBlanks (padded width n ++ rest) = padded width n ++ rest := by
  cases hp : padded width n with
  | nil => exact absurd hp (padded_ne_nil width n)
  | cons c cs =>
    have hc : c.isDigit := padded_isDigit width n c (hp ▸ List.mem_cons_self)
    exact dropBlanks_cons (isBlank_of_isDigit hc) _

theorem twoDigits_padded {n : Nat} (h : n < 100) (rest : List Char) :
    twoDigits (padded 2 n ++ rest) = some (n, rest) := by
  have hlength : (padded 2 n).length = 2 := length_padded (by decide) h
  have hread : digits 2 (padded 2 n ++ rest) = some (padded 2 n, rest) :=
    digits_append (padded_isDigit 2 n) (padded_ne_nil 2 n) (.inl hlength)
  rw [twoDigits, dropBlanks_padded, hread]
  simp [digitsValue_padded]

theorem after_cons {sep : Char} (h : isBlank sep = false) (rest : List Char) :
    after sep (sep :: rest) = some rest := by
  rw [after, dropBlanks_cons h]
  simp

theorem year_of_isDigit {c : Char} (h : c.isDigit) (cs : List Char) :
    year (c :: cs) = (digits 4 (c :: cs)).map fun p => ((digitsValue p.1 : Int), p.2) := by
  rw [year, dropBlanks_cons (isBlank_of_isDigit h)]
  split
  · next hminus => cases hminus; cases h
  · next hplus => cases hplus; cases h
  · cases digits 4 (c :: cs) <;> rfl

/-- Four digits for the years without a sign, and any number of them behind a sign. -/
theorem year_yearText (y : Int) (rest : List Char) :
    year (yearText y ++ '-' :: rest) = some (y, '-' :: rest) := by
  have hdigits := padded_isDigit 4 y.natAbs
  have hne := padded_ne_nil 4 y.natAbs
  have hstops : Stops ('-' :: rest) := by
    rintro c ⟨⟩
    rfl
  have hsigned (n : Nat) : digits ((padded 4 y.natAbs).length + n)
      (padded 4 y.natAbs ++ '-' :: rest) = some (padded 4 y.natAbs, '-' :: rest) :=
    digits_append hdigits hne (.inr ⟨Nat.le_add_right _ _, hstops⟩)
  by_cases hneg : y < 0
  · rw [yearText, if_pos hneg, year, List.cons_append, dropBlanks_cons (by decide)]
    have hy : -(y.natAbs : Int) = y := by omega
    simpa [hsigned, digitsValue_padded] using hy
  by_cases hlong : 9999 < y
  · rw [yearText, if_neg hneg, if_pos hlong, year, List.cons_append, dropBlanks_cons (by decide)]
    have hy : (y.natAbs : Int) = y := by omega
    simpa [hsigned, digitsValue_padded] using hy
  · have hlength : (padded 4 y.natAbs).length = 4 := length_padded (by decide) (by omega)
    have hread : digits 4 (padded 4 y.natAbs ++ '-' :: rest) =
        some (padded 4 y.natAbs, '-' :: rest) := digits_append hdigits hne (.inl hlength)
    have hy : (y.natAbs : Int) = y := by omega
    rw [yearText, if_neg hneg, if_neg hlong]
    cases hp : padded 4 y.natAbs with
    | nil => exact absurd hp hne
    | cons c cs =>
      rw [hp] at hread hdigits
      rw [List.cons_append, year_of_isDigit (hdigits c List.mem_cons_self), ← List.cons_append,
        hread, ← hp]
      simp [digitsValue_padded, hy]

/-- A fraction in `k` digits, which is exact. -/
theorem fraction_padded {k m : Nat} (hpos : 0 < k) (hk : k ≤ 9) (h : m < 10 ^ k)
    {rest : List Char} (hrest : Stops rest) :
    fraction ('.' :: (padded k m ++ rest)) = some (m * 10 ^ (9 - k), rest) := by
  have hlength : (padded k m).length = k := length_padded hpos h
  have hread : digits 9 (padded k m ++ rest) = some (padded k m, rest) :=
    digits_append (padded_isDigit k m) (padded_ne_nil k m) (.inr ⟨by omega, hrest⟩)
  have hbehind : rest.dropWhile Char.isDigit = rest := by
    cases rest with
    | nil => rfl
    | cons c rest => simp [hrest c rfl]
  simp [fraction, hread, hbehind, digitsValue_padded, hlength]

theorem fraction_fractionText {nanos : Nat} (h : nanos < 1000000000) :
    fraction (fractionText nanos ++ ['Z']) = some (nanos, ['Z']) := by
  have hstops : Stops ['Z'] := by
    rintro c ⟨⟩
    rfl
  rw [fractionText]
  split
  · next hzero => rw [hzero]; rfl
  split
  · next hmillis =>
    rw [List.cons_append, fraction_padded (by decide) (by decide) (by omega) hstops]
    congr 2
    omega
  split
  · next hmicros =>
    rw [List.cons_append, fraction_padded (by decide) (by decide) (by omega) hstops]
    congr 2
    omega
  · rw [List.cons_append, fraction_padded (by decide) (by decide) h hstops]
    congr 2
    omega

/-! ## Points in time -/

/-- A point in time is what clocks show that are not ahead of UTC. -/
theorem ofLocal?_utc (t : Timestamp) :
    ofLocal? t.date t.hour t.minute t.second t.nanos 0 = some t := by
  obtain ⟨date, hour, minute, second, nanos, h⟩ := t
  have hparts : ofParts? date hour minute second nanos =
      some ⟨date, hour, minute, second, nanos, h⟩ := dif_pos h
  have hhour : hour < 24 := h.2.1
  have hminute : minute < 60 := h.2.2.1
  have hsame : ¬ 60 * (hour : Int) + minute - 0 < 0 := by omega
  have hday : ¬ minutesPerDay ≤ 60 * (hour : Int) + minute - 0 := by
    rw [minutesPerDay]
    omega
  have hdiv : (60 * (hour : Int) + minute - 0).toNat / 60 = hour := by omega
  have hmod : (60 * (hour : Int) + minute - 0).toNat % 60 = minute := by omega
  simp only [ofLocal?, hparts, if_neg hsame, if_neg hday, hdiv, hmod, Option.bind_eq_bind,
    Option.bind_some]

/-- A point in time is read back from its text. -/
theorem ofText?_toText (t : Timestamp) : ofText? t.toText = some t := by
  obtain ⟨hdate, hhour, hminute, hsecond, hnanos⟩ := t.isPointInTime
  obtain ⟨-, ⟨-, hmonth⟩, -, hday⟩ := hdate
  have hdays : t.date.day < 100 := by
    have hmost : Date.daysInMonth t.date.year t.date.month ≤ 31 := by
      unfold Date.daysInMonth
      split <;> split <;> omega
    omega
  have hfraction := fraction_fractionText hnanos
  have hend : offset (dropBlanks ['Z']) = some (0, []) := rfl
  rw [ofText?, toText, String.toList_ofList]
  simp only [List.append_assoc, List.cons_append, year_yearText, Option.bind_eq_bind,
    Option.bind_some]
  rw [after_cons (by decide), Option.bind_some, twoDigits_padded (by omega), Option.bind_some,
    after_cons (by decide), Option.bind_some, twoDigits_padded (by omega), Option.bind_some]
  simp only [afterDate, true_or, if_true, Option.bind_some]
  rw [twoDigits_padded (by omega), Option.bind_some, after_cons (by decide), Option.bind_some,
    twoDigits_padded (by omega), Option.bind_some, after_cons (by decide), Option.bind_some,
    twoDigits_padded (by omega), Option.bind_some, hfraction, Option.bind_some, hend,
    Option.bind_some]
  exact ofLocal?_utc t

end Enrolment.Timestamp
