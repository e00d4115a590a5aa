import Enrolment.Document

/-!
# Enrolment.Json.Numeral

What a decimal numeral is worth to a reader. A numeral without a fraction and an exponent is an
integer, if it is one of 64 bits, unsigned or with a sign; every other numeral is a binary
floating-point number, which no reader takes but which must be finite.

The floating-point number is computed from the leading digits that fit 64 bits, scaled by a power of
ten. Both factors are rounded to the precision before they are multiplied. A negative power of ten
cannot make the number infinite.
-/

namespace Enrolment.Json

structure Numeral where
  negative : Bool
  whole : List Nat
  fraction : Option (List Nat)
  /-- The exponent's digits, and whether it has a minus sign. -/
  exponent : Option (Bool × List Nat)
  deriving DecidableEq, Repr

def ofDigits (digits : List Nat) : Nat := digits.foldl (fun n d => 10 * n + d) 0

def maxSignificand : Nat := 0xffffffffffffffff

/-- A significand and the power of ten that scales it. -/
structure Scaled where
  significand : Nat
  power : Int
  /-- Whether a digit has been left out already. -/
  full : Bool
  deriving DecidableEq, Repr

namespace Scaled

/-- The significand with one more digit, if that fits. -/
def extended (s : Scaled) (digit : Nat) : Option Nat :=
  let n := 10 * s.significand + digit
  if s.full || maxSignificand < n then none else some n

/-- Takes a digit before the point. One that does not fit scales by ten instead. -/
def addWhole (s : Scaled) (digit : Nat) : Scaled :=
  match s.extended digit with
  | some n => { s with significand := n }
  | none => { s with power := s.power + 1, full := true }

/-- Takes a digit behind the point. One that does not fit is left out, with those behind it. -/
def addFraction (s : Scaled) (digit : Nat) : Scaled :=
  match s.extended digit with
  | some n => { s with significand := n, power := s.power - 1 }
  | none => { s with full := true }

end Scaled

namespace Numeral

def scaled (n : Numeral) : Scaled :=
  let whole := n.whole.foldl Scaled.addWhole ⟨0, 0, false⟩
  let s := (n.fraction.getD []).foldl Scaled.addFraction { whole with full := false }
  match n.exponent with
  | none => s
  | some (true, digits) => { s with power := s.power - ofDigits digits }
  | some (false, digits) => { s with power := s.power + ofDigits digits }

end Numeral

/-- The nearest number of `bits` significant bits; of two, the one whose last bit is 0. -/
def roundToBits (bits n : Nat) : Nat :=
  let unit := 1 <<< (Nat.log2 n + 1 - bits)
  let quotient := n / unit
  let remainder := n % unit
  let up := unit < 2 * remainder || (unit == 2 * remainder && quotient % 2 == 1)
  (if up then quotient + 1 else quotient) * unit

/-- The significant bits of a floating-point number. -/
def precision : Nat := 53

/-- The least product that rounds to infinity. -/
def infinityBound : Nat := 0x3fffffffffffff <<< 970

/-- The greatest power of ten that is a floating-point number. -/
def maxPower : Nat := 308

def Scaled.isFinite (s : Scaled) : Bool :=
  if s.significand = 0 || s.power < 0 then true
  else if maxPower < s.power.toNat then false
  else roundToBits precision s.significand * roundToBits precision (Nat.pow 10 s.power.toNat)
    < infinityBound

namespace Numeral

/-- The integer of 64 bits that the numeral writes. Zero with a minus sign is none. -/
def integer? (n : Numeral) : Option Int :=
  if n.fraction.isSome || n.exponent.isSome then none
  else
    let magnitude := ofDigits n.whole
    if n.negative then
      if 0 < magnitude ∧ magnitude ≤ 0x8000000000000000 then some (-magnitude) else none
    else if magnitude < 0x10000000000000000 then some magnitude
    else none

/-- What the numeral is worth. -/
def document (n : Numeral) : Document :=
  match n.integer? with
  | some i => .integer i
  | none => if n.scaled.isFinite then .other else .unreadable

end Numeral

end Enrolment.Json
