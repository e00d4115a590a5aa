import Enrolment.Document
import Enrolment.Toml.Quoted

/-!
# Enrolment.Toml.Numeral

Numerals. An integer has 64 bits and a sign; it is written in decimal, or, without a sign, in
hexadecimal, octal or binary behind `0x`, `0o` or `0b`. A floating-point number has a fraction or an
exponent, or is `inf` or `nan`; a positive one must not be so great that it rounds to infinity.
Underscores may stand between two digits.
-/

namespace Enrolment.Toml

def digitOf? (base : Nat) (c : Char) : Option Nat := do
  let d ← hexDigit? c
  if d < base then some d else none

/-- The digits of a base that stand at the start, with underscores between them. -/
def moreDigits (base : Nat) : List Char → List Nat × List Char
  | [] => ([], [])
  | c :: cs =>
    match digitOf? base c with
    | some d =>
      let (ds, rest) := moreDigits base cs
      (d :: ds, rest)
    | none =>
      if c = '_' ∧ (cs.head?.bind (digitOf? base)).isSome then
        moreDigits base cs
      else ([], c :: cs)

/-- One digit at least. -/
def digits (base : Nat) : Scan (List Nat)
  | [] => none
  | c :: cs => do
    let d ← digitOf? base c
    let (ds, rest) := moreDigits base cs
    return (d :: ds, rest)

def ofDigits (base : Nat) (ds : List Nat) : Nat := ds.foldl (fun n d => base * n + d) 0

/-- A sign, if there is one: whether it is a minus sign. -/
def sign : List Char → Bool × List Char
  | '-' :: rest => (true, rest)
  | '+' :: rest => (false, rest)
  | cs => (false, cs)

/-- The digits before a point. A zero at the start stands alone. -/
def wholeDigits (cs : List Char) : Option (List Nat × List Char) :=
  match cs with
  | '0' :: rest => some ([0], rest)
  | cs => digits 10 cs

/-- The base that a letter behind a zero stands for. -/
def baseOf? (c : Char) : Option Nat :=
  if c = 'x' then some 16 else if c = 'o' then some 8 else if c = 'b' then some 2 else none

/-- An integer of 64 bits. -/
def inRange? (n : Int) : Option Int :=
  if -0x8000000000000000 ≤ n ∧ n < 0x8000000000000000 then some n else none

def decimalInteger (cs : List Char) : Option (Int × List Char) := do
  let (negative, rest) := sign cs
  let (ds, rest) ← wholeDigits rest
  let n : Int := ofDigits 10 ds
  return (← inRange? (if negative then -n else n), rest)

def integer (cs : List Char) : Option (Int × List Char) :=
  match cs with
  | '0' :: c :: rest => match baseOf? c with
    | some base => do
      let (ds, rest) ← digits base rest
      return (← inRange? (ofDigits base ds), rest)
    | none => decimalInteger cs
  | cs => decimalInteger cs

/-- The least number that rounds to infinity. -/
def infinityBound : Nat := 0x3fffffffffffff <<< 970

/-- Whether the number with some digits, scaled by a power of ten, rounds to infinity. A number
without leading zeros has at least as many digits as one that is greater by a power of ten. -/
def isInfinite (ds : List Nat) (power : Int) : Bool :=
  let significant := ds.dropWhile (· = 0)
  let digitCount : Int := significant.length + power
  if significant = [] ∨ digitCount < 309 then false
  else if 309 < digitCount then true
  else if 0 ≤ power then infinityBound ≤ ofDigits 10 ds * Nat.pow 10 power.toNat
  else infinityBound * Nat.pow 10 (-power).toNat ≤ ofDigits 10 ds

def exponent : Scan Int
  | c :: rest =>
    if c = 'e' ∨ c = 'E' then do
      let (negative, rest) := sign rest
      let (ds, rest) ← digits 10 rest
      let n : Int := ofDigits 10 ds
      return (if negative then -n else n, rest)
    else none
  | [] => none

/-- A floating-point number by its digits: a fraction, an exponent, or both. -/
def decimalFloat (cs : List Char) : Option (Document × List Char) := do
  let (negative, rest) := sign cs
  let (whole, rest) ← wholeDigits rest
  let (fraction, power, rest) ← match rest with
    | '.' :: rest => do
      let (fraction, rest) ← digits 10 rest
      match rest.head? with
      | some 'e' | some 'E' => do
        let (power, rest) ← exponent rest
        some (fraction, power, rest)
      | _ => some (fraction, 0, rest)
    | rest => do
      let (power, rest) ← exponent rest
      some ([], power, rest)
  if !negative && isInfinite (whole ++ fraction) (power - fraction.length) then none
  else return (.other, rest)

def namedFloat (cs : List Char) : Option (Document × List Char) := do
  let (_, rest) := sign cs
  let rest ← afterWord "inf" rest <|> afterWord "nan" rest
  return (.other, rest)

def numeral (cs : List Char) : Option (Document × List Char) :=
  decimalFloat cs <|> namedFloat cs <|> do
    let (n, rest) ← integer cs
    return (.integer n, rest)

end Enrolment.Toml
