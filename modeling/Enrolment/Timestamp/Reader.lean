import Enrolment.Text.Blank
import Enrolment.Timestamp.Basic

/-!
# Enrolment.Timestamp.Reader

Reading points in time. The form is that of the writer, more widely: fields may be shorter and have
blanks before them, blanks may stand around the separators of date and time, one blank or a small
`t` may stand for `T`, digits behind the ninth of a fraction are dropped, and any offset from UTC of
less than a day may take the place of `Z`. There must be an offset.

A reader takes the characters that are left, and returns what it read with the characters behind it.
-/

namespace Enrolment.Timestamp

open Text (isBlank dropBlanks)

def digitValue (c : Char) : Nat := c.toNat - '0'.toNat

def digitsValue (cs : List Char) : Nat := cs.foldl (fun n c => 10 * n + digitValue c) 0

/-- From one to `most` digits. -/
def digits (most : Nat) (cs : List Char) : Option (List Char × List Char) :=
  match (cs.take most).takeWhile Char.isDigit with
  | [] => none
  | ds => some (ds, cs.drop ds.length)

def twoDigits (cs : List Char) : Option (Nat × List Char) := do
  let (ds, rest) ← digits 2 (dropBlanks cs)
  return (digitsValue ds, rest)

/-- A year: of any length behind a sign, and otherwise of at most four digits. -/
def year (cs : List Char) : Option (Int × List Char) :=
  match dropBlanks cs with
  | '-' :: rest => do
    let (ds, rest) ← digits rest.length rest
    return (-(digitsValue ds : Int), rest)
  | '+' :: rest => do
    let (ds, rest) ← digits rest.length rest
    return (digitsValue ds, rest)
  | rest => do
    let (ds, rest) ← digits 4 rest
    return (digitsValue ds, rest)

/-- What follows a separator, which may have blanks before it. -/
def after (sep : Char) (cs : List Char) : Option (List Char) :=
  match dropBlanks cs with
  | c :: rest => if c = sep then some rest else none
  | [] => none

/-- What stands between date and time. -/
def afterDate : List Char → Option (List Char)
  | c :: rest => if c = 'T' ∨ c = 't' ∨ c = ' ' then some rest else none
  | [] => none

/-- A fraction of a second in nanoseconds, if there is one. -/
def fraction : List Char → Option (Nat × List Char)
  | '.' :: cs => do
    let (ds, rest) ← digits 9 cs
    return (digitsValue ds * Nat.pow 10 (9 - ds.length), rest.dropWhile Char.isDigit)
  | cs => some (0, cs)

/-- The separators between the hours and the minutes of an offset. -/
def isOffsetSeparator (c : Char) : Bool := c == ':' || isBlank c

/-- The hours and minutes of an offset, in minutes. -/
def offsetSize : List Char → Option (Nat × List Char)
  | h₁ :: h₂ :: rest =>
    match rest.dropWhile isOffsetSeparator with
    | m₁ :: m₂ :: rest =>
      if [h₁, h₂, m₁, m₂].all Char.isDigit && digitsValue [m₁, m₂] < 60 then
        some (60 * digitsValue [h₁, h₂] + digitsValue [m₁, m₂], rest)
      else none
    | _ => none
  | _ => none

def minusSign : Char := '\u2212'

/-- The offset from UTC, in minutes. -/
def offset (cs : List Char) : Option (Int × List Char) :=
  if (cs.take 3).map Char.toUpper = ['U', 'T', 'C'] then some (0, cs.drop 3)
  else match cs with
    | [] => none
    | c :: rest =>
      if c = 'Z' ∨ c = 'z' then some (0, rest)
      else do
        let sign : Int ←
          if c = '+' then some 1 else if c = '-' ∨ c = minusSign then some (-1) else none
        let (size, rest) ← offsetSize rest
        if (size : Int) < minutesPerDay then return (sign * size, rest) else none

def ofText? (s : String) : Option Timestamp := do
  let (year, cs) ← year s.toList
  let (month, cs) ← twoDigits (← after '-' cs)
  let (day, cs) ← twoDigits (← after '-' cs)
  let (hour, cs) ← twoDigits (← afterDate cs)
  let (minute, cs) ← twoDigits (← after ':' cs)
  let (second, cs) ← twoDigits (← after ':' cs)
  let (nanos, cs) ← fraction cs
  let (offset, cs) ← offset (dropBlanks cs)
  if (dropBlanks cs).isEmpty then ofLocal? ⟨year, month, day⟩ hour minute second nanos offset
  else none

end Enrolment.Timestamp
