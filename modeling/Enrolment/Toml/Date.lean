import Enrolment.Document
import Enrolment.Timestamp.Writer
import Enrolment.Toml.Scan

/-!
# Enrolment.Toml.Date

Dates and times: a date, a time of day, or both with an offset from UTC or without one. Their form
is strict, and the day must be one of its month. To a reader of documents a date is a table with its
text as the only entry.
-/

namespace Enrolment.Toml

open Timestamp (padded)

/-- A number of exactly `n` decimal digits, within bounds. -/
def fixedNumber (n least greatest : Nat) (cs : List Char) : Option (Nat × List Char) :=
  let ds := cs.take n
  if ds.length = n ∧ ds.all Char.isDigit then
    let value := ds.foldl (fun n c => 10 * n + (c.toNat - '0'.toNat)) 0
    if least ≤ value ∧ value ≤ greatest then some (value, cs.drop n) else none
  else none

def date (cs : List Char) : Option (List Char × List Char) := do
  let (year, rest) ← fixedNumber 4 0 9999 cs
  let (month, rest) ← fixedNumber 2 1 12 (← afterChar '-' rest)
  let (day, rest) ← fixedNumber 2 1 (Date.daysInMonth year month) (← afterChar '-' rest)
  return (padded 4 year ++ '-' :: padded 2 month ++ '-' :: padded 2 day, rest)

/-- A fraction of a second, written without zeros at its end. Digits behind the ninth do not
count. -/
def fraction (cs : List Char) : Option (List Char × List Char) :=
  match cs with
  | '.' :: rest =>
    match rest.takeWhile Char.isDigit with
    | [] => none
    | ds =>
      let kept := ((ds.take 9).reverse.dropWhile (· = '0')).reverse
      some (if kept.isEmpty then [] else '.' :: kept, rest.drop ds.length)
  | cs => some ([], cs)

def time (cs : List Char) : Option (List Char × List Char) := do
  let (hour, rest) ← fixedNumber 2 0 23 cs
  let (minute, rest) ← fixedNumber 2 0 59 (← afterChar ':' rest)
  let (second, rest) ← fixedNumber 2 0 60 (← afterChar ':' rest)
  let (fraction, rest) ← fraction rest
  return (padded 2 hour ++ ':' :: padded 2 minute ++ ':' :: padded 2 second ++ fraction, rest)

/-- An offset from UTC, as it is written, if there is one. An offset of nothing has no minus
sign. -/
def offset (cs : List Char) : Option (List Char × List Char) :=
  match cs with
  | [] => some ([], [])
  | c :: rest =>
    if c = 'Z' ∨ c = 'z' then some (['Z'], rest)
    else if c = '+' ∨ c = '-' then do
      let (hour, rest) ← fixedNumber 2 0 23 rest
      let (minute, rest) ← fixedNumber 2 0 59 (← afterChar ':' rest)
      let c := if hour = 0 ∧ minute = 0 then '+' else c
      return (c :: padded 2 hour ++ ':' :: padded 2 minute, rest)
    else some ([], cs)

/-- Whether a character may stand between a date and a time. -/
def isDateSeparator (c : Char) : Bool := c == 'T' || c == 't' || c == ' '

/-- A time and its offset behind a date, if there is one. -/
def timeOfDate (cs : List Char) : Option (List Char × List Char) :=
  match cs with
  | [] => some ([], [])
  | c :: rest =>
    if isDateSeparator c then
      match time rest with
      | some (time, rest) => do
        let (offset, rest) ← offset rest
        return ('T' :: time ++ offset, rest)
      | none => some ([], cs)
    else some ([], cs)

/-- A date, a time or both, as they are written. -/
def dateText (cs : List Char) : Option (List Char × List Char) :=
  match date cs with
  | some (date, rest) => do
    let (time, rest) ← timeOfDate rest
    return (date ++ time, rest)
  | none => time cs

/-- The key under which a date stands in its table. -/
def dateKey : String := "$__toml_private_datetime"

def dateValue (cs : List Char) : Option (Document × List Char) := do
  let (written, rest) ← dateText cs
  return (.table [(some dateKey, .text (String.ofList written))], rest)

end Enrolment.Toml
