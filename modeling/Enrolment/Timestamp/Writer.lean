import Enrolment.Timestamp.Basic

/-!
# Enrolment.Timestamp.Writer

Points in time as they are recorded: `YYYY-MM-DDTHH:MM:SSZ`, with the fraction of the second in 3, 6
or 9 digits where it is not zero. Years outside 0 to 9999 carry a sign.
-/

namespace Enrolment.Timestamp

/-- The decimal digits of `n`, with zeros in front up to a width. -/
def padded (width n : Nat) : List Char :=
  let digits := Nat.toDigits 10 n
  List.replicate (width - digits.length) '0' ++ digits

def yearText (year : Int) : List Char :=
  if year < 0 then '-' :: padded 4 year.natAbs
  else if 9999 < year then '+' :: padded 4 year.natAbs
  else padded 4 year.natAbs

/-- A fraction of a second, with the fewest groups of three digits that are exact. -/
def fractionText (nanos : Nat) : List Char :=
  if nanos = 0 then []
  else if nanos % 1000000 = 0 then '.' :: padded 3 (nanos / 1000000)
  else if nanos % 1000 = 0 then '.' :: padded 6 (nanos / 1000)
  else '.' :: padded 9 nanos

def toText (t : Timestamp) : String := String.ofList (
  yearText t.date.year ++ '-' :: padded 2 t.date.month ++ '-' :: padded 2 t.date.day ++
    'T' :: padded 2 t.hour ++ ':' :: padded 2 t.minute ++ ':' :: padded 2 t.second ++
    fractionText t.nanos ++ ['Z'])

end Enrolment.Timestamp
