import Enrolment.Bytes

/-!
# Enrolment.Base64

Bytes written with the standard 64-character alphabet, four characters for three bytes. Padding may
be left out, in whole or in part, but not exceed what is due, and nothing may follow it. The bits of
the last character that belong to no byte must be zero.
-/

namespace Enrolment.Base64

/-- The value of a character of the alphabet. -/
def value? (c : UInt8) : Option Nat :=
  let n := c.toNat
  if ascii 'A' ≤ c ∧ c ≤ ascii 'Z' then some (n - 65)
  else if ascii 'a' ≤ c ∧ c ≤ ascii 'z' then some (n - 97 + 26)
  else if ascii '0' ≤ c ∧ c ≤ ascii '9' then some (n - 48 + 52)
  else if c = ascii '+' then some 62
  else if c = ascii '/' then some 63
  else none

def ofValues : List Nat → Option Bytes
  | a :: b :: c :: d :: rest => do
    let n := 262144 * a + 4096 * b + 64 * c + d
    return .ofNat (n / 65536) :: .ofNat (n / 256 % 256) :: .ofNat (n % 256) :: (← ofValues rest)
  | [a, b, c] =>
    if c % 4 = 0 then
      let n := 4096 * a + 64 * b + c
      some [.ofNat (n / 1024), .ofNat (n / 4 % 256)]
    else none
  | [a, b] => if b % 16 = 0 then some [.ofNat ((64 * a + b) / 16)] else none
  | [_] => none
  | [] => some []

/-- The most padding that may follow `n` characters. -/
def paddingDue (n : Nat) : Nat := (4 - n % 4) % 4

def decode? (text : Bytes) : Option Bytes := do
  let symbols := text.takeWhile (· ≠ ascii '=')
  let padding := text.dropWhile (· ≠ ascii '=')
  if padding.all (· == ascii '=') && padding.length ≤ paddingDue symbols.length then
    ofValues (← symbols.mapM value?)
  else none

end Enrolment.Base64
