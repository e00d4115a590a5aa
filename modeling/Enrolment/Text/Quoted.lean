import Enrolment.Text.Printable

/-!
# Enrolment.Text.Quoted

A text or a character between quotes, as messages show it: the backslash and the enclosing quote
carry a backslash, the line and tab characters and NUL have a letter of their own, any other hidden
character is written `\u{…}` with its code point in lower-case hexadecimal, and the rest stands as
it is. The other kind of quote needs no backslash.
-/

namespace Enrolment.Text

/-- The lower-case hexadecimal digits of `n`, without leading zeros. -/
def hexDigits (n : Nat) : List Char := Nat.toDigits 16 n

/-- How `c` is written between two `quote`s. -/
def quotedChar (quote c : Char) : List Char :=
  if c = '\x00' then ['\\', '0']
  else if c = '\t' then ['\\', 't']
  else if c = '\n' then ['\\', 'n']
  else if c = '\r' then ['\\', 'r']
  else if c = '\\' || c = quote then ['\\', c]
  else if isPrintable c then [c]
  else ['\\', 'u', '\x7b'] ++ hexDigits c.toNat ++ ['\x7d']

def quoted (s : String) : String :=
  String.ofList ('"' :: s.toList.flatMap (quotedChar '"') ++ ['"'])

def quotedCharacter (c : Char) : String :=
  String.ofList ('\'' :: quotedChar '\'' c ++ ['\''])

end Enrolment.Text
