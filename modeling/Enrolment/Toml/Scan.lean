/-!
# Enrolment.Toml.Scan

The layout of a TOML text: blanks, line ends and comments. A line ends at a line feed, which may
have a carriage return before it; a carriage return alone stands nowhere. A comment runs to the end
of its line and holds no control character but the tab.

A scanner takes the characters that are left, and returns what it read with the characters behind
it.
-/

namespace Enrolment.Toml

abbrev Scan (α : Type) := List Char → Option (α × List Char)

def isBlank (c : Char) : Bool := c == ' ' || c == '\t'

/-- Whether a comment may hold `c`, and a string on one line that escapes nothing. -/
def isPlain (c : Char) : Bool := c == '\t' || (0x20 ≤ c.toNat && c.toNat != 0x7f)

def dropBlanks (cs : List Char) : List Char := cs.dropWhile isBlank

def afterLineEnd : List Char → Option (List Char)
  | '\n' :: rest => some rest
  | '\r' :: '\n' :: rest => some rest
  | _ => none

/-- What follows the rest of a line that holds blanks and a comment at most. -/
def afterLine (cs : List Char) : Option (List Char) :=
  let cs := match dropBlanks cs with
    | '#' :: rest => rest.dropWhile isPlain
    | cs => cs
  match cs with
  | [] => some []
  | cs => afterLineEnd cs

/-- What follows blanks, line ends and comments. -/
def dropLayout (inComment : Bool) : List Char → List Char
  | [] => []
  | c :: cs =>
    if c = '\n' then dropLayout false cs
    else if c = '\r' ∧ cs.head? = some '\n' then dropLayout false cs
    else if inComment then if isPlain c then dropLayout true cs else c :: cs
    else if isBlank c then dropLayout false cs
    else if c = '#' then dropLayout true cs
    else c :: cs

def afterChar (expected : Char) : List Char → Option (List Char)
  | c :: rest => if c = expected then some rest else none
  | [] => none

def afterWord (word : String) (cs : List Char) : Option (List Char) :=
  if word.toList.isPrefixOf cs then some (cs.drop word.length) else none

end Enrolment.Toml
