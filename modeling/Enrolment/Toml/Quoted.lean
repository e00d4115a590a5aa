import Enrolment.Toml.Scan

/-!
# Enrolment.Toml.Quoted

The four forms of a string: between quotes, with escapes, or between apostrophes, without; each on
one line, or, between three of them, on several. In the longer forms a line end right behind the
opening does not count, any other one counts as a line feed, and one or two of the delimiting
character may stand anywhere, also right before the closing three. A backslash at the end of a line
takes away everything up to the next character that is not blank.
-/

namespace Enrolment.Toml

def hexDigit? (c : Char) : Option Nat :=
  if '0' ≤ c ∧ c ≤ '9' then some (c.toNat - '0'.toNat)
  else if 'a' ≤ c ∧ c ≤ 'f' then some (c.toNat - 'a'.toNat + 10)
  else if 'A' ≤ c ∧ c ≤ 'F' then some (c.toNat - 'A'.toNat + 10)
  else none

def ofHexDigits? (cs : List Char) : Option Nat := do
  return (← cs.mapM hexDigit?).foldl (fun n d => 16 * n + d) 0

def ofCodePoint? (n : Nat) : Option Char := if n.isValidChar then some (.ofNat n) else none

/-- The character that a backslash and `c` stand for. -/
def escaped? (c : Char) : Option Char :=
  if c = 'b' then some '\x08'
  else if c = 'f' then some '\x0c'
  else if c = 'n' then some '\n'
  else if c = 'r' then some '\r'
  else if c = 't' then some '\t'
  else if c = '\\' ∨ c = '"' then some c
  else none

/-- The character of an escape, behind its backslash, and what follows. -/
def escape : Scan Char
  | 'u' :: a :: b :: c :: d :: rest => do
    return (← ofCodePoint? (← ofHexDigits? [a, b, c, d]), rest)
  | 'U' :: a :: b :: c :: d :: e :: f :: g :: h :: rest => do
    return (← ofCodePoint? (← ofHexDigits? [a, b, c, d, e, f, g, h]), rest)
  | c :: rest => do return (← escaped? c, rest)
  | [] => none

/-- The characters of a string up to the closing quote. An escape takes a character at least, so as
much fuel as there are characters is enough. -/
def basicWith : Nat → Scan (List Char)
  | 0, _ => none
  | _ + 1, [] => none
  | fuel + 1, c :: cs =>
    if c = '"' then some ([], cs)
    else if c = '\\' then do
      let (e, rest) ← escape cs
      let (content, rest) ← basicWith fuel rest
      return (e :: content, rest)
    else if isPlain c then do
      let (content, rest) ← basicWith fuel cs
      return (c :: content, rest)
    else none

def literal : Scan (List Char)
  | [] => none
  | c :: cs =>
    if c = '\'' then some ([], cs)
    else if isPlain c then do
      let (content, rest) ← literal cs
      return (c :: content, rest)
    else none

/-- What follows a line end right behind the opening of a string on several lines. -/
def dropFirstLineEnd (cs : List Char) : List Char := (afterLineEnd cs).getD cs

/-- The end of a string on several lines, at three of its delimiter: those that stand before the
last three, two at most, belong to the string. -/
def closing (delimiter : Char) (cs : List Char) : Option (List Char × List Char) :=
  let run := (cs.takeWhile (· = delimiter)).length
  if run < 3 then none
  else
    let kept := min run 5 - 3
    some (List.replicate kept delimiter, cs.drop (kept + 3))

/-- Whether a backslash before `cs` ends its line. -/
def endsLine (cs : List Char) : Bool := (afterLineEnd (dropBlanks cs)).isSome

/-- The characters of a string on several lines up to its closing quotes. While `skipping`, blanks
and line ends do not count. -/
def multilineBasicWith : Nat → (skipping : Bool) → Scan (List Char)
  | 0, _, _ => none
  | fuel + 1, skipping, cs =>
    match closing '"' cs with
    | some closed => some closed
    | none => match cs with
      | [] => none
      | c :: rest =>
        match afterLineEnd cs with
        | some after =>
          if skipping then multilineBasicWith fuel true after
          else do
            let (content, rest) ← multilineBasicWith fuel false after
            return ('\n' :: content, rest)
        | none =>
          if skipping && isBlank c then multilineBasicWith fuel true rest
          else if c = '\\' then
            if endsLine rest then multilineBasicWith fuel true rest
            else do
              let (e, rest) ← escape rest
              let (content, rest) ← multilineBasicWith fuel false rest
              return (e :: content, rest)
          else if isPlain c then do
            let (content, rest) ← multilineBasicWith fuel false rest
            return (c :: content, rest)
          else none

/-- The characters of a string on several lines up to its closing apostrophes. -/
def multilineLiteralWith : Nat → Scan (List Char)
  | 0, _ => none
  | fuel + 1, cs =>
    match closing '\'' cs with
    | some closed => some closed
    | none => match cs with
      | [] => none
      | c :: rest =>
        match afterLineEnd cs with
        | some after => do
          let (content, rest) ← multilineLiteralWith fuel after
          return ('\n' :: content, rest)
        | none =>
          if isPlain c then do
            let (content, rest) ← multilineLiteralWith fuel rest
            return (c :: content, rest)
          else none

def lineString : Scan String
  | '"' :: rest => do
    let (content, rest) ← basicWith (rest.length + 1) rest
    return (String.ofList content, rest)
  | '\'' :: rest => do
    let (content, rest) ← literal rest
    return (String.ofList content, rest)
  | _ => none

def anyString (cs : List Char) : Option (String × List Char) :=
  match cs with
  | '"' :: '"' :: '"' :: rest => do
    let rest := dropFirstLineEnd rest
    let (content, rest) ← multilineBasicWith (rest.length + 1) false rest
    return (String.ofList content, rest)
  | '\'' :: '\'' :: '\'' :: rest => do
    let rest := dropFirstLineEnd rest
    let (content, rest) ← multilineLiteralWith (rest.length + 1) rest
    return (String.ofList content, rest)
  | _ => lineString cs

end Enrolment.Toml
