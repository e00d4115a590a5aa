import Enrolment.Bytes
import Enrolment.Json.Numeral

/-!
# Enrolment.Json.Reader

Reading a JSON text from its bytes. The grammar is checked everywhere, but what a string or a
numeral means is not: a string that is no text, because its bytes are no UTF-8 or a surrogate
stands alone, and a numeral without a finite value are read as `Document.unreadable`, for whoever
takes them to refuse. Blanks may stand around any value, and nothing else behind the last one.

A reader takes the bytes that are left, and returns what it read with the bytes behind it.
-/

namespace Enrolment.Json

/-- Whether a byte is blank between tokens: a space, a tab or a line end. -/
def isBlank (b : UInt8) : Bool :=
  b == ascii ' ' || b == ascii '\t' || b == ascii '\n' || b == ascii '\r'

def dropBlanks (input : Bytes) : Bytes := input.dropWhile isBlank

/-! ## Strings -/

/-- A part of a string: a byte as it stands, or a UTF-16 code unit written in hexadecimal. -/
inductive Piece
  | byte (b : UInt8)
  | unit (n : Nat)
  deriving DecidableEq, Repr

def digit? (b : UInt8) : Option Nat :=
  if ascii '0' ≤ b ∧ b ≤ ascii '9' then some (b.toNat - (ascii '0').toNat) else none

def hexDigit? (b : UInt8) : Option Nat :=
  if ascii 'a' ≤ b ∧ b ≤ ascii 'f' then some (b.toNat - (ascii 'a').toNat + 10)
  else if ascii 'A' ≤ b ∧ b ≤ ascii 'F' then some (b.toNat - (ascii 'A').toNat + 10)
  else digit? b

/-- The code unit that four hexadecimal digits write. -/
def codeUnit? (a b c d : UInt8) : Option Nat := do
  return 4096 * (← hexDigit? a) + 256 * (← hexDigit? b) + 16 * (← hexDigit? c) + (← hexDigit? d)

/-- The byte that a backslash and `b` stand for. -/
def escaped? (b : UInt8) : Option UInt8 :=
  if b = ascii '"' ∨ b = ascii '\\' ∨ b = ascii '/' then some b
  else if b = ascii 'b' then some 8
  else if b = ascii 'f' then some 12
  else if b = ascii 'n' then some 10
  else if b = ascii 'r' then some 13
  else if b = ascii 't' then some 9
  else none

/-- The parts of a string up to its closing quote, behind the opening one. -/
def pieces : Bytes → Option (List Piece × Bytes)
  | [] => none
  | b :: rest =>
    if b = ascii '"' then some ([], rest)
    else if b = ascii '\\' then match rest with
      | [] => none
      | e :: rest =>
        if e = ascii 'u' then match rest with
          | h₁ :: h₂ :: h₃ :: h₄ :: rest => do
            let n ← codeUnit? h₁ h₂ h₃ h₄
            let (ps, rest) ← pieces rest
            return (.unit n :: ps, rest)
          | _ => none
        else do
          let c ← escaped? e
          let (ps, rest) ← pieces rest
          return (.byte c :: ps, rest)
    else if b < 0x20 then none
    else do
      let (ps, rest) ← pieces rest
      return (.byte b :: ps, rest)

/-- Whether a code unit is the first of a surrogate pair. -/
def isHighSurrogate (n : Nat) : Bool := 0xd800 ≤ n && n < 0xdc00

/-- Whether a code unit is the second of a surrogate pair. -/
def isLowSurrogate (n : Nat) : Bool := 0xdc00 ≤ n && n < 0xe000

def ofSurrogates (high low : Nat) : Nat := 0x10000 + 0x400 * (high - 0xd800) + (low - 0xdc00)

/-- The bytes of a string, when each surrogate belongs to a pair. -/
def contentBytes? : List Piece → Option Bytes
  | [] => some []
  | .byte b :: rest => do return b :: (← contentBytes? rest)
  | .unit n :: rest =>
    if isHighSurrogate n then match rest with
      | .unit m :: rest =>
        if isLowSurrogate m then do
          return String.utf8EncodeChar (.ofNat (ofSurrogates n m)) ++ (← contentBytes? rest)
        else none
      | _ => none
    else if isLowSurrogate n then none
    else do return String.utf8EncodeChar (.ofNat n) ++ (← contentBytes? rest)

def contentText? (ps : List Piece) : Option String := (contentBytes? ps).bind Bytes.text?

/-! ## Numerals -/

def digits (input : Bytes) : List Nat × Bytes :=
  (input.takeWhile (digit? · |>.isSome) |>.filterMap digit?,
    input.dropWhile (digit? · |>.isSome))

/-- One digit at least. -/
def someDigits (input : Bytes) : Option (List Nat × Bytes) :=
  match digits input with
  | ([], _) => none
  | read => some read

/-- The digits before the point. A zero stands alone. -/
def wholePart (input : Bytes) : Option (List Nat × Bytes) :=
  match digits input with
  | ([], _) => none
  | (0 :: _ :: _, _) => none
  | read => some read

/-- The point and the digits behind it, if there is one. -/
def fractionPart (input : Bytes) : Option (Option (List Nat) × Bytes) :=
  match input with
  | [] => some (none, [])
  | b :: rest =>
    if b = ascii '.' then do
      let (ds, rest) ← someDigits rest
      return (some ds, rest)
    else some (none, input)

/-- A sign, if there is one: whether it is a minus sign. -/
def signPart (input : Bytes) : Bool × Bytes :=
  match input with
  | [] => (false, [])
  | b :: rest =>
    if b = ascii '-' then (true, rest) else if b = ascii '+' then (false, rest) else (false, input)

def exponentPart (input : Bytes) : Option (Option (Bool × List Nat) × Bytes) :=
  match input with
  | [] => some (none, [])
  | b :: rest =>
    if b = ascii 'e' ∨ b = ascii 'E' then do
      let (negative, rest) := signPart rest
      let (ds, rest) ← someDigits rest
      return (some (negative, ds), rest)
    else some (none, input)

def numeral (input : Bytes) : Option (Numeral × Bytes) := do
  let (negative, rest) := match input with
    | [] => (false, [])
    | b :: rest => if b = ascii '-' then (true, rest) else (false, input)
  let (whole, rest) ← wholePart rest
  let (fraction, rest) ← fractionPart rest
  let (exponent, rest) ← exponentPart rest
  return (⟨negative, whole, fraction, exponent⟩, rest)

/-! ## Values -/

def afterWord (word : String) (input : Bytes) : Option Bytes :=
  if (utf8 word).isPrefixOf input then some (input.drop (utf8 word).length) else none

/-- A value that is neither a string nor a container. -/
def scalar (input : Bytes) : Option (Document × Bytes) :=
  match afterWord "null" input with
  | some rest => some (.null, rest)
  | none => match afterWord "true" input with
    | some rest => some (.boolean true, rest)
    | none => match afterWord "false" input with
      | some rest => some (.boolean false, rest)
      | none => do
        let (n, rest) ← numeral input
        return (n.document, rest)

/-- A key and the colon behind it. A key that is no text is none. -/
def key (input : Bytes) : Option (Option String × Bytes) :=
  match input with
  | [] => none
  | b :: rest =>
    if b = ascii '"' then do
      let (ps, rest) ← pieces rest
      match dropBlanks rest with
      | c :: rest => if c = ascii ':' then some (contentText? ps, rest) else none
      | [] => none
    else none

/-- What stands between two values of a container: true for its end, false for a comma. -/
def separator (closing : UInt8) (input : Bytes) : Option (Bool × Bytes) :=
  match dropBlanks input with
  | [] => none
  | b :: rest =>
    if b = closing then some (true, rest)
    else if b = ascii ',' then some (false, rest)
    else none

/-- What follows a container that ends at once. -/
def afterEmpty (closing : UInt8) (input : Bytes) : Option Bytes :=
  match dropBlanks input with
  | [] => none
  | b :: rest => if b = closing then some rest else none

mutual

/-- A value, with the blanks before it. A value and each comma take a byte at least, so twice as
much fuel as there are bytes is enough. -/
def value : Nat → Bytes → Option (Document × Bytes)
  | 0, _ => none
  | fuel + 1, input =>
    match dropBlanks input with
    | [] => none
    | b :: rest =>
      if b = ascii '"' then do
        let (ps, rest) ← pieces rest
        return ((contentText? ps).elim .unreadable .text, rest)
      else if b = ascii '[' then match afterEmpty (ascii ']') rest with
        | some rest => some (.list [], rest)
        | none => do
          let (ds, rest) ← items fuel rest
          return (.list ds, rest)
      else if b = ascii '\x7b' then match afterEmpty (ascii '\x7d') rest with
        | some rest => some (.table [], rest)
        | none => do
          let (es, rest) ← members fuel rest
          return (.table es, rest)
      else scalar (b :: rest)

/-- The values of an array up to its end, one at least. -/
def items : Nat → Bytes → Option (List Document × Bytes)
  | 0, _ => none
  | fuel + 1, input => do
    let (d, rest) ← value fuel input
    let (last, rest) ← separator (ascii ']') rest
    if last then return ([d], rest)
    let (ds, rest) ← items fuel rest
    return (d :: ds, rest)

/-- The members of an object up to its end, one at least. -/
def members : Nat → Bytes → Option (List (Option String × Document) × Bytes)
  | 0, _ => none
  | fuel + 1, input => do
    let (k, rest) ← key (dropBlanks input)
    let (d, rest) ← value fuel rest
    let (last, rest) ← separator (ascii '\x7d') rest
    if last then return ([(k, d)], rest)
    let (es, rest) ← members fuel rest
    return ((k, d) :: es, rest)

end

def read? (input : Bytes) : Option Document := do
  let (d, rest) ← value (2 * input.length + 2) input
  if (dropBlanks rest).isEmpty then some d else none

/-- What records and choices may be written as: nothing but `null` stands under a choice. -/
def form : Document.RecordForm where
  ignoresExtraItems := false
  isUnit d := d matches .null

end Enrolment.Json
