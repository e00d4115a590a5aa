import Enrolment.Bytes

/-!
# Enrolment.Cbor.Reader

Reading the binary object representation one item at a time. The first byte of an item holds its
major type in the upper three bits and a number in the lower five, which is the argument itself, or
says in how many bytes the argument follows, or, as 31, that the length is indefinite.

A reader takes a `Cursor`, the bytes that are left and the offset of the first, and returns the
value and the cursor behind it. An error names the offset of the item that was refused, except when
the input ends.

Naming the type of a negative integer with a longer argument needs one byte of that argument. Where
it is missing the input has ended, and this is what is reported, even if the item is refused for
its type: `kindAt` needs the byte behind the head, and `mismatch`, which looks from one byte
further on, the byte after that.
-/

namespace Enrolment.Cbor

inductive ReadError
  | endOfInput
  | typeMismatch (pos : Nat)
  | invalidUtf8 (pos : Nat)
  deriving DecidableEq, Repr

/-- The bytes that are left, and the offset of the first of them. -/
structure Cursor where
  pos : Nat
  rest : Bytes
  deriving DecidableEq, Repr

abbrev Reader (α : Type) := Cursor → Except ReadError (α × Cursor)

namespace Cursor

def ofBytes (b : Bytes) : Cursor := ⟨0, b⟩

def advance (c : Cursor) (n : Nat) : Cursor := ⟨c.pos + n, c.rest.drop n⟩

end Cursor

/-! ## Heads -/

def majorOf (b : UInt8) : Nat := b.toNat / 32

/-- The number in the first byte of an item. -/
def infoOf (b : UInt8) : Nat := b.toNat % 32

/-- The major types that the readers tell apart. -/
def majorBytes : Nat := 2
def majorText : Nat := 3
def majorArray : Nat := 4
def majorMap : Nat := 5

/-- The number of an item whose length is indefinite. -/
def indefinite : Nat := 31

/-- The byte that ends an item of indefinite length. -/
def breakByte : UInt8 := 0xff

def byte : Reader UInt8 := fun c =>
  match c.rest with
  | [] => .error .endOfInput
  | b :: _ => .ok (b, c.advance 1)

def take (n : Nat) : Reader Bytes := fun c =>
  if c.rest.length < n then .error .endOfInput else .ok (c.rest.take n, c.advance n)

def ofBigEndian (b : Bytes) : Nat := b.foldl (fun n d => 256 * n + d.toNat) 0

def number (n : Nat) : Reader Nat := fun c => do
  let (b, c) ← take n c
  return (ofBigEndian b, c)

/-- The argument of the item at `pos`, whose first byte, already read, held the number `info`. -/
def argument (info pos : Nat) : Reader Nat := fun c =>
  if info < 24 then .ok (info, c)
  else if info = 24 then number 1 c
  else if info = 25 then number 2 c
  else if info = 26 then number 4 c
  else if info = 27 then number 8 c
  else .error (.typeMismatch pos)

/-- Whether naming the type of an item needs the byte behind its first one. -/
def namesByNextByte (b : UInt8) : Bool := 0x38 ≤ b.toNat && b.toNat ≤ 0x3b

/-- The refusal of the item at `pos` for its type, after its first byte `b` has been read. -/
def mismatch (b : UInt8) (pos : Nat) (c : Cursor) : ReadError :=
  if namesByNextByte b && c.rest.length < 2 then .endOfInput else .typeMismatch pos

/-! ## Kinds -/

/-- What the first byte of an item says, as far as the payloads tell items apart. -/
inductive Kind
  | text
  | indefiniteText
  | indefiniteBytes
  | indefiniteArray
  | indefiniteMap
  | other
  deriving DecidableEq, Repr

def Kind.ofByte (b : UInt8) : Kind :=
  if infoOf b = indefinite then
    if majorOf b = majorText then indefiniteText
    else if majorOf b = majorBytes then indefiniteBytes
    else if majorOf b = majorArray then indefiniteArray
    else if majorOf b = majorMap then indefiniteMap
    else other
  else if majorOf b = majorText ∧ infoOf b < 28 then text
  else other

def kindAt (c : Cursor) : Except ReadError Kind :=
  match c.rest with
  | [] => .error .endOfInput
  | b :: rest => if namesByNextByte b && rest.isEmpty then .error .endOfInput else .ok (.ofByte b)

/-! ## Values -/

/-- The content of a byte or text string of definite length, whose major type is given. -/
def definiteString (major : Nat) : Reader Bytes := fun c => do
  let (b, c') ← byte c
  if majorOf b ≠ major ∨ infoOf b = indefinite then throw (mismatch b c.pos c')
  let (length, c') ← argument (infoOf b) c.pos c'
  take length c'

def text : Reader String := fun c => do
  let (content, c') ← definiteString majorText c
  match content.text? with
  | some s => return (s, c')
  | none => throw (.invalidUtf8 c.pos)

/-- The number of elements or entries of an array or a map, whose major type is given; none if it
is indefinite. -/
def containerLength (major : Nat) : Reader (Option Nat) := fun c => do
  let (b, c') ← byte c
  if majorOf b ≠ major then throw (mismatch b c.pos c')
  if infoOf b = indefinite then return (none, c')
  let (length, c') ← argument (infoOf b) c.pos c'
  return (some length, c')

def mapLength : Reader (Option Nat) := containerLength majorMap

/-- An unsigned integer below `2^16`, and the cursor behind what was read of the item, whether or
not it is one. The argument of an unsigned integer is read in full and then compared; of any other
item only the first byte is read. -/
def word16 (c : Cursor) : Option Nat × Cursor :=
  match byte c with
  | .error _ => (none, c)
  | .ok (b, c') =>
    if majorOf b ≠ 0 then (none, c')
    else match argument (infoOf b) c.pos c' with
      | .error _ => (none, c')
      | .ok (n, c'') => (if n < 0x10000 then some n else none, c'')

end Enrolment.Cbor
