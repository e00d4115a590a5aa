import Enrolment.Bytes

/-!
# Enrolment.Cbor.Writer

Writing the binary object representation: heads with the shortest argument, texts, and maps whose
keys and values are texts. A map is its head followed by its entries, so maps nest by appending.
-/

namespace Enrolment.Cbor

/-- The last `count` bytes of `n`, the most significant first. -/
def toBigEndian : Nat → Nat → Bytes
  | 0, _ => []
  | count + 1, n => UInt8.ofNat (n >>> (8 * count)) :: toBigEndian count n

def firstByte (major info : Nat) : UInt8 := UInt8.ofNat (32 * major + info)

/-- The head of an item of major type `major`, with the argument `n` in as few bytes as hold it. -/
def head (major n : Nat) : Bytes :=
  if n < 24 then [firstByte major n]
  else if n < 0x100 then firstByte major 24 :: toBigEndian 1 n
  else if n < 0x10000 then firstByte major 25 :: toBigEndian 2 n
  else if n < 0x100000000 then firstByte major 26 :: toBigEndian 4 n
  else firstByte major 27 :: toBigEndian 8 n

def writeText (s : String) : Bytes := head 3 (utf8 s).length ++ utf8 s

def writeMapHead (n : Nat) : Bytes := head 5 n

def writeEntry (entry : String × String) : Bytes := writeText entry.1 ++ writeText entry.2

def writeTextMap (entries : List (String × String)) : Bytes :=
  writeMapHead entries.length ++ entries.flatMap writeEntry

end Enrolment.Cbor
