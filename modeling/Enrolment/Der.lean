import Enrolment.Bytes

/-!
# Enrolment.Der

The outline of the binary structures that certificates and keys are kept in: which items of which
tags stand in which order. An item is a tag, a length and a content of that length. What the
items mean is for whoever uses them.
-/

namespace Enrolment.Der

structure Item where
  tag : UInt8
  content : Bytes
  deriving DecidableEq, Repr

/-- The tags that outlines name. -/
def integerTag : UInt8 := 0x02
def bitStringTag : UInt8 := 0x03
def octetStringTag : UInt8 := 0x04
def sequenceTag : UInt8 := 0x30

/-- A length and what follows it. A short length is the byte itself; of a long one the byte says
how many bytes write it. -/
def length? : Bytes → Option (Nat × Bytes)
  | [] => none
  | b :: rest =>
    if b.toNat < 0x80 then some (b.toNat, rest)
    else
      let count := b.toNat - 0x80
      if count = 0 ∨ 4 < count ∨ rest.length < count then none
      else some ((rest.take count).foldl (fun n d => 256 * n + d.toNat) 0, rest.drop count)

def item? : Bytes → Option (Item × Bytes)
  | [] => none
  | tag :: rest => do
    let (length, rest) ← length? rest
    if rest.length < length then none else return (⟨tag, rest.take length⟩, rest.drop length)

/-- The items of a content. Each takes a byte at least, so as much fuel as there are bytes is
enough. -/
def itemsWith : Nat → Bytes → Option (List Item)
  | 0, b => if b.isEmpty then some [] else none
  | fuel + 1, b =>
    if b.isEmpty then some []
    else do
      let (item, rest) ← item? b
      return item :: (← itemsWith fuel rest)

def items? (b : Bytes) : Option (List Item) := itemsWith b.length b

/-- The items of the one sequence that some bytes consist of. -/
def sequence? (b : Bytes) : Option (List Item) := do
  let (item, rest) ← item? b
  if item.tag = sequenceTag ∧ rest = [] then items? item.content else none

/-- Whether some bytes have the outline of a certificate: what is signed, the algorithm, and the
signature. -/
def isCertificate (b : Bytes) : Bool :=
  match sequence? b with
  | some [signed, algorithm, signature] =>
    signed.tag == sequenceTag && algorithm.tag == sequenceTag && signature.tag == bitStringTag
  | _ => false

/-- Whether some bytes have the outline of a private key: with its algorithm beside it, as the nine
numbers of an RSA key, or as an elliptic-curve key. -/
def isPrivateKey (b : Bytes) : Bool :=
  match sequence? b with
  | some (version :: rest) => version.tag == integerTag && match rest with
    | algorithm :: key :: _ =>
      (algorithm.tag == sequenceTag && key.tag == octetStringTag) ||
        (rest.length == 8 && rest.all (·.tag == integerTag)) ||
        algorithm.tag == octetStringTag
    | _ => false
  | _ => false

end Enrolment.Der
