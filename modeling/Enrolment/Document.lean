/-!
# Enrolment.Document

Structured text after it has been read: settings, payloads and records are taken from such a tree.
A tree shows more than a value needs, because a reader that passes over a part of it does not look
at what the part means: `unreadable` stands for a text or a number without a value, and a key may
have none.

A record is taken from a tree by `Document.slots`. It is written as a table, in which unknown
keys are passed over and a known one may stand once, or as the list of its fields in the order of
their declaration, which may end early. The readers `Slot.required`, `Slot.optional` and
`Slot.orElse` say what it means that a field is missing.
-/

namespace Enrolment

/-- A tree of structured text. -/
inductive Document
  | null
  | boolean (b : Bool)
  | integer (n : Int)
  /-- A value that no reader takes: a number with a fraction or an exponent, a date, a time. -/
  | other
  /-- A text that does not decode, or a number without a finite value. -/
  | unreadable
  | text (s : String)
  | list (items : List Document)
  /-- Entries in order, repeated ones too; a key that does not decode is none. -/
  | table (entries : List (Option String × Document))
  deriving Repr

namespace Document

/-- What records and choices may be written as, beside tables and names. -/
structure RecordForm where
  /-- Whether a list given for a record may be longer than the record. -/
  ignoresExtraItems : Bool
  /-- What may stand under the name of a choice that carries nothing. -/
  isUnit : Document → Bool

mutual

/-- Whether a tree can be kept as a value: everything in it has one, and containers are nested at
most `allowance` deep. -/
def keepable (allowance : Nat) : Document → Bool
  | unreadable => false
  | list items => 0 < allowance && keepableItems (allowance - 1) items
  | table entries => 0 < allowance && keepableEntries (allowance - 1) entries
  | _ => true

/-- Whether all of some trees can be kept. -/
def keepableItems (allowance : Nat) : List Document → Bool
  | [] => true
  | d :: rest => keepable allowance d && keepableItems allowance rest

/-- Whether all of some entries can be kept. -/
def keepableEntries (allowance : Nat) : List (Option String × Document) → Bool
  | [] => true
  | (key, d) :: rest => key.isSome && keepable allowance d && keepableEntries allowance rest

end

/-! ## Plain values -/

def text? : Document → Option String
  | text s => some s
  | _ => none

/-- A whole number from 0 up to `greatest`. -/
def natUpTo? (greatest : Nat) : Document → Option Nat
  | integer n => if 0 ≤ n ∧ n ≤ greatest then some n.toNat else none
  | _ => none

def texts? : Document → Option (List String)
  | list items => items.mapM text?
  | _ => none

/-- The entries of a table, whose keys must all decode. -/
def entries? : Document → Option (List (String × Document))
  | table entries => entries.mapM fun e => e.1.map (·, e.2)
  | _ => none

/-- An absent value: none for `null`, and otherwise what `read` takes. -/
def orNull {α : Type} (read : Document → Option α) : Document → Option (Option α)
  | null => some none
  | d => (read d).map some

/-- One of several named choices: its name, or a table with the name as its only key and nothing
under it. -/
def choice? {α : Type} (form : RecordForm) (ofName? : String → Option α) : Document → Option α
  | text s => ofName? s
  | table [(some key, d)] => if form.isUnit d then ofName? key else none
  | _ => none

/-! ## Records -/

/-- What a tree holds for a field of a record. -/
inductive Slot
  | given (d : Document)
  /-- A table without the field's name. -/
  | absent
  /-- A list that ended before the field. -/
  | cutOff
  deriving Repr

namespace Slot

/-- A field that must be given. -/
def required {α : Type} (read : Document → Option α) : Slot → Option α
  | given d => read d
  | _ => none

/-- A field that may be null, or absent from a table. -/
def optional {α : Type} (read : Document → Option α) : Slot → Option (Option α)
  | given d => orNull read d
  | absent => some none
  | cutOff => none

/-- A field that has a default. -/
def orElse {α : Type} (default : α) (read : Document → Option α) : Slot → Option α
  | given d => read d
  | _ => some default

end Slot

/-- The entry of a table under `name`: none if there are several. -/
def slotNamed (entries : List (Option String × Document)) (name : String) : Option Slot :=
  match entries.filter fun e => e.1 == some name with
  | [] => some .absent
  | [(_, d)] => some (.given d)
  | _ => none

/-- What is left of a list of items, field by field. -/
def slotsInOrder : List String → List Document → List Slot
  | [], _ => []
  | _ :: names, [] => .cutOff :: slotsInOrder names []
  | _ :: names, d :: items => .given d :: slotsInOrder names items

/-- What a tree holds for the fields of a record, whose names are given in the order of their
declaration. -/
def slots (form : RecordForm) (names : List String) : Document → Option (List Slot)
  | table entries =>
    if entries.all fun e => e.1.isSome then names.mapM (slotNamed entries) else none
  | list items =>
    if form.ignoresExtraItems || items.length ≤ names.length then some (slotsInOrder names items)
    else none
  | _ => none

end Document

end Enrolment
