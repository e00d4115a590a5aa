import Enrolment.Toml.Date
import Enrolment.Toml.Numeral
import Enrolment.Toml.Table

/-!
# Enrolment.Toml.Reader

Reading a TOML text. A text consists of lines; each is empty, a header, or a key with its value,
and any may end in a comment. The entries before the first header belong to the whole document, and
those behind a header to the table that it opens. Values may be nested less than 80 deep, and a
key has less than 80 parts.
-/

namespace Enrolment.Toml

/-- The least depth of containers, and the least number of parts of a key, that is too great. -/
def nestingBound : Nat := 80

/-! ## Keys -/

def isKeyChar (c : Char) : Bool := c.isAlphanum || c == '_' || c == '-'

def keyPart (cs : List Char) : Option (String × List Char) :=
  match cs with
  | '"' :: _ | '\'' :: _ => lineString cs
  | _ => match cs.takeWhile isKeyChar with
    | [] => none
    | name => some (String.ofList name, cs.drop name.length)

/-- The parts of a key, with blanks around them. Each takes a character at least, so as much fuel
as there are characters is enough. -/
def keyParts : Nat → Scan (List String)
  | 0, _ => none
  | fuel + 1, cs => do
    let (part, rest) ← keyPart (dropBlanks cs)
    match dropBlanks rest with
    | '.' :: rest =>
      let (parts, rest) ← keyParts fuel rest
      return (part :: parts, rest)
    | rest => return ([part], rest)

/-- A key: the parts before the last one, and the last one. -/
def key (cs : List Char) : Option ((List String × String) × List Char) := do
  let (parts, rest) ← keyParts (cs.length + 1) cs
  if nestingBound ≤ parts.length then none
  else return ((parts.dropLast, ← parts.getLast?), rest)

/-! ## Values -/

/-- A value that is neither a string nor a container. -/
def scalar (cs : List Char) : Option (Document × List Char) :=
  match afterWord "true" cs with
  | some rest => some (.boolean true, rest)
  | none => match afterWord "false" cs with
    | some rest => some (.boolean false, rest)
    | none => dateValue cs <|> numeral cs

mutual

/-- A value inside `depth` containers. A value and each separator take a character at least, so
twice as much fuel as there are characters is enough. -/
def value : Nat → (depth : Nat) → Scan Document
  | 0, _, _ => none
  | fuel + 1, depth, cs =>
    match cs with
    | [] => none
    | c :: rest =>
      if c = '"' ∨ c = '\'' then do
        let (s, rest) ← anyString cs
        return (.text s, rest)
      else if c = '[' then
        if nestingBound ≤ depth + 1 then none
        else do
          let (items, rest) ← items fuel (depth + 1) rest
          return (.list items, rest)
      else if c = '\x7b' then
        if nestingBound ≤ depth + 1 then none
        else match dropBlanks rest with
          | '\x7d' :: rest => some (.table [], rest)
          | rest => do
            let (table, rest) ← pairs fuel (depth + 1) (.empty .opened) rest
            return (table.toDocument, rest)
      else scalar cs

/-- The values of an array up to its end. A comma may stand behind the last one. -/
def items : Nat → (depth : Nat) → Scan (List Document)
  | 0, _, _ => none
  | fuel + 1, depth, cs =>
    match dropLayout false cs with
    | ']' :: rest => some ([], rest)
    | cs => do
      let (d, rest) ← value fuel depth cs
      match dropLayout false rest with
      | ']' :: rest => return ([d], rest)
      | ',' :: rest =>
        let (ds, rest) ← items fuel depth rest
        return (d :: ds, rest)
      | _ => none

/-- The entries of a table on one line up to its end, one at least, added to `table`. -/
def pairs : Nat → (depth : Nat) → (table : Table) → Scan Table
  | 0, _, _, _ => none
  | fuel + 1, depth, table, cs => do
    let ((path, last), rest) ← key cs
    let rest ← afterChar '=' rest
    let (d, rest) ← value fuel depth (dropBlanks rest)
    let table ← table.insertDotted path last d
    match dropBlanks rest with
    | '\x7d' :: rest => return (table, rest)
    | ',' :: rest => pairs fuel depth table rest
    | _ => none

end

/-! ## Lines -/

inductive Line
  /-- A header, of a table or of one more table in a list. -/
  | header (inList : Bool) (path : List String) (key : String)
  | entry (path : List String) (key : String) (value : Document)

def header (cs : List Char) : Option (Line × List Char) :=
  match cs with
  | '[' :: '[' :: rest => do
    let ((path, last), rest) ← key rest
    return (.header true path last, ← afterWord "]]" rest)
  | '[' :: rest => do
    let ((path, last), rest) ← key rest
    return (.header false path last, ← afterChar ']' rest)
  | _ => none

def entry (cs : List Char) : Option (Line × List Char) := do
  let ((path, last), rest) ← key cs
  let rest := dropBlanks (← afterChar '=' rest)
  let (d, rest) ← value (2 * rest.length + 2) 0 rest
  return (.entry path last d, rest)

/-- The lines of a text that say something. Each takes a character at least, so as much fuel as
there are characters is enough. -/
def lines : Nat → List Char → Option (List Line)
  | 0, cs => if cs.isEmpty then some [] else none
  | fuel + 1, cs =>
    match dropBlanks cs with
    | [] => some []
    | cs => match afterLine cs with
      | some rest => lines fuel rest
      | none => do
        let (line, rest) ← if cs.head? = some '[' then header cs else entry cs
        return line :: (← lines fuel (← afterLine rest))

/-! ## Documents -/

/-- The document read so far, and the table that is being filled. -/
structure Progress where
  root : Table
  /-- The header of the table that is being filled, unless it is the document itself. -/
  header : Option (Bool × List String × String)
  current : Table

namespace Progress

/-- Puts the table that is being filled in its place. -/
def close (p : Progress) : Option Table :=
  match p.header with
  | none => some p.current
  | some (inList, path, key) => p.root.place inList path key p.current.entries

def add (p : Progress) : Line → Option Progress
  | .entry path key value => do
    return { p with current := ← p.current.insertDotted path key value }
  | .header inList path key => do
    let root ← p.close
    let entries ← root.opening inList path key
    return ⟨root, some (inList, path, key), ⟨.opened, entries⟩⟩

end Progress

def ofLines (ls : List Line) : Option Document := do
  let p ← ls.foldlM Progress.add ⟨.empty .opened, none, .empty .opened⟩
  return (← p.close).toDocument

/-- The byte order mark, which may stand before a text. -/
def byteOrderMark : Char := '\ufeff'

def read? (text : String) : Option Document := do
  let cs := match text.toList with
    | c :: rest => if c = byteOrderMark then rest else c :: rest
    | [] => []
  ofLines (← lines (cs.length + 1) cs)

/-- What records and choices may be written as: a list for a record may be longer than the record,
and an empty container stands under a choice. -/
def form : Document.RecordForm where
  ignoresExtraItems := true
  isUnit
    | .table [] | .list [] => true
    | _ => false

end Enrolment.Toml
