import Enrolment.Document

/-!
# Enrolment.Toml.Table

How tables come about. A table is opened by a header, implied by a header that names it on the way
to another, or made by the dots of a key. What a text may still add to it depends on that: a header
may open an implied table once, dots lead through the tables that they made and through implied
ones, but only the former take a value, and a value takes nothing. A path that meets a list of
tables leads to the last one of them.
-/

namespace Enrolment.Toml

/-- How a table came about. -/
inductive TableKind
  | opened
  | implied
  | dotted
  deriving DecidableEq, Repr

/-- What stands under a key while a text is being read. -/
inductive Node
  | value (d : Document)
  | table (kind : TableKind) (entries : List (String × Node))
  /-- A list of tables, each of which was opened. -/
  | tables (items : List (List (String × Node)))

/-- A table while a text is being read. -/
structure Table where
  kind : TableKind
  entries : List (String × Node)

namespace Table

def empty (kind : TableKind) : Table := ⟨kind, []⟩

def find? (t : Table) (key : String) : Option Node := t.entries.lookup key

/-- The entries with `node` under `key`. -/
def setEntry (key : String) (node : Node) : List (String × Node) → List (String × Node)
  | [] => [(key, node)]
  | (k, n) :: rest => if k = key then (key, node) :: rest else (k, n) :: setEntry key node rest

def set (t : Table) (key : String) (node : Node) : Table :=
  { t with entries := setEntry key node t.entries }

def erase (t : Table) (key : String) : Table :=
  { t with entries := t.entries.filter fun e => e.1 ≠ key }

def toNode (t : Table) : Node := .table t.kind t.entries

/-- Changes the table at the end of a path, and makes those that are missing on the way: by dots if
`byDots`, and otherwise as implied ones. Dots do not lead through an opened table. -/
def modify (byDots : Bool) (change : Table → Option Table) : List String → Table → Option Table
  | [], t => change t
  | key :: path, t =>
    match t.find? key with
    | none => do
      let child ← modify byDots change path (.empty (if byDots then .dotted else .implied))
      return t.set key child.toNode
    | some (.value _) => none
    | some (.table kind entries) =>
      if byDots && kind = .opened then none
      else do
        let child ← modify byDots change path ⟨kind, entries⟩
        return t.set key child.toNode
    | some (.tables items) =>
      match items.reverse with
      | [] => none
      | last :: before => do
        let child ← modify byDots change path ⟨.opened, last⟩
        return t.set key (.tables (before.reverse ++ [child.entries]))

/-- Puts a value under a dotted key, which must be new. The table that it stands in must be the one
that the dots lead to, and made by dots, or the table that is being filled, without any. -/
def insertDotted (t : Table) (path : List String) (key : String) (value : Document) :
    Option Table :=
  let insert (u : Table) : Option Table :=
    if (u.kind = .dotted) = path.isEmpty then none
    else if (u.find? key).isSome then none
    else some (u.set key (.value value))
  t.modify true insert path

/-- What a header opens: the entries that are there before it fills the table. A list gets a table
of its own. -/
def opening (t : Table) (inList : Bool) (path : List String) (key : String) :
    Option (List (String × Node)) :=
  match path with
  | first :: rest => match t.find? first with
    | none => some []
    | some (.value _) => none
    | some (.table kind entries) => opening ⟨kind, entries⟩ inList rest key
    | some (.tables items) => match items.getLast? with
      | none => none
      | some last => opening ⟨.opened, last⟩ inList rest key
  | [] => match t.find? key, inList with
    | none, _ => some []
    | some (.tables _), true => some []
    | some (.table .implied entries), false => some entries
    | _, _ => none

/-- Puts the table that a header opened in its place. -/
def place (t : Table) (inList : Bool) (path : List String) (key : String)
    (entries : List (String × Node)) : Option Table :=
  let put (u : Table) : Option Table :=
    if inList then match u.find? key with
      | none => some (u.set key (.tables [entries]))
      | some (.tables items) => some (u.set key (.tables (items ++ [entries])))
      | _ => none
    else some ((u.erase key).set key (.table .opened entries))
  t.modify false put path

end Table

mutual

def Node.toDocument : Node → Document
  | .value d => d
  | .table _ entries => .table (entriesToDocument entries)
  | .tables items => .list (tablesToDocuments items)

def entriesToDocument : List (String × Node) → List (Option String × Document)
  | [] => []
  | (key, node) :: rest => (some key, node.toDocument) :: entriesToDocument rest

def tablesToDocuments : List (List (String × Node)) → List Document
  | [] => []
  | entries :: rest => .table (entriesToDocument entries) :: tablesToDocuments rest

end

def Table.toDocument (t : Table) : Document := t.toNode.toDocument

end Enrolment.Toml
