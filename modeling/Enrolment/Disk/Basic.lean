import Enrolment.Bytes
import Enrolment.Disk.Path

/-!
# Enrolment.Disk.Basic

A tree of files and directories, and the operations on it that a run performs. A place in the tree
is the list of the names that lead to it from the root. An operation takes a path, which starts at
the root or at the working directory and is followed name by name: every name but the last must
lead to a directory. It fails with the fault that is met first.

* `find?_set`: setting an entry changes the entry at its place and no other.
-/

namespace Enrolment

inductive DiskFault
  | notFound
  | alreadyExists
  | notADirectory
  | isADirectory
  | nameTooLong
  /-- A path with a NUL character. -/
  | invalidPath
  deriving DecidableEq, Repr

def DiskFault.message : DiskFault → String
  | notFound => "No such file or directory (os error 2)"
  | alreadyExists => "File exists (os error 17)"
  | notADirectory => "Not a directory (os error 20)"
  | isADirectory => "Is a directory (os error 21)"
  | nameTooLong => "File name too long (os error 36)"
  | invalidPath => "file name contained an unexpected NUL byte"

/-- Who may read and write a file: only its owner, or, for reading, everyone. -/
inductive FileMode
  | ownerOnly
  | shared
  deriving DecidableEq, Repr

/-- What stands at a place. -/
inductive DiskEntry
  | file (mode : FileMode) (content : Bytes)
  | directory
  deriving DecidableEq, Repr

/-- The names that lead to an entry from the root. -/
abbrev Place := List String

structure Disk where
  entries : List (Place × DiskEntry)
  workingDirectory : Place
  deriving Repr

namespace Disk

/-- The entry at a place. There is always a root. -/
def find? (d : Disk) (place : Place) : Option DiskEntry :=
  if place = [] then some .directory else d.entries.lookup place

def setEntry (place : Place) (entry : DiskEntry) :
    List (Place × DiskEntry) → List (Place × DiskEntry)
  | [] => [(place, entry)]
  | (p, e) :: rest => if p = place then (p, entry) :: rest else (p, e) :: setEntry place entry rest

def set (d : Disk) (place : Place) (entry : DiskEntry) : Disk :=
  { d with entries := setEntry place entry d.entries }

theorem lookup_setEntry (place : Place) (entry : DiskEntry) (entries : List (Place × DiskEntry))
    (p : Place) :
    (setEntry place entry entries).lookup p =
      if p = place then some entry else entries.lookup p := by
  induction entries with
  | nil =>
    by_cases h : p = place
    · simp [setEntry, h]
    · simp [setEntry, h, List.lookup_cons, beq_false_of_ne h]
  | cons e rest ih =>
    obtain ⟨q, e⟩ := e
    simp only [setEntry]
    by_cases hq : q = place
    · subst hq
      by_cases h : p = q
      · simp [h]
      · simp [h, List.lookup_cons, beq_false_of_ne h]
    · by_cases h : p = q
      · subst h
        simp [hq]
      · rw [if_neg hq, List.lookup_cons, beq_false_of_ne h]
        simpa [List.lookup_cons, beq_false_of_ne h] using ih

theorem find?_set {d : Disk} {place : Place} {entry : DiskEntry} (h : place ≠ []) (p : Place) :
    (d.set place entry).find? p = if p = place then some entry else d.find? p := by
  simp only [find?, set, lookup_setEntry]
  by_cases hp : p = []
  · subst hp
    simp [Ne.symm h]
  · simp [hp]

/-! ## Following a path -/

def maxName : Nat := 255

def maxPath : Nat := 4095

def child (place : Place) (name : String) : Place :=
  if Path.isIdle name then place else if name = ".." then place.dropLast else place ++ [name]

/-- Goes from a directory to the directory that a name leads to. -/
def enter (d : Disk) (place : Place) (name : String) : Except DiskFault Place :=
  if maxName < name.utf8ByteSize then .error .nameTooLong
  else match d.find? (child place name) with
    | none => .error .notFound
    | some (.file ..) => .error .notADirectory
    | some .directory => .ok (child place name)

def start (d : Disk) (path : String) : Place :=
  if Path.isAbsolute path then [] else d.workingDirectory

/-- Follows all names but the last, and then to the place where the last one leads, whether or not
there is something. -/
def followTo (d : Disk) (place : Place) : List String → Except DiskFault Place
  | [] => .error .notFound
  | [name] =>
    if maxName < name.utf8ByteSize then .error .nameTooLong else .ok (child place name)
  | name :: rest => do followTo d (← d.enter place name) rest

def follow (d : Disk) (path : String) : Except DiskFault Place :=
  if '\x00' ∈ path.toList then .error .invalidPath
  else if path = "" then .error .notFound
  else if maxPath < path.utf8ByteSize then .error .nameTooLong
  else d.followTo (d.start path) (Text.split '/' path)

/-! ## Operations -/

def pathExists (d : Disk) (path : String) : Bool :=
  match d.follow path with
  | .ok place => (d.find? place).isSome
  | .error _ => false

def isDirectory (d : Disk) (path : String) : Bool :=
  match d.follow path with
  | .ok place => d.find? place = some .directory
  | .error _ => false

def read (d : Disk) (path : String) : Except DiskFault Bytes := do
  match d.find? (← d.follow path) with
  | none => throw .notFound
  | some .directory => throw .isADirectory
  | some (.file _ content) => return content

/-- Replaces the content of a file. A new file gets the mode; one that exists keeps its own. -/
def write (d : Disk) (path : String) (mode : FileMode) (content : Bytes) :
    Except DiskFault Disk := do
  -- A path that ends in a slash asks for a directory.
  if Path.endsInSlash path then throw .isADirectory
  let place ← d.follow path
  match d.find? place with
  | none => return d.set place (.file mode content)
  | some .directory => throw .isADirectory
  | some (.file mode _) => return d.set place (.file mode content)

/-- The path without the slashes at its end, but for the root. -/
def withoutSlashes (path : String) : String :=
  match path.toList.reverse.dropWhile (· = '/') with
  | [] => path
  | cs => String.ofList cs.reverse

def makeDirectory (d : Disk) (path : String) : Except DiskFault Disk := do
  let place ← d.follow (withoutSlashes path)
  match d.find? place with
  | none => return d.set place .directory
  | some _ => throw .alreadyExists

/-- The path of the directory that holds what a path leads to. -/
def parentPath (path : String) : String :=
  let names := Path.significant (Text.split '/' path)
  (if Path.isAbsolute path then "/" else "") ++ String.intercalate "/" names.dropLast

/-- Makes a directory and those above it that are missing. What was made before a fault stays. Each
round has a shorter path, so as much fuel as it has characters is enough. -/
def makeDirectoriesWith : Nat → Disk → String → Except DiskFault Unit × Disk
  | 0, d, _ => (.ok (), d)
  | fuel + 1, d, path =>
    if path = "" then (.ok (), d)
    else match d.makeDirectory path with
      | .ok d => (.ok (), d)
      | .error .notFound =>
        match makeDirectoriesWith fuel d (parentPath path) with
        | (.error fault, d) => (.error fault, d)
        | (.ok (), d) => match d.makeDirectory path with
          | .ok d => (.ok (), d)
          | .error fault => (if d.isDirectory path then .ok () else .error fault, d)
      | .error fault => (if d.isDirectory path then .ok () else .error fault, d)

/-- Makes a directory and those above it that are missing. -/
def makeDirectories (d : Disk) (path : String) : Except DiskFault Unit × Disk :=
  makeDirectoriesWith (path.length + 1) d path

/-! ## Listing -/

/-- The path of a file below the working directory. -/
def relativePath? (d : Disk) : Place × DiskEntry → Option String
  | (place, .file ..) =>
    if d.workingDirectory.isPrefixOf place then
      some (String.intercalate "/" (place.drop d.workingDirectory.length))
    else none
  | (_, .directory) => none

/-- The paths of all files below the working directory, in ascending order. -/
def files (d : Disk) : List String := (d.entries.filterMap d.relativePath?).mergeSort (· ≤ ·)

end Disk

end Enrolment
