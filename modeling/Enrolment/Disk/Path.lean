import Enrolment.Text.Split

/-!
# Enrolment.Disk.Path

Paths as texts: names between slashes. Names that are empty or a single dot stay where they are, and
two dots go one directory up.
-/

namespace Enrolment.Path

def isAbsolute (path : String) : Bool := path.toList.head? = some '/'

def endsInSlash (path : String) : Bool := path.toList.getLast? = some '/'

/-- The path of `name` in a directory. A `name` that is absolute leaves the directory aside. -/
def join (directory name : String) : String :=
  if isAbsolute name || directory = "" then name
  else if endsInSlash directory then directory ++ name
  else directory ++ "/" ++ name

/-- Whether a name between slashes stays where it is. -/
def isIdle (name : String) : Bool := name = "" || name = "."

/-- The names of a path that lead somewhere. A dot at the start is kept. -/
def significant : List String → List String
  | "." :: rest => "." :: rest.filter fun name => !isIdle name
  | names => names.filter fun name => !isIdle name

/-- The name of the file that a path leads to, if it ends in a name. -/
def fileName? (path : String) : Option String :=
  match (significant (Text.split '/' path)).getLast? with
  | some name => if name = ".." || name = "." then none else some name
  | none => none

/-- What stands behind the last dot of the file's name, unless that dot is its first character. -/
def extension? (path : String) : Option String := do
  let name ← fileName? path
  match (Text.split '.' name).reverse with
  | last :: stem => if stem.isEmpty || stem = [""] then none else some last
  | [] => none

end Enrolment.Path
