import Enrolment.Bytes

/-!
# Enrolment.Json.Writer

Writing JSON text: strings, and objects whose members are written already. A string escapes the
quote, the backslash and the characters below the space, and nothing else. An object stands on one
line without blanks, or has a line for each member, indented by two blanks for each object around
it.
-/

namespace Enrolment.Json

def escape (c : Char) : List Char :=
  if c = '"' || c = '\\' then ['\\', c]
  else if c = '\x08' then ['\\', 'b']
  else if c = '\x0c' then ['\\', 'f']
  else if c = '\n' then ['\\', 'n']
  else if c = '\r' then ['\\', 'r']
  else if c = '\t' then ['\\', 't']
  else if c.toNat < 0x20 then
    ['\\', 'u', '0', '0', Nat.digitChar (c.toNat / 16), Nat.digitChar (c.toNat % 16)]
  else [c]

def string (s : String) : String := String.ofList ('"' :: s.toList.flatMap escape ++ ['"'])

def compactObject (members : List (String × String)) : String :=
  "\x7b" ++ String.intercalate "," (members.map fun m => string m.1 ++ ":" ++ m.2) ++ "\x7d"

/-- The blanks at the start of a line inside `depth` objects. -/
def indentation (depth : Nat) : String := String.ofList (List.replicate (2 * depth) ' ')

/-- An object with a line for each member, inside `depth` other objects. -/
def object (depth : Nat) (members : List (String × String)) : String :=
  if members.isEmpty then "\x7b\x7d"
  else
    let lines := members.map fun m => indentation (depth + 1) ++ string m.1 ++ ": " ++ m.2
    "\x7b\n" ++ String.intercalate ",\n" lines ++ "\n" ++ indentation depth ++ "\x7d"

end Enrolment.Json
