/-!
# Enrolment.Text.Blank

The blank characters: those with the Unicode property `White_Space`, in every plane and not in
ASCII alone. An endpoint made of blanks is empty, a client identifier may hold none, and a
timestamp may be padded with them.
-/

namespace Enrolment.Text

/-- The characters with the property `White_Space`. -/
def isBlank (c : Char) : Bool :=
  let n := c.toNat
  (0x09 ≤ n && n ≤ 0x0d) || n == 0x20 || n == 0x85 || n == 0xa0 || n == 0x1680 ||
    (0x2000 ≤ n && n ≤ 0x200a) || n == 0x2028 || n == 0x2029 || n == 0x202f || n == 0x205f ||
    n == 0x3000

def isAllBlank (s : String) : Bool := s.toList.all isBlank

def hasBlank (s : String) : Bool := s.toList.any isBlank

def dropBlanks (cs : List Char) : List Char := cs.dropWhile isBlank

end Enrolment.Text
