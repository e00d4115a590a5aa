import Enrolment.Base64

/-!
# Enrolment.Pem

The sections of an armoured text: what stands in base64 between a line `-----BEGIN label-----` and a
line that starts with `-----END label-----`. Lines end at a carriage return or a line feed. Text
outside sections does not matter. Inside one, a new beginning changes the label and keeps what has
been gathered. A beginning without exactly five dashes at its end, a section without an end, and a
section that is no base64 make the whole text unreadable.
-/

namespace Enrolment.Pem

/-- A section: its label and what it armours. -/
structure Section where
  label : Bytes
  content : Bytes
  deriving DecidableEq, Repr

def isLineEnd (b : UInt8) : Bool := b == ascii '\n' || b == ascii '\r'

/-- Whether a byte does not count at the end of a line. -/
def isTrailing (b : UInt8) : Bool := isLineEnd b || b == ascii ' '

/-- The lines of a text, without their ends. -/
def lines : Bytes → List Bytes
  | [] => []
  | b :: rest =>
    if isLineEnd b then [] :: lines rest
    else match lines rest with
      | [] => [[b]]
      | line :: more => (b :: line) :: more

def beginning : Bytes := utf8 "-----BEGIN "

def ending (label : Bytes) : Bytes := utf8 "-----END " ++ label ++ utf8 "-----"

/-- The dashes at the end of a beginning. -/
def trailerDashes : Nat := 5

/-- The label of a beginning. The dashes at its end may have blanks among and behind them. -/
def label? (line : Bytes) : Option Bytes :=
  let trailer := line.reverse.takeWhile fun b => isTrailing b || b == ascii '-'
  let blanks := trailer.reverse.takeWhile isTrailing
  if trailer.count (ascii '-') = trailerDashes then
    some ((line.take (line.length - trailer.length + blanks.length)).drop beginning.length)
  else none

/-- A line without what does not count at its end. -/
def trimmed (line : Bytes) : Bytes := (line.reverse.dropWhile isTrailing).reverse

/-- The sections of some lines. `opened` is the label of the section that is open, and `gathered`
what has been gathered in it. -/
def sectionsOf : (opened : Option Bytes) → (gathered : Bytes) → List Bytes → Option (List Section)
  | none, _, [] => some []
  | some _, _, [] => none
  | opened, gathered, line :: rest =>
    if beginning.isPrefixOf line then do
      sectionsOf (some (← label? line)) gathered rest
    else match opened with
      | none => sectionsOf none gathered rest
      | some label =>
        if (ending label).isPrefixOf line then do
          let content ← Base64.decode? gathered
          return ⟨label, content⟩ :: (← sectionsOf none [] rest)
        else sectionsOf (some label) (gathered ++ trimmed line) rest

def sections? (text : Bytes) : Option (List Section) := sectionsOf none [] (lines text)

def contents? (label : String) (text : Bytes) : Option (List Bytes) := do
  return (← sections? text).filterMap fun s => if s.label = utf8 label then some s.content else none

def certificates? (text : Bytes) : Option (List Bytes) := contents? "CERTIFICATE" text

end Enrolment.Pem
