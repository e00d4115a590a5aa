import Enrolment.Text.Quoted
import Enrolment.Text.Split

/-!
# Enrolment.Topic

The topics of the two provisioning steps. A step publishes its request on one topic, and the answer
comes on that topic with `accepted` or `rejected` appended as a further level:

* `$aws/certificates/create-from-csr/<format>` asks for a certificate;
* `$aws/provisioning-templates/<template>/provision/<format>` registers the thing.

`Topics.dispositionOf` recognises the answers to one request. `TopicMatch.ofTopic?` recognises an
answer to any request, and says which step, format and template it names. A template name becomes a
level of its own, so `checkTemplateName` refuses separators and wildcards.
-/

namespace Enrolment

/-- How a payload is written, named by a level of its topic. -/
inductive PayloadFormat
  | cbor
  | json
  deriving DecidableEq, Repr

namespace PayloadFormat

def level : PayloadFormat → String
  | cbor => "cbor"
  | json => "json"

def ofLevel? (s : String) : Option PayloadFormat :=
  if s = "cbor" then some cbor else if s = "json" then some json else none

theorem ofLevel?_level (f : PayloadFormat) : ofLevel? f.level = some f := by
  cases f <;> decide

end PayloadFormat

/-- The two request and response exchanges of a provisioning run. -/
inductive Step
  | createCertificate
  | registerThing
  deriving DecidableEq, Repr

def Step.name : Step → String
  | .createCertificate => "CreateCertificateFromCsr"
  | .registerThing => "RegisterThing"

/-- What an answer says about its request. -/
inductive Disposition
  | accepted
  | rejected
  deriving DecidableEq, Repr

namespace Disposition

def name : Disposition → String
  | accepted => "Accepted"
  | rejected => "Rejected"

def level : Disposition → String
  | accepted => "accepted"
  | rejected => "rejected"

def ofLevel? (s : String) : Option Disposition :=
  if s = "accepted" then some accepted else if s = "rejected" then some rejected else none

theorem ofLevel?_level (d : Disposition) : ofLevel? d.level = some d := by
  cases d <;> decide

end Disposition

/-- The request topic of a step and the two topics of its answers. -/
structure Topics where
  publish : String
  accepted : String
  rejected : String
  deriving DecidableEq, Repr

namespace Topics

def ofBase (base : String) : Topics where
  publish := base
  accepted := base ++ "/accepted"
  rejected := base ++ "/rejected"

def createCertificate (format : PayloadFormat) : Topics :=
  ofBase ("$aws/certificates/create-from-csr/" ++ format.level)

def registerThing (template : String) (format : PayloadFormat) : Topics :=
  ofBase ("$aws/provisioning-templates/" ++ template ++ "/provision/" ++ format.level)

/-- The filters to subscribe to before the request is published. -/
def responseFilters (t : Topics) : List String := [t.accepted, t.rejected]

/-- What an answer on `topic` says about this request. If the two topics are one, it is accepted. -/
def dispositionOf (t : Topics) (topic : String) : Option Disposition :=
  if topic = t.accepted then some .accepted
  else if topic = t.rejected then some .rejected
  else none

def response (t : Topics) : Disposition → String
  | .accepted => t.accepted
  | .rejected => t.rejected

end Topics

/-- What the topic of an answer names. Only a registration names a template. -/
structure TopicMatch where
  step : Step
  format : PayloadFormat
  disposition : Disposition
  template : Option String
  deriving DecidableEq, Repr

/-- The template that stands in the topic of a registration, before the format. It is one non-empty
level. -/
def Topics.template? (base : String) : Option String := do
  let rest ← Text.behind? "/" (← Text.behind? "$aws/provisioning-templates" base)
  let template ← Text.before? "/" (← Text.before? "provision" rest)
  if template = "" ∨ '/' ∈ template.toList then none else return template

/-- The answer that `topic` belongs to, for whichever step, format and template. It is read from
the end: disposition and format are levels of their own, a template may be any level. -/
def TopicMatch.ofTopic? (topic : String) : Option TopicMatch := do
  let (base, level) ← Text.cutLast? '/' topic
  let disposition ← Disposition.ofLevel? level
  let (base, level) ← Text.cutLast? '/' base
  let format ← PayloadFormat.ofLevel? level
  if base = "$aws/certificates/create-from-csr" then
    return ⟨.createCertificate, format, disposition, none⟩
  else
    return ⟨.registerThing, format, disposition, some (← Topics.template? base)⟩

/-! ## Template names -/

def maxTemplateNameLength : Nat := 36

inductive TemplateNameError
  | empty
  | tooLong
  | invalidCharacter (c : Char)
  deriving DecidableEq, Repr

def TemplateNameError.message : TemplateNameError → String
  | empty => "template name is empty"
  | tooLong => s!"template name exceeds {maxTemplateNameLength} characters"
  | invalidCharacter c =>
    "template name contains invalid character " ++ Text.quotedCharacter c

/-- Whether a template name may hold `c`: an ASCII letter or digit, `-` or `_`. -/
def isTemplateNameChar (c : Char) : Bool := c.isAlphanum || c == '-' || c == '_'

/-- Accepts a non-empty name of at most 36 bytes without a character that a topic level or a filter
gives a meaning to. The length is checked before the characters. -/
def checkTemplateName (name : String) : Except TemplateNameError Unit :=
  if name = "" then .error .empty
  else if maxTemplateNameLength < name.utf8ByteSize then .error .tooLong
  else match name.toList.find? fun c => !isTemplateNameChar c with
    | some c => .error (.invalidCharacter c)
    | none => .ok ()

end Enrolment
