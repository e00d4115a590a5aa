/-!
# Enrolment.Log

The lines that a run writes about itself, for an operator to read.
-/

namespace Enrolment

inductive LogLevel
  | info
  | warn
  | error
  deriving DecidableEq, Repr

def LogLevel.name : LogLevel → String
  | info => "INFO"
  | warn => "WARN"
  | error => "ERROR"

structure LogLine where
  level : LogLevel
  text : String
  deriving DecidableEq, Repr

end Enrolment
