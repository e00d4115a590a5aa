import Enrolment.Attempts

/-!
# Enrolment.Connect

Opening a link, again and again if need be, and closing it. A transport that fails and a handshake
that is refused are retried alike. A link that does not close is reported, and nothing more.
-/

namespace Enrolment

inductive ConnectFault
  | transport (reason : String)
  | handshake (reason : String)
  deriving DecidableEq, Repr

namespace ConnectFault

def message : ConnectFault → String
  | transport reason => "transport connect failed: " ++ reason
  | handshake reason => "mqtt handshake failed: " ++ reason

def ofLinkFault : LinkFault → ConnectFault
  | .handshake reason => handshake reason
  | fault => transport fault.message

end ConnectFault

abbrev ConnectError := AttemptsError ConnectFault

def ConnectError.message : ConnectError → String
  | .exhausted attempts _ => s!"connect gave up after {attempts.toNat} attempts"
  | .noEntropy reason => entropyMessage reason

/-- A failure to leave things as they were found. -/
structure TeardownError where
  what : String
  cause : LinkFault
  deriving DecidableEq, Repr

def TeardownError.message (e : TeardownError) : String :=
  "teardown of " ++ e.what ++ " failed: " ++ e.cause.message

/-- One attempt to open a link, after `failed` attempts in vain. -/
def connectOnce (request : ConnectRequest) (failed : UInt32) :
    Interaction (Except ConnectFault Unit) := do
  match ← Interaction.perform (.connect request) with
  | .ok () =>
    Interaction.log .info s!"connected as {request.clientId} after {failed.toNat} retries"
    return .ok ()
  | .error fault =>
    let fault := ConnectFault.ofLinkFault fault
    Interaction.log .warn s!"connect attempt {failed.toNat + 1} failed: {fault.message}"
    return .error fault

def connectWithRetry (policy : RetryPolicy) (request : ConnectRequest) :
    Interaction (Except ConnectError Unit) := do
  let attempt (failed : UInt32) (_ : Unit) : Interaction (Unit × Except ConnectFault Unit) := do
    return ((), ← connectOnce request failed)
  return (← attemptUnder policy attempt ()).2

def disconnect : Interaction (Except TeardownError Unit) := do
  return (← Interaction.perform .disconnect).mapError (⟨"disconnect", ·⟩)

end Enrolment
