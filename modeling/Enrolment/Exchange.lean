import Enrolment.Connect
import Enrolment.Payload.Basic
import Enrolment.Wait

/-!
# Enrolment.Exchange

One step: subscribe to the topics of the answer, publish the request, wait for the answer, and
unsubscribe. Subscribing is retried, publishing is not. The answer is the first one that the session
has taken when a publish arrives after the request; what an unexpected publish does is a matter of
policy. Whatever the result, every filter is unsubscribed before the step ends, and that cannot
change the result.
-/

namespace Enrolment

/-- What a publish that is no answer does to a step that waits for one. -/
inductive StrayPolicy
  /-- The wait goes on with the polls that are left. -/
  | tolerate
  /-- The step fails. -/
  | reject
  deriving DecidableEq, Repr

def StrayPolicy.name : StrayPolicy → String
  | tolerate => "Tolerate"
  | reject => "Reject"

structure StepSettings where
  budget : WaitBudget
  strayPolicy : StrayPolicy
  deriving DecidableEq, Repr

/-- What a step has reached. -/
inductive Progress
  | subscribed
  | published
  | result (disposition : Disposition)
  | unsubscribed
  deriving DecidableEq, Repr

def Progress.name : Progress → String
  | subscribed => "Subscribed"
  | published => "Published"
  | result disposition => "Result(" ++ disposition.name ++ ")"
  | unsubscribed => "Unsubscribed"

inductive StepError
  | subscribeFailed (topic : String) (attempts : UInt32) (reason : String)
  | publishFailed (topic : String) (fault : LinkFault)
  | serverRejected (step : Step) (detail : Rejection)
  | noResponse (step : Step) (polls : Nat)
  | unexpectedResponse (step : Step) (topic : String)
  | payloadTooLarge (cause : SessionError)
  | decodeFailed (step : Step) (cause : CodecError)
  | transport (step : Step) (fault : LinkFault)
  | noEntropy (reason : String)
  | busy (cause : SessionError)
  deriving DecidableEq, Repr

def StepError.message : StepError → String
  | subscribeFailed topic attempts reason =>
    s!"subscribe to {topic} failed after {attempts.toNat} attempts: {reason}"
  | publishFailed topic fault => s!"publish to {topic} failed: {fault.message}"
  | serverRejected step detail => s!"{step.name} rejected by server: {detail.summary}"
  | noResponse step polls => s!"no {step.name} response within {polls} polls"
  | unexpectedResponse step topic =>
    s!"unexpected publish on {topic} while waiting for {step.name}"
  | payloadTooLarge cause => cause.message
  | decodeFailed step cause => s!"{step.name} response could not be decoded: {cause.message}"
  | transport step fault => s!"link failed during {step.name}: {fault.message}"
  | noEntropy reason => entropyMessage reason
  | busy cause => cause.message

/-- A step to make: its topics and the request. -/
structure StepRequest where
  step : Step
  topics : Topics
  body : Bytes
  deriving DecidableEq, Repr

/-- How a part of a step ended, what it reached on the way, and the session after it. -/
structure StepReport (α : Type) where
  session : Session
  progress : List Progress
  result : Except StepError α

/-! ## Subscribing -/

/-- One attempt to subscribe to some filters. It succeeds if the acknowledgement grants them. -/
def subscribeOnce (settings : StepSettings) (filters : List String) (s : Session) :
    Interaction (Session × Except String Unit) := do
  match ← Interaction.perform (.subscribe filters) with
  | .error fault => return (s, .error fault.message)
  | .ok () =>
    let (s, acknowledged) ← waitFor .subAck settings.budget (s.recordSubscriptions filters)
    match acknowledged with
    | .error e => return (s, .error e.message)
    | .ok _ =>
      if s.lastSubAck = some true then return (s, .ok ()) else return (s, .error "SUBACK refused")

def subscribeWithRetry (policy : RetryPolicy) (settings : StepSettings) (topics : Topics)
    (s : Session) : Interaction (Session × Except StepError Unit) := do
  let attempt (failed : UInt32) (s : Session) : Interaction (Session × Except String Unit) := do
    let (s, outcome) ← subscribeOnce settings topics.responseFilters s
    if let .error reason := outcome then
      Interaction.log .warn
        s!"subscribe to {topics.accepted} failed (attempt {failed.toNat + 1}): {reason}"
    return (s, outcome)
  let (s, outcome) ← attemptUnder policy attempt s
  return (s, outcome.mapError fun e => match e with
    | .exhausted attempts reason => .subscribeFailed topics.accepted attempts reason
    | .noEntropy reason => .noEntropy reason)

/-! ## The answer -/

/-- Waits for the answer of the step in flight, with `remaining` polls left. A publish uses a poll
at least, so as many rounds as there are polls are enough. -/
def awaitResponse (codec : Codec) (settings : StepSettings) (step : Step) :
    (rounds remaining : Nat) → Session → Interaction (StepReport Unit)
  | 0, _, s => return ⟨s, [], .error (.noResponse step settings.budget.maxPolls)⟩
  | rounds + 1, remaining, s => do
    if remaining = 0 then
      return ⟨s, [], .error (.noResponse step settings.budget.maxPolls)⟩
    let (s, waited) ← waitFor .publish (settings.budget.withPolls remaining) s
    match waited with
    | .error (.timeout ..) =>
      return ⟨s, [], .error (.noResponse step settings.budget.maxPolls)⟩
    | .error (.transport fault) => return ⟨s, [], .error (.transport step fault)⟩
    | .error (.payloadTooLarge cause) => return ⟨s, [], .error (.payloadTooLarge cause)⟩
    | .ok used =>
      match s.lastOutcome with
      | .accepted => return ⟨s, [.result .accepted], .ok ()⟩
      | .rejected =>
        let detail := (codec.readRejection s.payload.data).getD .unexplained
        return ⟨s, [.result .rejected], .error (.serverRejected step detail)⟩
      | .notReceived =>
        match settings.strayPolicy with
        | .tolerate => awaitResponse codec settings step rounds (remaining - used) s
        | .reject =>
          return ⟨s, [], .error (.unexpectedResponse step (s.lastUnmatchedTopic.getD ""))⟩

/-- Subscribes, publishes the request and waits for the answer. -/
def exchange (policy : RetryPolicy) (codec : Codec) (settings : StepSettings)
    (request : StepRequest) (s : Session) : Interaction (StepReport Unit) := do
  let (s, subscribed) ← subscribeWithRetry policy settings request.topics s
  match subscribed with
  | .error e => return ⟨s, [], .error e⟩
  | .ok () =>
    match ← Interaction.perform (.publish request.topics.publish request.body) with
    | .error fault =>
      return ⟨s, [.subscribed], .error (.publishFailed request.topics.publish fault)⟩
    | .ok () =>
      let polls := settings.budget.maxPolls
      let report ← awaitResponse codec settings request.step polls polls s
      return { report with progress := .subscribed :: .published :: report.progress }

/-! ## Unsubscribing -/

/-- What the end of a wait for an acknowledgement means for the link. -/
def acknowledgement : Except WaitError Nat → Except LinkFault Unit
  | .ok _ => .ok ()
  | .error (.transport fault) => .error fault
  | .error e => .error (.request e.message)

/-- Asks for a filter to be unsubscribed, and waits for the acknowledgement. -/
def requestUnsubscribe (settings : StepSettings) (filter : String) (s : Session) :
    Interaction (Session × Except LinkFault Unit) := do
  match ← Interaction.perform (.unsubscribe filter) with
  | .error fault => return (s, .error fault)
  | .ok () =>
    let (s, waited) ← waitFor .unsubAck settings.budget s
    return (s, acknowledgement waited)

/-- Unsubscribes from one filter, and forgets it in any case. -/
def unsubscribeOne (settings : StepSettings) (filter : String) (s : Session) :
    Interaction (Session × Except TeardownError Unit) := do
  let (s, outcome) ← requestUnsubscribe settings filter s
  return (s.dropSubscription filter, outcome.mapError (⟨"unsubscribe " ++ filter, ·⟩))

/-- Unsubscribes from some filters. The result says whether nothing failed. -/
def unsubscribeEach (settings : StepSettings) :
    List String → Session → Interaction (Session × Bool)
  | [], s => return (s, true)
  | filter :: rest, s => do
    let (s, outcome) ← unsubscribeOne settings filter s
    if let .error e := outcome then Interaction.log .warn e.message
    let (s, clean) ← unsubscribeEach settings rest s
    return (s, outcome.isOk && clean)

def unsubscribeAll (settings : StepSettings) (s : Session) : Interaction (Session × Bool) :=
  unsubscribeEach settings s.subscriptions s

/-! ## The step -/

/-- Makes a step, and reads the accepted answer. -/
def runStep {α : Type} (policy : RetryPolicy) (codec : Codec) (settings : StepSettings)
    (request : StepRequest) (read : Bytes → Except CodecError α) (s : Session) :
    Interaction (StepReport α) := do
  match s.begin request.step request.topics with
  | .error cause => return ⟨s, [], .error (.busy cause)⟩
  | .ok s =>
    Interaction.log .info s!"{request.step.name} started"
    let report ← exchange policy codec settings request s
    let result := match report.result with
      | .ok () => (read report.session.payload.data).mapError (.decodeFailed request.step)
      | .error e => .error e
    let (s, clean) ← unsubscribeAll settings report.session
    match result with
    | .ok _ => Interaction.log .info s!"{request.step.name} complete"
    | .error e => Interaction.log .error s!"{request.step.name} failed: {e.message}"
    let last := if result.isOk && clean then [.unsubscribed] else []
    return ⟨s.finish, report.progress ++ last, result⟩

end Enrolment
