import Enrolment.Link
import Enrolment.Log
import Enrolment.Topic

/-!
# Enrolment.Session

What a device remembers between packets. At most one step is in flight. `Session.dispatch` takes
one packet and classifies every publish by the topics of the step in flight:

* the first answer of the step is its outcome, and its body is kept. An accepted answer that does
  not fit the buffer is an error and no outcome; a rejected one is an outcome without a body;
* a later answer of the same step is a duplicate, counted and dropped;
* any other publish is a stray: counted, and its topic remembered.

`Session.begin` starts a step with no outcome and an empty buffer. `Session.notice` is the line
that a dispatch writes to the log.
-/

namespace Enrolment

inductive SessionError
  | payloadTooLarge (length capacity : Nat)
  | busy (active requested : Step)
  deriving DecidableEq, Repr

def SessionError.message : SessionError → String
  | payloadTooLarge length capacity =>
    s!"response payload of {length} bytes exceeds {capacity} byte buffer"
  | busy active requested =>
    s!"{active.name} still in flight; cannot start {requested.name}"

/-! ## The payload buffer -/

/-- The body of one answer, whole or not at all. -/
structure Buffer where
  capacity : Nat
  data : Bytes
  deriving DecidableEq, Repr

namespace Buffer

def ofCapacity (capacity : Nat) : Buffer := ⟨capacity, []⟩

/-- Replaces the body, unless the new one does not fit. -/
def store (b : Buffer) (body : Bytes) : Except SessionError Buffer :=
  if b.capacity < body.length then .error (.payloadTooLarge body.length b.capacity)
  else .ok { b with data := body }

def clear (b : Buffer) : Buffer := { b with data := [] }

end Buffer

/-! ## The session -/

/-- What the step in flight, or the last one, has received. -/
inductive Outcome
  | notReceived
  | accepted
  | rejected
  deriving DecidableEq, Repr

def Outcome.name : Outcome → String
  | notReceived => "NotReceived"
  | accepted => "Accepted"
  | rejected => "Rejected"

def Outcome.ofDisposition : Disposition → Outcome
  | .accepted => accepted
  | .rejected => rejected

/-- What a publish is to the session: an answer of the step in flight, or none. -/
inductive Classification
  | response (step : Step) (disposition : Disposition)
  | unmatched
  deriving DecidableEq, Repr

structure ActiveStep where
  step : Step
  topics : Topics
  deriving DecidableEq, Repr

/-- What a device remembers between packets. -/
structure Session where
  lastPacket : Option PacketKind
  lastOutcome : Outcome
  lastSubAck : Option Bool
  lastUnmatchedTopic : Option String
  payload : Buffer
  active : Option ActiveStep
  /-- The filters subscribed to, in order and without repetition. -/
  subscriptions : List String
  strayPublishes : Nat
  duplicateResponses : Nat
  deriving DecidableEq, Repr

namespace Session

def new (payloadCapacity : Nat) : Session where
  lastPacket := none
  lastOutcome := .notReceived
  lastSubAck := none
  lastUnmatchedTopic := none
  payload := .ofCapacity payloadCapacity
  active := none
  subscriptions := []
  strayPublishes := 0
  duplicateResponses := 0

/-- Puts a step in flight, with nothing received yet. Refused while another one is. -/
def begin (s : Session) (step : Step) (topics : Topics) : Except SessionError Session :=
  match s.active with
  | some active => .error (.busy active.step step)
  | none => .ok { s with
      lastOutcome := .notReceived
      lastSubAck := none
      lastUnmatchedTopic := none
      payload := s.payload.clear
      active := some ⟨step, topics⟩ }

/-- Ends the step in flight. Its outcome and body stay until the next one begins. -/
def finish (s : Session) : Session := { s with active := none }

/-- Forgets the kind of the last packet, so that a wait sees later packets alone. -/
def resetLastPacket (s : Session) : Session := { s with lastPacket := none }

/-- Adds a filter, if it is new. -/
def recordSubscription (s : Session) (filter : String) : Session :=
  if filter ∈ s.subscriptions then s
  else { s with subscriptions := s.subscriptions ++ [filter] }

/-- Adds the filters that are new, in order. -/
def recordSubscriptions (s : Session) (filters : List String) : Session :=
  filters.foldl recordSubscription s

def dropSubscription (s : Session) (filter : String) : Session :=
  { s with subscriptions := s.subscriptions.filter fun f => f ≠ filter }

/-- The answer that a publish on `topic` would be to the step in flight. -/
def responseOn (s : Session) (topic : String) : Option (Step × Disposition) := do
  let active ← s.active
  let disposition ← active.topics.dispositionOf topic
  return (active.step, disposition)

/-- Takes an answer of the step in flight, when none has been received. -/
def receive (s : Session) (disposition : Disposition) (body : Bytes) :
    Session × Except SessionError Unit :=
  match disposition with
  | .accepted => match s.payload.store body with
    | .error e => (s, .error e)
    | .ok payload => ({ s with payload, lastOutcome := .accepted }, .ok ())
  | .rejected =>
    -- The body of a rejection is kept for its details alone, so it may be lost.
    let payload := match s.payload.store body with
      | .error _ => s.payload.clear
      | .ok payload => payload
    ({ s with payload, lastOutcome := .rejected }, .ok ())

/-- Takes a publish. -/
def classify (s : Session) (topic : String) (body : Bytes) :
    Session × Except SessionError Classification :=
  match s.responseOn topic with
  | none =>
    ({ s with strayPublishes := s.strayPublishes + 1, lastUnmatchedTopic := some topic },
      .ok .unmatched)
  | some (step, disposition) =>
    if s.lastOutcome ≠ .notReceived then
      ({ s with duplicateResponses := s.duplicateResponses + 1 },
        .ok (.response step disposition))
    else
      let (s', result) := s.receive disposition body
      (s', result.map fun _ => .response step disposition)

/-- Takes a packet, and says what a publish was. A body that does not fit is the only error; its
kind is noted all the same. -/
def dispatch (s : Session) (packet : Packet) :
    Session × Except SessionError (Option Classification) :=
  let s := { s with lastPacket := some packet.kind }
  match packet with
  | .subAck granted => ({ s with lastSubAck := some granted }, .ok none)
  | .publish topic body =>
    let (s', result) := s.classify topic body
    (s', result.map some)
  | _ => (s, .ok none)

end Session

def Session.notice (s : Session) : Packet → Option LogLine
  | .publish topic body =>
    match s.responseOn topic with
    | none => match TopicMatch.ofTopic? topic with
      | some m => some ⟨.warn,
          s!"ignoring {m.step.name} response for {m.disposition.name} outside its step on {topic}"⟩
      | none => some ⟨.warn, s!"ignoring publish on unexpected topic {topic}"⟩
    | some (step, disposition) =>
      if s.lastOutcome ≠ .notReceived then
        some ⟨.warn, s!"duplicate {step.name} response on {topic} ignored"⟩
      else match disposition with
        | .accepted =>
          if s.payload.capacity < body.length then none
          else some ⟨.info, s!"{step.name} accepted ({body.length} bytes)"⟩
        | .rejected => some ⟨.warn, s!"{step.name} rejected on {topic}"⟩
  | _ => none

end Enrolment
