import Enrolment.Link
import Enrolment.Text.Blank
import Enrolment.Text.Quoted

/-!
# Enrolment.Mqtt

A link over MQTT. Below the link is a client, which queues requests and reports the packets that
arrive and the ways in which a connection can fail; the link tells a run the part of it that a run
needs. A link is open until it is closed or a poll reports that the connection has failed. From then
on the client is not asked for anything.

* `Link.request_closed`, `Link.poll_closed`, `Link.disconnect_closed`: on a closed link nothing
  changes, and the client has no part in the answer.
-/

namespace Enrolment.Mqtt

/-! ## What the client reports -/

/-- The broker's answer to the request for a session. -/
inductive ConnectCode
  | success
  | refusedProtocolVersion
  | badClientId
  | serviceUnavailable
  | badUserNamePassword
  | notAuthorized
  deriving DecidableEq, Repr

def ConnectCode.name : ConnectCode → String
  | success => "Success"
  | refusedProtocolVersion => "RefusedProtocolVersion"
  | badClientId => "BadClientId"
  | serviceUnavailable => "ServiceUnavailable"
  | badUserNamePassword => "BadUserNamePassword"
  | notAuthorized => "NotAuthorized"

inductive Incoming
  | connAck (code : ConnectCode)
  /-- For each filter, whether it was granted. -/
  | subAck (granted : List Bool)
  | unsubAck
  | pubAck
  | publish (topic : String) (body : Bytes)
  | pingResp
  /-- A packet that no run waits for. -/
  | other
  deriving DecidableEq, Repr

/-- What a run sees of the packet. A subscription is granted if all of its filters are, and there is
one at least. -/
def Incoming.toPacket : Incoming → Packet
  | connAck code => .connAck (code = .success)
  | subAck granted => .subAck (granted ≠ [] ∧ granted.all id)
  | unsubAck => .unsubAck
  | pubAck => .pubAck
  | publish topic body => .publish topic body
  | pingResp => .pingResp
  | other => .other

inductive ConnectionFault
  | refused (code : ConnectCode)
  /-- A packet, given by its text, came before the answer to the request for a session. -/
  | notConnAck (packet : String)
  | networkTimeout
  | flushTimeout
  | requestsDone
  | tls (reason : String)
  | io (reason : String)
  deriving DecidableEq, Repr

/-- What a run sees of the failure. -/
def ConnectionFault.toLinkFault : ConnectionFault → LinkFault
  | refused code => .handshake ("connection refused: " ++ code.name)
  | notConnAck packet => .handshake ("expected CONNACK, got " ++ packet)
  | networkTimeout => .transport "tcp/tls not established in time"
  | flushTimeout => .transport "Flush timeout"
  | requestsDone => .transport "Requests done"
  | tls reason => .transport ("tls: " ++ reason)
  | io reason => .transport ("io: " ++ reason)

/-! ## Opening a link -/

/-- Whether the client can write a client identifier: it is not empty and has no blanks. -/
def isClientId (id : String) : Bool := id ≠ "" && !Text.hasBlank id

/-- The time limits of an attempt to open a link. -/
structure ConnectLimits where
  /-- For the connection and its handshake below the session, in whole seconds. -/
  transportSecs : Nat
  /-- For the whole attempt. -/
  total : Duration
  deriving DecidableEq, Repr

/-- The time limits of a request, if they are spans of time. -/
def connectLimits? (request : ConnectRequest) : Option ConnectLimits := do
  let total ← request.transportTimeout.add? request.connackTimeout
  let transportSecs := request.transportTimeout.wholeSeconds
  if transportSecs < Duration.secsBound then return { transportSecs, total } else none

inductive HandshakeEnd
  | answered (code : ConnectCode)
  | failed (fault : ConnectionFault)
  /-- The time for the whole attempt is over. -/
  | silent
  deriving DecidableEq, Repr

/-- The result of an attempt whose handshake ends in a given way. An identifier that the client
cannot write is refused before. -/
def openResult (request : ConnectRequest) (handshake : HandshakeEnd) : Except LinkFault Unit :=
  if !isClientId request.clientId then
    .error (.handshake ("invalid client id " ++ Text.quoted request.clientId))
  else match handshake with
    | .answered .success => .ok ()
    | .answered code => .error (.handshake code.name)
    | .failed fault => .error fault.toLinkFault
    | .silent => .error (.handshake s!"no CONNACK within {request.connackTimeout.toMillis}ms")

/-! ## The link -/

/-- A client: what it does with a request, and what it reports when it is driven for a time. -/
structure Client (σ : Type) where
  subscribe : List String → σ → Except String Unit × σ
  publish : String → Bytes → σ → Except String Unit × σ
  unsubscribe : String → σ → Except String Unit × σ
  /-- The first packet that arrives within a time. -/
  poll : Duration → σ → Except ConnectionFault (Option Incoming) × σ
  disconnect : σ → Except String Unit × σ
  /-- Drives the client until the end of the session is written out, or the time for it is over. -/
  flush : σ → σ

/-- A link: the state of its client, and whether it is open. -/
structure Link (σ : Type) where
  client : σ
  isOpen : Bool
  deriving DecidableEq, Repr

/-- Whether the client takes a topic to publish on. A filter is no topic. -/
def isPublishTopic (topic : String) : Bool := !topic.contains '+' && !topic.contains '#'

namespace Link

variable {σ : Type}

/-- Hands a request to the client of an open link. -/
def request (ask : σ → Except String Unit × σ) (l : Link σ) : Except LinkFault Unit × Link σ :=
  if l.isOpen then
    let (answer, client) := ask l.client
    (answer.mapError .request, { l with client })
  else (.error .closed, l)

def subscribe (c : Client σ) (filters : List String) (l : Link σ) :
    Except LinkFault Unit × Link σ := l.request (c.subscribe filters)

def publish (c : Client σ) (topic : String) (body : Bytes) (l : Link σ) :
    Except LinkFault Unit × Link σ := l.request (c.publish topic body)

def unsubscribe (c : Client σ) (filter : String) (l : Link σ) :
    Except LinkFault Unit × Link σ := l.request (c.unsubscribe filter)

/-- Waits for a packet. A connection that has failed closes the link. -/
def poll (c : Client σ) (timeout : Duration) (l : Link σ) :
    Except LinkFault (Option Packet) × Link σ :=
  if l.isOpen then
    match c.poll timeout l.client with
    | (.ok packet, client) => (.ok (packet.map Incoming.toPacket), { l with client })
    | (.error fault, client) => (.error fault.toLinkFault, ⟨client, false⟩)
  else (.error .closed, l)

/-- Closes the link. A closed link stays as it is. -/
def disconnect (c : Client σ) (l : Link σ) : Except LinkFault Unit × Link σ :=
  if l.isOpen then
    match c.disconnect l.client with
    | (.ok (), client) => (.ok (), ⟨c.flush client, false⟩)
    | (.error reason, client) => (.error (.request reason), ⟨client, false⟩)
  else (.ok (), l)

theorem request_closed (ask : σ → Except String Unit × σ) {l : Link σ} (h : l.isOpen = false) :
    l.request ask = (.error .closed, l) := by simp [request, h]

theorem poll_closed (c : Client σ) (timeout : Duration) {l : Link σ} (h : l.isOpen = false) :
    l.poll c timeout = (.error .closed, l) := by simp [poll, h]

theorem disconnect_closed (c : Client σ) {l : Link σ} (h : l.isOpen = false) :
    l.disconnect c = (.ok (), l) := by simp [disconnect, h]

end Link

/-- What the client says when it does not take a request. -/
def refusedRequest : String := "Failed to send mqtt requests to eventloop"

/-- The client of a broker that cannot be reached: it queues every request, except to publish where
no topic is, and each poll fails in the same way. -/
def unreachableBroker (fault : ConnectionFault) : Client Unit where
  subscribe _ s := (.ok (), s)
  publish topic _ s := (if isPublishTopic topic then .ok () else .error refusedRequest, s)
  unsubscribe _ s := (.ok (), s)
  poll _ s := (.error fault, s)
  disconnect s := (.ok (), s)
  flush s := s

end Enrolment.Mqtt
