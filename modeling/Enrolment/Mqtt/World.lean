import Enrolment.Interaction
import Enrolment.Mqtt

/-!
# Enrolment.Mqtt.World

A run over MQTT. The calls to the link are answered by a client of the broker, and every other call
goes to the surroundings. An attempt to open a link starts a client afresh; until one has succeeded,
the link is closed.
-/

namespace Enrolment.Mqtt

/-- A broker as its clients meet it. -/
structure Broker (σ : Type) where
  host : String
  port : UInt16
  /-- Starts a client, and says how the handshake of its session ends. -/
  handshake : ConnectRequest → σ → HandshakeEnd × σ
  client : Client σ

namespace Broker

variable {σ τ : Type}

/-- Opens a link, in place of an earlier one. -/
def openLink (b : Broker σ) (others : Interaction.World τ) (request : ConnectRequest)
    (l : Link σ) (s : τ) : Except LinkFault Unit × Link σ × τ :=
  let (handshake, client) :=
    if isClientId request.clientId then b.handshake request l.client else (.silent, l.client)
  match openResult request handshake with
  | .error fault => (.error fault, ⟨client, false⟩, s)
  | .ok () =>
    let text := s!"mqtt session established with {b.host}:{b.port.toNat} as {request.clientId}"
    (.ok (), ⟨client, true⟩, (others (.log ⟨.info, text⟩) s).2)

/-- The world of a run over MQTT. -/
def world (b : Broker σ) (others : Interaction.World τ) : Interaction.World (Link σ × τ)
  | .connect request, (l, s) => b.openLink others request l s
  | .subscribe filters, (l, s) =>
    let (reply, l) := l.subscribe b.client filters
    (reply, l, s)
  | .publish topic body, (l, s) =>
    let (reply, l) := l.publish b.client topic body
    (reply, l, s)
  | .unsubscribe filter, (l, s) =>
    let (reply, l) := l.unsubscribe b.client filter
    (reply, l, s)
  | .poll timeout, (l, s) =>
    let (reply, l) := l.poll b.client timeout
    (reply, l, s)
  | .disconnect, (l, s) =>
    let (reply, l) := l.disconnect b.client
    (reply, l, s)
  | call, (l, s) =>
    let (reply, s) := others call s
    (reply, l, s)

def unreachable (host : String) (port : UInt16) (fault : ConnectionFault) : Broker Unit where
  host
  port
  handshake _ s := (.failed fault, s)
  client := unreachableBroker fault

end Broker

end Enrolment.Mqtt
