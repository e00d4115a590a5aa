import Enrolment.Bytes
import Enrolment.Duration

/-!
# Enrolment.Link

What passes over a publish/subscribe link: the packets that arrive, the kinds by which a wait tells
them apart, the faults that an operation may end with, and the request that opens a link.
-/

namespace Enrolment

inductive LinkFault
  /-- The transport below the session failed. -/
  | transport (reason : String)
  /-- The broker refused the session, or never answered. -/
  | handshake (reason : String)
  /-- The client did not take the request. -/
  | request (reason : String)
  /-- The link was closed before. -/
  | closed
  deriving DecidableEq, Repr

def LinkFault.message : LinkFault → String
  | transport reason => "transport error: " ++ reason
  | handshake reason => "handshake error: " ++ reason
  | request reason => "request rejected by client: " ++ reason
  | closed => "link closed"

inductive PacketKind
  | connAck
  | subAck
  | unsubAck
  | pubAck
  | publish
  | pingResp
  | other
  deriving DecidableEq, Repr

def PacketKind.name : PacketKind → String
  | connAck => "CONNACK"
  | subAck => "SUBACK"
  | unsubAck => "UNSUBACK"
  | pubAck => "PUBACK"
  | publish => "PUBLISH"
  | pingResp => "PINGRESP"
  | other => "OTHER"

inductive Packet
  | connAck (accepted : Bool)
  /-- `granted` says that every filter of the request was granted. -/
  | subAck (granted : Bool)
  | unsubAck
  | pubAck
  | publish (topic : String) (body : Bytes)
  | pingResp
  | other
  deriving DecidableEq, Repr

def Packet.kind : Packet → PacketKind
  | connAck _ => .connAck
  | subAck _ => .subAck
  | unsubAck => .unsubAck
  | pubAck => .pubAck
  | publish _ _ => .publish
  | pingResp => .pingResp
  | other => .other

/-- What a session with the broker is opened with. -/
structure ConnectRequest where
  clientId : String
  keepAlive : Duration
  /-- The time for the connection and its handshake below the session. -/
  transportTimeout : Duration
  /-- The time for the broker's answer after that. -/
  connackTimeout : Duration
  /-- The most bytes of a packet in either direction. -/
  maxPacketBytes : Nat
  deriving DecidableEq, Repr

end Enrolment
