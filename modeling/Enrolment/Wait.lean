import Enrolment.Interaction
import Enrolment.Session

/-!
# Enrolment.Wait

Waiting for a packet of one kind. A wait polls the link, hands every packet to the session, and ends
with the first packet of the kind, with the first fault, or when its polls are used up. Nothing is
sent. Packets that arrived before the wait do not count.
-/

namespace Enrolment

/-- How often and how long a wait polls. -/
structure WaitBudget where
  perPoll : Duration
  maxPolls : Nat
  deriving DecidableEq, Repr

namespace WaitBudget

def standard : WaitBudget := ⟨.ofMillis 700, 30⟩

def withPolls (b : WaitBudget) (maxPolls : Nat) : WaitBudget := { b with maxPolls }

/-- The longest time that a wait can take. -/
def total (b : WaitBudget) : Duration := b.perPoll.saturatingMul b.maxPolls

end WaitBudget

inductive WaitError
  | timeout (expected : PacketKind) (polls : Nat)
  | transport (fault : LinkFault)
  | payloadTooLarge (cause : SessionError)
  deriving DecidableEq, Repr

def WaitError.message : WaitError → String
  | timeout expected polls => s!"no {expected.name} within {polls} polls"
  | transport fault => fault.message
  | payloadTooLarge cause => cause.message

/-- Hands a packet to the session, and writes to the log what that means. -/
def Session.take (s : Session) (packet : Packet) :
    Interaction (Session × Except SessionError Unit) := do
  if let some line := s.notice packet then Interaction.perform (.log line)
  let (s, result) := s.dispatch packet
  return (s, result.map fun _ => ())

/-- Polls at most `left` times more, after `budget.maxPolls - left` polls in vain. -/
def pollFor (expected : PacketKind) (budget : WaitBudget) :
    (left : Nat) → Session → Interaction (Session × Except WaitError Nat)
  | 0, s => return (s, .error (.timeout expected budget.maxPolls))
  | left + 1, s => do
    match ← Interaction.perform (.poll budget.perPoll) with
    | .error fault => return (s, .error (.transport fault))
    | .ok none => pollFor expected budget left s
    | .ok (some packet) =>
      let (s, taken) ← s.take packet
      match taken with
      | .error cause => return (s, .error (.payloadTooLarge cause))
      | .ok () =>
        if packet.kind = expected then return (s, .ok (budget.maxPolls - left))
        else pollFor expected budget left s

/-- Waits for a packet of a kind. The result is the number of polls used. -/
def waitFor (expected : PacketKind) (budget : WaitBudget) (s : Session) :
    Interaction (Session × Except WaitError Nat) :=
  pollFor expected budget budget.maxPolls s.resetLastPacket

end Enrolment
