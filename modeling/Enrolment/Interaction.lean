import Enrolment.CredentialStore.Basic
import Enrolment.Identity
import Enrolment.Link
import Enrolment.Log

/-!
# Enrolment.Interaction

A run as a tree of the calls that it makes: to the link, to the credential store, for time and for
random numbers. A node is one call, and has a branch for every reply that the call can have, so the
tree says what a run does whatever its surroundings do. `Interaction.run` follows the one branch on
which a world answers.

* `bind_assoc`, `bind_pure`: runs compose one after the other.
* `run_bind`: a composed run leaves the world to its second part as the first part left it.
-/

namespace Enrolment

/-- A call that a run makes to its surroundings. -/
inductive Call
  | connect (request : ConnectRequest)
  | subscribe (filters : List String)
  | publish (topic : String) (body : Bytes)
  | unsubscribe (filter : String)
  /-- Waits for a packet no longer than a time. -/
  | poll (timeout : Duration)
  | disconnect
  | draw
  | pause (milliseconds : Nat)
  /-- Reads a clock that never goes back, in nanoseconds. -/
  | clock
  | calendar
  | generateKey (label commonName : String)
  | storeCertificate (handle label pem : String)
  | storeIdentity (record : Identity)
  | log (line : LogLine)
  deriving DecidableEq

/-- What a call can be answered with. -/
abbrev Call.Reply : Call → Type
  | connect _ | subscribe _ | publish .. | unsubscribe _ | disconnect => Except LinkFault Unit
  | poll _ => Except LinkFault (Option Packet)
  | draw => Except String UInt64
  | pause _ | log _ => Unit
  | clock => Nat
  | calendar => Timestamp
  | generateKey .. => Except StoreError KeyArtifact
  | storeCertificate .. | storeIdentity _ => Except StoreError Unit

/-- A run that ends in a value. -/
inductive Interaction (α : Type)
  | done (value : α)
  | call (c : Call) (next : c.Reply → Interaction α)

namespace Interaction

/-- One run after another. -/
def bind {α β : Type} (run : Interaction α) (next : α → Interaction β) : Interaction β :=
  match run with
  | done value => next value
  | call c rest => call c fun reply => (rest reply).bind next

instance : Monad Interaction where
  pure := done
  bind := bind

theorem bind_pure {α : Type} (run : Interaction α) : run.bind done = run := by
  induction run with
  | done value => rfl
  | call c rest ih => simp only [bind]; congr 1; funext reply; exact ih reply

theorem bind_assoc {α β γ : Type} (run : Interaction α) (f : α → Interaction β)
    (g : β → Interaction γ) : (run.bind f).bind g = run.bind fun a => (f a).bind g := by
  induction run with
  | done value => rfl
  | call c rest ih => simp only [bind]; congr 1; funext reply; exact ih reply

instance : LawfulMonad Interaction :=
  LawfulMonad.mk' _ bind_pure (fun _ _ => rfl) bind_assoc

def perform (c : Call) : Interaction c.Reply := call c done

def log (level : LogLevel) (text : String) : Interaction Unit := perform (.log ⟨level, text⟩)

/-- What answers calls, and changes by that. -/
abbrev World (σ : Type) := (c : Call) → σ → c.Reply × σ

/-- The value of a run in a world, and the world's state after it. -/
def run {σ α : Type} (world : World σ) : Interaction α → σ → α × σ
  | done value, s => (value, s)
  | call c next, s => (next (world c s).1).run world (world c s).2

theorem run_bind {σ α β : Type} (world : World σ) (first : Interaction α)
    (next : α → Interaction β) (s : σ) :
    (first.bind next).run world s =
      (next (first.run world s).1).run world (first.run world s).2 := by
  induction first generalizing s with
  | done value => rfl
  | call c rest ih => exact ih _ _

end Interaction

end Enrolment
