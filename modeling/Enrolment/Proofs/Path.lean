import Enrolment.Interaction

/-!
# Enrolment.Proofs.Path

The paths of a run. A run is a tree with a branch for every reply, so what it can do under all
surroundings is what stands on its branches: `Path run t a` says that `run` makes the calls of `t`,
in this order and with these replies, and ends in `a`. A property of every path is a property of
the run under every behaviour of the link, the store, the clock and the source of random numbers.

* `path_bind`: a path of a composed run is a path of the first part and one of the second.
* `path_iff_world`: the paths are what the worlds make of a run, no more and no less.
-/

namespace Enrolment

/-- A call, and the reply that it got. -/
structure Event where
  call : Call
  reply : call.Reply

namespace Interaction

/-- The events along one branch of a run, and the value at its end. -/
inductive Path {α : Type} : Interaction α → List Event → α → Prop
  | done (value : α) : Path (.done value) [] value
  | call {c : Call} {next : c.Reply → Interaction α} (reply : c.Reply) {t : List Event} {a : α} :
      Path (next reply) t a → Path (.call c next) (⟨c, reply⟩ :: t) a

theorem path_pure {α : Type} {a b : α} {t : List Event} :
    Path (pure a) t b ↔ t = [] ∧ b = a := by
  constructor
  · intro h; cases h; exact ⟨rfl, rfl⟩
  · rintro ⟨rfl, rfl⟩; exact .done b

theorem path_bind {α β : Type} {first : Interaction α} {next : α → Interaction β}
    {t : List Event} {b : β} :
    Path (first >>= next) t b ↔
      ∃ t₁ t₂ a, t = t₁ ++ t₂ ∧ Path first t₁ a ∧ Path (next a) t₂ b := by
  constructor
  · intro h
    induction first generalizing t with
    | done a => exact ⟨[], t, a, rfl, .done a, h⟩
    | call c rest ih =>
      cases h with
      | call reply h =>
        obtain ⟨t₁, t₂, a, rfl, h₁, h₂⟩ := ih reply h
        exact ⟨_ :: t₁, t₂, a, rfl, .call reply h₁, h₂⟩
  · rintro ⟨t₁, t₂, a, rfl, h₁, h₂⟩
    induction h₁ with
    | done a => exact h₂
    | call reply _ ih => exact .call reply (ih h₂)

theorem path_perform_bind {c : Call} {β : Type} {next : c.Reply → Interaction β}
    {t : List Event} {b : β} :
    Path (perform c >>= next) t b ↔
      ∃ reply t', t = ⟨c, reply⟩ :: t' ∧ Path (next reply) t' b := by
  constructor
  · intro h
    cases h with
    | call reply h => exact ⟨reply, _, rfl, h⟩
  · rintro ⟨reply, t', rfl, h⟩; exact .call reply h

theorem path_log_bind {level : LogLevel} {text : String} {β : Type}
    {next : Unit → Interaction β} {t : List Event} {b : β} :
    Path (log level text >>= next) t b ↔
      ∃ t', t = ⟨.log ⟨level, text⟩, ()⟩ :: t' ∧ Path (next ()) t' b := by
  refine path_perform_bind.trans ⟨?_, ?_⟩
  · rintro ⟨⟨⟩, t', rfl, h⟩; exact ⟨t', rfl, h⟩
  · rintro ⟨t', rfl, h⟩; exact ⟨(), t', rfl, h⟩

/-! ## Paths and worlds -/

variable {σ α : Type}

/-- The events of a run in a world. -/
def trace (world : World σ) : Interaction α → σ → List Event
  | done _, _ => []
  | call c next, s =>
    ⟨c, (world c s).1⟩ :: (next (world c s).1).trace world (world c s).2

theorem path_trace (world : World σ) (run : Interaction α) (s : σ) :
    Path run (run.trace world s) (run.run world s).1 := by
  induction run generalizing s with
  | done a => exact .done a
  | call c next ih => exact .call _ (ih _ _)

/-- The reply of surroundings in which every call succeeds and nothing arrives. -/
def quietReply : (c : Call) → c.Reply
  | .connect _ | .subscribe _ | .publish .. | .unsubscribe _ | .disconnect => .ok ()
  | .poll _ => .ok none
  | .draw => .ok 0
  | .pause _ | .log _ => ()
  | .clock => 0
  | .calendar => ⟨⟨2024, 3, 1⟩, 12, 0, 0, 0, by decide⟩
  | .generateKey label _ => .ok ⟨"", label⟩
  | .storeCertificate .. | .storeIdentity _ => .ok ()

/-- The world that gives the replies of some events, in order, to the calls of these events. -/
def replay : World (List Event)
  | c, [] => (quietReply c, [])
  | c, e :: rest => if h : e.call = c then (h ▸ e.reply, rest) else (quietReply c, rest)

theorem Path.trace_replay {run : Interaction α} {t : List Event} {a : α} (h : Path run t a) :
    run.trace replay t = t ∧ (run.run replay t).1 = a := by
  induction h with
  | done a => exact ⟨rfl, rfl⟩
  | @call c next reply t a _ ih =>
    have hc : replay c (⟨c, reply⟩ :: t) = (reply, t) := dif_pos rfl
    simp only [trace, Interaction.run, hc]
    exact ⟨by rw [ih.1], ih.2⟩

theorem path_iff_world {run : Interaction α} {t : List Event} {a : α} :
    Path run t a ↔
      ∃ (τ : Type) (world : World τ) (s : τ), run.trace world s = t ∧ (run.run world s).1 = a := by
  constructor
  · intro h; exact ⟨_, replay, t, h.trace_replay⟩
  · rintro ⟨τ, world, s, rfl, rfl⟩; exact path_trace world run s

/-- The world in which polls are answered from a list, and every other call succeeds. When the
list has run out, nothing arrives. -/
def polling : World (List (Except LinkFault (Option Packet)))
  | .poll _, reply :: rest => (reply, rest)
  | c, rest => (quietReply c, rest)

end Interaction

end Enrolment
