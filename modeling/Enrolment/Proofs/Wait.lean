import Enrolment.Proofs.History
import Enrolment.Wait

/-!
# Enrolment.Proofs.Wait

The paths of a wait. A wait polls and writes to the log, and does nothing else; the session after it
is the one that has been handed every packet polled. It ends with the first packet of its kind, or
with a body that does not fit, or without either.
-/

namespace Enrolment

open Interaction

/-- How the packets of a wait for a kind go with its end. -/
def EndsWait (expected : PacketKind) (ps : List Packet) : Except WaitError Nat → Prop
  | .ok _ => ∃ earlier p, ps = earlier ++ [p] ∧ p.kind = expected ∧ ∀ q ∈ earlier, q.kind ≠ expected
  | .error (.payloadTooLarge _) =>
    ∃ earlier p, ps = earlier ++ [p] ∧ p.kind = .publish ∧ ∀ q ∈ earlier, q.kind ≠ expected
  | .error _ => ∀ q ∈ ps, q.kind ≠ expected

theorem EndsWait.cons {expected : PacketKind} {p : Packet} {ps : List Packet}
    {r : Except WaitError Nat} (h : EndsWait expected ps r) (hp : p.kind ≠ expected) :
    EndsWait expected (p :: ps) r := by
  match r, h with
  | .ok _, ⟨earlier, q, hps, hq, hne⟩ | .error (.payloadTooLarge _), ⟨earlier, q, hps, hq, hne⟩ =>
    exact ⟨p :: earlier, q, by rw [hps]; rfl, hq, List.forall_mem_cons.2 ⟨hp, hne⟩⟩
  | .error (.timeout ..), h | .error (.transport _), h => exact List.forall_mem_cons.2 ⟨hp, h⟩

theorem path_take {s : Session} {p : Packet} {t : List Event} {s' : Session}
    {r : Except SessionError Unit} (h : Path (s.take p) t (s', r)) :
    (∃ lines, t = logged lines) ∧
      s' = (s.dispatch p).1 ∧ r = (s.dispatch p).2.map fun _ => () := by
  simp only [Session.take] at h
  split at h
  · next line _ =>
    obtain ⟨_, _, rfl, hp⟩ := path_perform_bind.1 h
    obtain ⟨rfl, hr⟩ := path_pure.1 hp
    cases hr
    exact ⟨⟨[line], rfl⟩, rfl, rfl⟩
  · obtain ⟨rfl, hr⟩ := path_pure.1 h
    cases hr
    exact ⟨⟨[], rfl⟩, rfl, rfl⟩

/-- The ways in which polling can go: each poll comes to nothing, ends the wait, or leaves it with
one poll less. -/
inductive PollPath (expected : PacketKind) (budget : WaitBudget) :
    Nat → Session → List Event → Session → Except WaitError Nat → Prop
  | spent (s : Session) :
      PollPath expected budget 0 s [] s (.error (.timeout expected budget.maxPolls))
  | fault {left : Nat} (s : Session) (fault : LinkFault) :
      PollPath expected budget (left + 1) s [⟨.poll budget.perPoll, .error fault⟩] s
        (.error (.transport fault))
  | empty {left : Nat} {s s' : Session} {t : List Event} {r : Except WaitError Nat} :
      PollPath expected budget left s t s' r →
      PollPath expected budget (left + 1) s (⟨.poll budget.perPoll, .ok none⟩ :: t) s' r
  | refused {left : Nat} {s : Session} {p : Packet} {cause : SessionError}
      (lines : List LogLine) :
      (s.dispatch p).2 = .error cause →
      PollPath expected budget (left + 1) s
        (⟨.poll budget.perPoll, .ok (some p)⟩ :: logged lines) (s.dispatch p).1
        (.error (.payloadTooLarge cause))
  | found {left : Nat} {s : Session} {p : Packet} {c : Option Classification}
      (lines : List LogLine) :
      (s.dispatch p).2 = .ok c → p.kind = expected →
      PollPath expected budget (left + 1) s
        (⟨.poll budget.perPoll, .ok (some p)⟩ :: logged lines) (s.dispatch p).1
        (.ok (budget.maxPolls - left))
  | other {left : Nat} {s s' : Session} {p : Packet} {c : Option Classification} {t : List Event}
      {r : Except WaitError Nat} (lines : List LogLine) :
      (s.dispatch p).2 = .ok c → p.kind ≠ expected →
      PollPath expected budget left (s.dispatch p).1 t s' r →
      PollPath expected budget (left + 1) s
        (⟨.poll budget.perPoll, .ok (some p)⟩ :: (logged lines ++ t)) s' r

theorem path_pollFor {expected : PacketKind} {budget : WaitBudget} {left : Nat} {s s' : Session}
    {t : List Event} {r : Except WaitError Nat}
    (h : Path (pollFor expected budget left s) t (s', r)) :
    PollPath expected budget left s t s' r := by
  induction left generalizing s t with
  | zero =>
    obtain ⟨rfl, hr⟩ := path_pure.1 h
    cases hr
    exact .spent _
  | succ left ih =>
    simp only [pollFor] at h
    obtain ⟨reply, t₁, rfl, h₁⟩ := path_perform_bind.1 h
    match reply, h₁ with
    | .error fault, h₁ =>
      obtain ⟨rfl, hr⟩ := path_pure.1 h₁
      cases hr
      exact .fault _ fault
    | .ok none, h₁ => exact .empty (ih h₁)
    | .ok (some p), h₁ =>
      obtain ⟨tl, t₂, ⟨s₁, taken⟩, rfl, htake, h₂⟩ := path_bind.1 h₁
      obtain ⟨⟨lines, rfl⟩, rfl, rfl⟩ := path_take htake
      cases hd : (s.dispatch p).2 with
      | error cause =>
        simp only [hd, Except.map] at h₂
        obtain ⟨rfl, hr⟩ := path_pure.1 h₂
        cases hr
        rw [List.append_nil]
        exact .refused lines hd
      | ok c =>
        simp only [hd, Except.map] at h₂
        by_cases hk : p.kind = expected
        · rw [if_pos hk] at h₂
          obtain ⟨rfl, hr⟩ := path_pure.1 h₂
          cases hr
          rw [List.append_nil]
          exact .found lines hd hk
        · rw [if_neg hk] at h₂
          exact .other lines hd hk (ih h₂)

section Polling

variable {expected : PacketKind} {budget : WaitBudget} {left : Nat} {s s' : Session}
  {t : List Event} {r : Except WaitError Nat}

theorem Session.follow_polled (s : Session) (timeout : Duration) (p : Packet)
    (lines : List LogLine) :
    (s.follow ⟨.poll timeout, .ok (some p)⟩).after (logged lines) = (s.dispatch p).1 :=
  (quiet_logged lines).session _

/-- Polling hands to the session what it polls. -/
theorem PollPath.session (h : PollPath expected budget left s t s' r) : s' = s.after t := by
  induction h with
  | spent s => rfl
  | fault s fault => rfl
  | empty _ ih => exact ih
  | refused lines _ | found lines _ _ => exact (Session.follow_polled _ _ _ lines).symm
  | other lines _ _ _ ih =>
    rw [ih, Session.after_cons, Session.after_append, Session.follow_polled]

/-- A wait forgets the kind of the last packet before it polls. -/
theorem PollPath.agrees (h : PollPath expected budget left s.resetLastPacket t s' r) :
    (s.after t).Agrees s' := by
  rw [h.session]
  exact (Session.Agrees.reset s).after t

theorem PollPath.waits (h : PollPath expected budget left s t s' r) : Waits t := by
  induction h with
  | spent s => exact waits_nil
  | fault s fault => exact waits_cons.2 ⟨rfl, waits_nil⟩
  | empty _ ih => exact waits_cons.2 ⟨rfl, ih⟩
  | refused lines _ | found lines _ _ => exact waits_cons.2 ⟨rfl, waits_logged lines⟩
  | other lines _ _ _ ih => exact waits_cons.2 ⟨rfl, waits_append.2 ⟨waits_logged lines, ih⟩⟩

/-- Polling ends as its packets say. -/
theorem PollPath.ends (h : PollPath expected budget left s t s' r) :
    EndsWait expected (packets t) r := by
  induction h with
  | spent s => simp [EndsWait]
  | fault s fault => simp [EndsWait, Event.packet?]
  | empty _ ih => simpa [Event.packet?] using ih
  | @refused _ _ p _ lines hd =>
    refine ⟨[], p, ?_, Session.kind_of_dispatch_error hd, by simp⟩
    simp [Event.packet?, (quiet_logged lines).packets]
  | @found _ _ p _ lines _ hk =>
    refine ⟨[], p, ?_, hk, by simp⟩
    simp [Event.packet?, (quiet_logged lines).packets]
  | other lines _ hk _ ih =>
    simpa [Event.packet?, (quiet_logged lines).packets] using ih.cons hk

/-- A wait that succeeds says how many polls it has used, one at least. -/
theorem PollPath.used {used : Nat} (h : PollPath expected budget left s t s' (.ok used))
    (hleft : left ≤ budget.maxPolls) :
    0 < (polled t).length ∧ used + left = budget.maxPolls + (polled t).length := by
  generalize hr : (Except.ok used : Except WaitError Nat) = r at h
  induction h with
  | spent s | fault s fault | refused lines _ => cases hr
  | found lines _ _ =>
    cases hr
    simp only [polled_poll, polled_logged, List.length_cons, List.length_nil]
    omega
  | empty _ ih =>
    have hrest := ih (by omega) hr
    simp only [polled_poll, List.length_cons]
    omega
  | other lines _ _ _ ih =>
    have hrest := ih (by omega) hr
    simp only [polled_poll, polled_append, polled_logged, List.nil_append, List.length_cons]
    omega

end Polling

theorem path_waitFor {expected : PacketKind} {budget : WaitBudget} {s s' : Session}
    {t : List Event} {r : Except WaitError Nat} (h : Path (waitFor expected budget s) t (s', r)) :
    (s.after t).Agrees s' ∧ Waits t ∧ EndsWait expected (packets t) r := by
  have hpoll := path_pollFor h
  exact ⟨hpoll.agrees, hpoll.waits, hpoll.ends⟩

end Enrolment
