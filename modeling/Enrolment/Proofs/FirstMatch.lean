import Enrolment.Proofs.Wait

/-!
# Enrolment.Proofs.FirstMatch

A wait is a search for the first match, with a bound. It looks at the replies to its polls one after
another: a packet of the expected kind ends it with success, a fault or a body that does not fit
ends it with an error, and every other reply costs one poll. Whether a body fits depends on the
session, which has taken the packets of the replies before.

* `pollFor_eq_watchFor`: it does not matter whether the kind of the packet is tested, or the kind
  that the session has noted last, as long as that is not the expected one at the start.
* `Replies.exists_path`: a link may reply to the polls of a run as it likes.
* `PollPath.pollEnd`: how polling ends, by induction on the polls.
* `waitFor_is_first_match`: the result of a wait, how often it polls, and the session after it.
-/

namespace Enrolment

open Interaction (Path World path_trace quietReply trace)

/-! ## The kind that the session has noted -/

namespace Session

theorem lastPacket_receive (s : Session) (d : Disposition) (body : Bytes) :
    (s.receive d body).1.lastPacket = s.lastPacket := by
  cases d with
  | accepted => rw [receive_accepted]; split <;> rfl
  | rejected => rw [receive_rejected]

theorem lastPacket_classify (s : Session) (topic : String) (body : Bytes) :
    (s.classify topic body).1.lastPacket = s.lastPacket := by
  simp only [classify]
  split
  · rfl
  · split
    · rfl
    · exact lastPacket_receive s _ body

/-- A session notes the kind of every packet, refused or not. -/
theorem lastPacket_dispatch (s : Session) (p : Packet) :
    (s.dispatch p).1.lastPacket = some p.kind := by
  cases p with
  | publish topic body => exact lastPacket_classify _ topic body
  | _ => rfl

/-- Hands over packets, in order. -/
def dispatchAll (s : Session) (ps : List Packet) : Session :=
  ps.foldl (fun s p => (s.dispatch p).1) s

@[simp] theorem dispatchAll_nil (s : Session) : s.dispatchAll [] = s := rfl

@[simp] theorem dispatchAll_cons (s : Session) (p : Packet) (ps : List Packet) :
    s.dispatchAll (p :: ps) = (s.dispatch p).1.dispatchAll ps := rfl

theorem dispatchAll_append (s : Session) (ps qs : List Packet) :
    s.dispatchAll (ps ++ qs) = (s.dispatchAll ps).dispatchAll qs := List.foldl_append

/-- One poll. A packet that it brings is handed to the session. -/
def poll (s : Session) (timeout : Duration) : Interaction (Session × Except WaitError Unit) := do
  match ← Interaction.perform (.poll timeout) with
  | .error fault => return (s, .error (.transport fault))
  | .ok none => return (s, .ok ())
  | .ok (some packet) =>
    let (s, taken) ← s.take packet
    return (s, taken.mapError .payloadTooLarge)

/-- Of what follows on taking a packet, only what it does with the session after it matters. -/
theorem take_bind_congr {α : Type} {s : Session} {p : Packet}
    {f g : Session × Except SessionError Unit → Interaction α}
    (h : f ((s.dispatch p).1, (s.dispatch p).2.map fun _ => ()) =
      g ((s.dispatch p).1, (s.dispatch p).2.map fun _ => ())) :
    s.take p >>= f = s.take p >>= g := by
  simp only [take]
  split
  · simp only [bind_assoc, pure_bind, h]
  · simp only [pure_bind, h]

end Session

/-- Polls, and after every poll, whether it brought a packet or not, looks at the kind of the last
packet that the session has noted. -/
def watchFor (expected : PacketKind) (budget : WaitBudget) :
    (left : Nat) → Session → Interaction (Session × Except WaitError Nat)
  | 0, s => return (s, .error (.timeout expected budget.maxPolls))
  | left + 1, s => do
    let (s, polled) ← s.poll budget.perPoll
    match polled with
    | .error e => return (s, .error e)
    | .ok () =>
      if s.lastPacket = some expected then return (s, .ok (budget.maxPolls - left))
      else watchFor expected budget left s

/-- What carries the induction is that no round begins with the expected kind noted: an empty poll
leaves the note as it is, and a packet that is not of the kind replaces it. -/
theorem pollFor_eq_watchFor {expected : PacketKind} {budget : WaitBudget} {left : Nat} {s : Session}
    (h : s.lastPacket ≠ some expected) :
    pollFor expected budget left s = watchFor expected budget left s := by
  induction left generalizing s with
  | zero => rfl
  | succ left ih =>
    simp only [pollFor, watchFor, Session.poll, bind_assoc]
    congr 1
    funext reply
    obtain fault | packet := reply
    · rfl
    obtain _ | p := packet
    · simp only [pure_bind, if_neg h]
      exact ih h
    · simp only [bind_assoc, pure_bind]
      refine Session.take_bind_congr ?_
      cases (s.dispatch p).2 with
      | error cause => rfl
      | ok c =>
        show (if p.kind = expected then pure ((s.dispatch p).1, .ok (budget.maxPolls - left))
            else pollFor expected budget left (s.dispatch p).1) =
          if (s.dispatch p).1.lastPacket = some expected then
            pure ((s.dispatch p).1, .ok (budget.maxPolls - left))
          else watchFor expected budget left (s.dispatch p).1
        have hkind : (s.dispatch p).1.lastPacket = some expected ↔ p.kind = expected := by
          rw [Session.lastPacket_dispatch, Option.some.injEq]
        by_cases hp : p.kind = expected
        · rw [if_pos hp, if_pos (hkind.2 hp)]
        · rw [if_neg hp, if_neg (mt hkind.1 hp)]
          exact ih (mt hkind.1 hp)

/-! ## The replies of a link -/

/-- What a link replies to polls, one after another, from 0. -/
def Replies := Nat → Except LinkFault (Option Packet)

namespace Replies

def packet? (replies : Replies) (i : Nat) : Option Packet :=
  match replies i with
  | .ok packet => packet
  | .error _ => none

/-- The packets of the first `n` replies. -/
def packets (replies : Replies) (n : Nat) : List Packet := (List.range n).filterMap replies.packet?

/-- The replies after the first one. -/
def tail (replies : Replies) : Replies := fun i => replies (i + 1)

theorem packets_succ (replies : Replies) (n : Nat) :
    replies.packets (n + 1) = (replies.packet? 0).toList ++ replies.tail.packets n := by
  rw [packets, List.range_succ_eq_map, List.filterMap_cons, List.filterMap_map]
  cases replies.packet? 0 <;> rfl

/-- The reply brings a packet of the kind. -/
def Brings (replies : Replies) (expected : PacketKind) (i : Nat) : Prop :=
  ∃ p, replies i = .ok (some p) ∧ p.kind = expected

/-- The reply is a fault, or a packet that is too large for the buffer of the session that has taken
the packets before it. -/
inductive Fails (replies : Replies) (s : Session) (i : Nat) : WaitError → Prop
  | transport {fault : LinkFault} : replies i = .error fault → Fails replies s i (.transport fault)
  | payloadTooLarge {p : Packet} {cause : SessionError} : replies i = .ok (some p) →
      ((s.dispatchAll (replies.packets i)).dispatch p).2 = .error cause →
      Fails replies s i (.payloadTooLarge cause)

/-- The reply ends no wait. -/
structure Passes (replies : Replies) (expected : PacketKind) (s : Session) (i : Nat) : Prop where
  not_brings : ¬ replies.Brings expected i
  not_fails : ∀ e, ¬ replies.Fails s i e

/-- The polls of some events get these replies. -/
def Answers (replies : Replies) (t : List Event) : Prop :=
  ∀ i reply, (polled t)[i]? = some reply → replies i = reply

section

variable {replies : Replies} {expected : PacketKind} {s : Session} {t : List Event}

theorem brings_of_packet {i : Nat} {p : Packet} (h : replies i = .ok (some p)) :
    replies.Brings expected i ↔ p.kind = expected := by
  constructor
  · rintro ⟨q, hq, hk⟩
    cases h.symm.trans hq
    exact hk
  · exact fun hk => ⟨p, h, hk⟩

theorem not_fails_of_taken {i : Nat} {p : Packet} {c : Option Classification}
    (h : replies i = .ok (some p))
    (hd : ((s.dispatchAll (replies.packets i)).dispatch p).2 = .ok c) (e : WaitError) :
    ¬ replies.Fails s i e := by
  rintro (hf | ⟨hq, hdq⟩)
  · cases h.symm.trans hf
  · cases h.symm.trans hq
    cases hd.symm.trans hdq

theorem Passes.of_empty {i : Nat} (h : replies i = .ok none) : replies.Passes expected s i where
  not_brings := by
    rintro ⟨p, hp, -⟩
    cases h.symm.trans hp
  not_fails := by
    rintro _ (hf | ⟨hp, -⟩)
    · cases h.symm.trans hf
    · cases h.symm.trans hp

theorem fails_tail {i : Nat} {e : WaitError} :
    replies.tail.Fails (s.dispatchAll (replies.packet? 0).toList) i e ↔
      replies.Fails s (i + 1) e := by
  have hsession : (s.dispatchAll (replies.packet? 0).toList).dispatchAll (replies.tail.packets i) =
      s.dispatchAll (replies.packets (i + 1)) := by
    rw [packets_succ, Session.dispatchAll_append]
  constructor
  · rintro (h | ⟨h, hd⟩)
    · exact .transport h
    · exact .payloadTooLarge h (hsession ▸ hd)
  · rintro (h | ⟨h, hd⟩)
    · exact .transport h
    · exact .payloadTooLarge h (hsession.symm ▸ hd)

theorem passes_tail {i : Nat} :
    replies.tail.Passes expected (s.dispatchAll (replies.packet? 0).toList) i ↔
      replies.Passes expected s (i + 1) :=
  ⟨fun h => ⟨h.not_brings, fun e he => h.not_fails e (fails_tail.2 he)⟩,
    fun h => ⟨h.not_brings, fun e he => h.not_fails e (fails_tail.1 he)⟩⟩

theorem answers_poll {timeout : Duration} {reply : Except LinkFault (Option Packet)} :
    replies.Answers (⟨.poll timeout, reply⟩ :: t) ↔ replies 0 = reply ∧ replies.tail.Answers t := by
  simp only [Answers, polled_poll]
  constructor
  · exact fun h => ⟨h 0 reply rfl, fun i => h (i + 1)⟩
  · rintro ⟨h, ht⟩ (_ | i) r hr
    · cases hr; exact h
    · exact ht i r hr

theorem answers_logged_append {lines : List LogLine} :
    replies.Answers (logged lines ++ t) ↔ replies.Answers t := by
  simp only [Answers, polled_append, polled_logged, List.nil_append]

end

end Replies

namespace Replies

/-- The surroundings in which polls get these replies, and every other call succeeds. -/
def world (replies : Replies) : World Nat
  | .poll _, i => (replies i, i + 1)
  | c, i => (quietReply c, i)

theorem answers_trace {α : Type} (replies : Replies) (run : Interaction α) (i : Nat) :
    Answers (fun j => replies (i + j)) (run.trace replies.world i) := by
  induction run generalizing i with
  | done a => rintro j r hr; cases hr
  | call c next ih =>
    cases c
    case poll timeout =>
      refine answers_poll.2 ⟨rfl, ?_⟩
      have hrest := ih (replies i) (i + 1)
      simp only [Nat.add_right_comm i 1] at hrest
      exact hrest
    all_goals exact ih _ i

/-- Whatever a link replies to its polls, a run goes on to its end. -/
theorem exists_path {α : Type} (replies : Replies) (run : Interaction α) :
    ∃ t a, Path run t a ∧ replies.Answers t := by
  refine ⟨_, _, path_trace replies.world run 0, ?_⟩
  simpa only [Nat.zero_add] using replies.answers_trace run 0

theorem Answers.packets_eq {replies : Replies} {t : List Event} (h : replies.Answers t) :
    Enrolment.packets t = replies.packets (polled t).length := by
  induction t generalizing replies with
  | nil => rfl
  | cons e t ih =>
    obtain ⟨c, reply⟩ := e
    cases c
    case poll timeout =>
      obtain ⟨h0, ht⟩ := answers_poll.1 h
      have hfirst : replies.packet? 0 = Event.packet? ⟨.poll timeout, reply⟩ := by
        rw [packet?, h0]
        cases reply <;> rfl
      rw [polled_poll, List.length_cons, packets_succ, packets_cons, ih ht, hfirst]
    all_goals exact ih h

end Replies

/-! ## How polling ends -/

/-- How polling ends after a number of polls, of which there are at most `left`. -/
inductive PollEnd (replies : Replies) (expected : PacketKind) (budget : WaitBudget) (s : Session)
    (left : Nat) : (polls : Nat) → Except WaitError Nat → Prop
  | found {i : Nat} (used : Nat) : i < left → (∀ j < i, replies.Passes expected s j) →
      replies.Brings expected i → (∀ e, ¬ replies.Fails s i e) →
      PollEnd replies expected budget s left (i + 1) (.ok used)
  | failed {i : Nat} {e : WaitError} : i < left → (∀ j < i, replies.Passes expected s j) →
      replies.Fails s i e → PollEnd replies expected budget s left (i + 1) (.error e)
  | spent : (∀ j < left, replies.Passes expected s j) →
      PollEnd replies expected budget s left left (.error (.timeout expected budget.maxPolls))

section Polling

variable {replies : Replies} {expected : PacketKind} {budget : WaitBudget} {s s' : Session}
  {left polls : Nat} {t : List Event} {r : Except WaitError Nat}

/-- A reply that ends nothing comes before the others. -/
theorem PollEnd.after_pass (h0 : replies.Passes expected s 0)
    (h : PollEnd replies.tail expected budget (s.dispatchAll (replies.packet? 0).toList) left polls
      r) :
    PollEnd replies expected budget s (left + 1) (polls + 1) r := by
  have hpasses {i : Nat}
      (hi : ∀ j < i, replies.tail.Passes expected (s.dispatchAll (replies.packet? 0).toList) j) :
      ∀ j < i + 1, replies.Passes expected s j := by
    rintro (_ | j) hj
    · exact h0
    · exact Replies.passes_tail.1 (hi j (Nat.lt_of_succ_lt_succ hj))
  cases h with
  | found used hi hpass hbrings hfails =>
    exact .found used (Nat.succ_lt_succ hi) (hpasses hpass) hbrings
      fun e he => hfails e (Replies.fails_tail.2 he)
  | failed hi hpass hfails =>
    exact .failed (Nat.succ_lt_succ hi) (hpasses hpass) (Replies.fails_tail.1 hfails)
  | spent hpass => exact .spent (hpasses hpass)

theorem PollPath.pollEnd (h : PollPath expected budget left s t s' r) (ha : replies.Answers t) :
    PollEnd replies expected budget s left (polled t).length r := by
  induction h generalizing replies with
  | spent s => exact .spent fun j hj => absurd hj (Nat.not_lt_zero j)
  | fault s fault =>
    have h0 := (Replies.answers_poll.1 ha).1
    exact .failed (Nat.succ_pos _) (fun j hj => absurd hj (Nat.not_lt_zero j)) (.transport h0)
  | @empty left s s' t r _ ih =>
    obtain ⟨h0, ht⟩ := Replies.answers_poll.1 ha
    have hsame : s.dispatchAll (replies.packet? 0).toList = s := by
      rw [Replies.packet?, h0]
      rfl
    exact .after_pass (.of_empty h0) (hsame.symm ▸ ih ht)
  | @refused left s p cause lines hd =>
    have h0 := (Replies.answers_poll.1 ha).1
    rw [polled_poll, polled_logged]
    exact .failed (Nat.succ_pos _) (fun j hj => absurd hj (Nat.not_lt_zero j))
      (.payloadTooLarge h0 hd)
  | @found left s p c lines hd hk =>
    have h0 := (Replies.answers_poll.1 ha).1
    rw [polled_poll, polled_logged]
    exact .found _ (Nat.succ_pos _) (fun j hj => absurd hj (Nat.not_lt_zero j)) ⟨p, h0, hk⟩
      (Replies.not_fails_of_taken h0 hd)
  | @other left s s' p c t r lines hd hk _ ih =>
    obtain ⟨h0, ht⟩ := Replies.answers_poll.1 ha
    have hpass : replies.Passes expected s 0 :=
      ⟨mt (Replies.brings_of_packet h0).1 hk, Replies.not_fails_of_taken h0 hd⟩
    have hsame : s.dispatchAll (replies.packet? 0).toList = (s.dispatch p).1 := by
      rw [Replies.packet?, h0]
      rfl
    have hrest := ih (Replies.answers_logged_append.1 ht)
    rw [polled_poll, polled_append, polled_logged]
    exact .after_pass hpass (hsame.symm ▸ hrest)

/-- A first match that nothing fails before, or at, is where polling ends. -/
theorem PollEnd.of_first_match {i : Nat} (h : PollEnd replies expected budget s left polls r)
    (hi : i < left) (hbrings : replies.Brings expected i)
    (hfirst : ∀ j < i, ¬ replies.Brings expected j)
    (hfails : ∀ j < i + 1, ∀ e, ¬ replies.Fails s j e) : polls = i + 1 ∧ ∃ used, r = .ok used := by
  cases h with
  | @found k used _ hpass hk _ =>
    obtain hlt | rfl | hgt := Nat.lt_trichotomy i k
    · exact absurd hbrings (hpass i hlt).not_brings
    · exact ⟨rfl, used, rfl⟩
    · exact absurd hk (hfirst k hgt)
  | @failed k e _ hpass hk =>
    obtain hlt | hle := Nat.lt_or_ge i k
    · exact absurd hbrings (hpass i hlt).not_brings
    · exact absurd hk (hfails k (Nat.lt_succ_of_le hle) e)
  | spent hpass => exact absurd hbrings (hpass i hi).not_brings

/-- With a failure that no match is before, polling ends with a failure. -/
theorem PollEnd.of_failure {i : Nat} {e : WaitError}
    (h : PollEnd replies expected budget s left polls r) (hi : i < left)
    (hfails : replies.Fails s i e) (hfirst : ∀ j < i, ¬ replies.Brings expected j) :
    ∃ k e', replies.Fails s k e' ∧ r = .error e' := by
  cases h with
  | @found k used _ hpass hk hnone =>
    obtain hlt | rfl | hgt := Nat.lt_trichotomy i k
    · exact absurd hfails ((hpass i hlt).not_fails e)
    · exact absurd hfails (hnone e)
    · exact absurd hk (hfirst k hgt)
  | failed _ _ hk => exact ⟨_, _, hk, rfl⟩
  | spent hpass => exact absurd hfails ((hpass i hi).not_fails e)

/-- With a match, polling ends well if and only if it is the first, and nothing fails up to it. -/
theorem PollEnd.ok_iff (h : PollEnd replies expected budget s left polls r)
    (hused : ∀ k, r = .ok k → polls = k) (k : Nat) :
    r = .ok k ↔ 1 ≤ k ∧ k ≤ left ∧ replies.Brings expected (k - 1) ∧
      (∀ j < k - 1, ¬ replies.Brings expected j) ∧ ∀ j < k, ∀ e, ¬ replies.Fails s j e := by
  constructor
  · rintro rfl
    have hpolls := hused k rfl
    cases h with
    | @found i _ hi hpass hbrings hnone =>
      subst hpolls
      refine ⟨Nat.succ_pos i, hi, hbrings, fun j hj => (hpass j hj).not_brings, fun j hj => ?_⟩
      obtain hlt | rfl := Nat.lt_or_eq_of_le (Nat.le_of_lt_succ hj)
      · exact (hpass j hlt).not_fails
      · exact hnone
  · rintro ⟨hpos, hle, hbrings, hfirst, hfails⟩
    obtain ⟨i, rfl⟩ := Nat.exists_eq_succ_of_ne_zero (Nat.pos_iff_ne_zero.1 hpos)
    obtain ⟨hpolls, used, rfl⟩ := h.of_first_match hle hbrings hfirst hfails
    rw [← hused used rfl, hpolls]

theorem PollEnd.fault_iff (h : PollEnd replies expected budget s left polls r) :
    ((∃ fault, r = .error (.transport fault)) ∨ ∃ cause, r = .error (.payloadTooLarge cause)) ↔
      ∃ i < left, (∃ e, replies.Fails s i e) ∧ ∀ j < i, ¬ replies.Brings expected j := by
  constructor
  · intro hr
    cases h with
    | found used => obtain ⟨_, ⟨⟩⟩ | ⟨_, ⟨⟩⟩ := hr
    | @failed i e hi hpass hfails =>
      exact ⟨i, hi, ⟨e, hfails⟩, fun j hj => (hpass j hj).not_brings⟩
    | spent => obtain ⟨_, ⟨⟩⟩ | ⟨_, ⟨⟩⟩ := hr
  · rintro ⟨i, hi, ⟨e, he⟩, hfirst⟩
    obtain ⟨k, e', ⟨hf⟩ | ⟨hp, hd⟩, rfl⟩ := h.of_failure hi he hfirst
    · exact .inl ⟨_, rfl⟩
    · exact .inr ⟨_, rfl⟩

/-- Polling ends with a match, with a failure, or when its polls are used up. -/
theorem PollEnd.cases_polls (h : PollEnd replies expected budget s left polls r)
    (hused : ∀ k, r = .ok k → polls = k) :
    (∃ k, r = .ok k ∧ polls = k) ∨
      (∃ i e, r = .error e ∧ replies.Fails s i e ∧ (∀ j < i, replies.Passes expected s j) ∧
        polls = i + 1) ∨
      r = .error (.timeout expected budget.maxPolls) ∧ polls = left := by
  cases h with
  | found used => exact .inl ⟨used, rfl, hused used rfl⟩
  | @failed i e _ hpass hfails => exact .inr (.inl ⟨i, e, rfl, hfails, hpass, rfl⟩)
  | spent => exact .inr (.inr ⟨rfl, rfl⟩)

theorem PollPath.calls (h : PollPath expected budget left s t s' r) :
    ∀ e ∈ t, e.call = .poll budget.perPoll ∨ ∃ line, e.call = .log line := by
  have hlog (lines : List LogLine) :
      ∀ e ∈ logged lines, e.call = .poll budget.perPoll ∨ ∃ line, e.call = .log line := by
    intro e he
    obtain ⟨line, -, rfl⟩ := List.mem_map.1 he
    exact .inr ⟨line, rfl⟩
  induction h with
  | spent s => simp
  | fault s fault => simp
  | empty _ ih => exact List.forall_mem_cons.2 ⟨.inl rfl, ih⟩
  | refused lines _ | found lines _ _ => exact List.forall_mem_cons.2 ⟨.inl rfl, hlog lines⟩
  | other lines _ _ _ ih =>
    exact List.forall_mem_cons.2 ⟨.inl rfl, List.forall_mem_append.2 ⟨hlog lines, ih⟩⟩

end Polling

theorem Waits.after_eq {t : List Event} (h : Waits t) (s : Session) :
    s.after t = s.dispatchAll (packets t) := by
  induction t generalizing s with
  | nil => rfl
  | cons e t ih =>
    obtain ⟨he, ht⟩ := waits_cons.1 h
    rw [Session.after_cons, packets_cons, Session.dispatchAll_append, ih ht]
    cases hp : e.packet? with
    | none => rw [s.follow_of_isWait he hp]; rfl
    | some p => rw [s.follow_of_packet hp]; rfl

/-- A wait is the search for the first match among the replies, the polls being numbered from 0.

It ends with `k` polls used if and only if the last of `k` replies, no more than the budget has,
brings a packet of the kind, none before does, and none of the `k` is a fault or a body that does
not fit; with a fault or such a body if and only if there is one with no match before it; and
otherwise when the budget is used up. It makes no polls but these, with the time that the budget
gives to each. The session forgets the kind of its last packet and takes the packets polled, in
order, so that what it has received before is never the match; and looking, after every poll, at
the kind that the session has noted last is the same search. -/
theorem waitFor_is_first_match {expected : PacketKind} {budget : WaitBudget} {s s' : Session}
    {t : List Event} {r : Except WaitError Nat} {replies : Replies}
    (h : Path (waitFor expected budget s) t (s', r)) (ha : replies.Answers t) :
    let polls := (polled t).length
    let start := s.resetLastPacket
    (∀ k, r = .ok k ↔ 1 ≤ k ∧ k ≤ budget.maxPolls ∧ replies.Brings expected (k - 1) ∧
      (∀ j < k - 1, ¬ replies.Brings expected j) ∧ ∀ j < k, ∀ e, ¬ replies.Fails start j e) ∧
    (((∃ fault, r = .error (.transport fault)) ∨ ∃ cause, r = .error (.payloadTooLarge cause)) ↔
      ∃ i < budget.maxPolls, (∃ e, replies.Fails start i e) ∧
        ∀ j < i, ¬ replies.Brings expected j) ∧
    ((∃ k, r = .ok k ∧ polls = k) ∨
      (∃ i e, r = .error e ∧ replies.Fails start i e ∧
        (∀ j < i, replies.Passes expected start j) ∧ polls = i + 1) ∨
      r = .error (.timeout expected budget.maxPolls) ∧ polls = budget.maxPolls) ∧
    (∀ e ∈ t, e.call = .poll budget.perPoll ∨ ∃ line, e.call = .log line) ∧
    s' = start.dispatchAll (replies.packets polls) ∧
    (∀ kind, waitFor expected budget { s with lastPacket := kind } = waitFor expected budget s) ∧
    waitFor expected budget s = watchFor expected budget budget.maxPolls start := by
  intro polls start
  have hpoll : PollPath expected budget budget.maxPolls start t s' r := path_pollFor h
  have hend : PollEnd replies expected budget start budget.maxPolls polls r := hpoll.pollEnd ha
  have hused : ∀ k, r = .ok k → polls = k := by
    rintro k rfl
    have hsum := (hpoll.used (Nat.le_refl _)).2
    omega
  have hsession : s' = start.dispatchAll (replies.packets polls) := by
    rw [hpoll.session, hpoll.waits.after_eq, ha.packets_eq]
  have hnote : start.lastPacket ≠ some expected := nofun
  exact ⟨hend.ok_iff hused, hend.fault_iff, hend.cases_polls hused, hpoll.calls, hsession,
    fun _ => rfl, pollFor_eq_watchFor hnote⟩

/-- Nothing at first, then an acknowledgement, and then a publish. -/
def lateReplies : Replies
  | 1 => .ok (some (.subAck true))
  | 2 => .ok (some (.publish "topic" [1]))
  | _ => .ok none

/-- A wait of a session that has received a publish before. -/
def lateWait : Interaction (Session × Except WaitError Nat) :=
  waitFor .publish ⟨.ofMillis 700, 3⟩ { Session.new 16 with lastPacket := some .publish }

theorem lateWait_is_first_match :
    let t := lateWait.trace lateReplies.world 0
    let result := (lateWait.run lateReplies.world 0).1
    Path lateWait t result ∧ lateReplies.Answers t ∧ result.2 = .ok 3 ∧
      lateReplies.Brings .publish 2 ∧ (∀ j < 2, ¬ lateReplies.Brings .publish j) ∧
      result.1 = (Session.new 16).dispatchAll [.subAck true, .publish "topic" [1]] := by
  intro t result
  have hpath : Path lateWait t result := path_trace lateReplies.world lateWait 0
  have hanswers : lateReplies.Answers t := by
    simpa only [Nat.zero_add] using lateReplies.answers_trace lateWait 0
  have hused : result.2 = .ok 3 := rfl
  obtain ⟨hok, -, -, -, hsession, -⟩ := waitFor_is_first_match hpath hanswers
  obtain ⟨-, -, hbrings, hfirst, -⟩ := (hok 3).1 hused
  exact ⟨hpath, hanswers, hused, hbrings, hfirst, hsession⟩

end Enrolment
