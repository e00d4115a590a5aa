import Enrolment.Proofs.Answer
import Enrolment.Proofs.Path

/-!
# Enrolment.Proofs.History

A session is a fold of the events of a step. `Session.after` replays them: a SUBSCRIBE that was
taken adds its filters, an UNSUBSCRIBE removes its filter, a delivered packet is dispatched, and
nothing else counts. The parts of a step forget the kind of the last packet now and then, so what
is said of them is up to that (`Session.Agrees`).

* `answer?_after`: while a step is in flight, the answer that the session holds is the first one
  among the packets delivered.
* `lastSubAck_after`: the acknowledgement that a session holds is the last one delivered.
* `mem_after_of_no_unsubscribe`, `mem_after_of_no_subscribe`: which filters are left.
-/

namespace Enrolment

/-! ## What events deliver -/

/-- The packet that an event delivers. -/
def Event.packet? : Event → Option Packet
  | ⟨.poll _, .ok packet⟩ => packet
  | _ => none

/-- The packets that some events deliver. -/
def packets (t : List Event) : List Packet := t.filterMap Event.packet?

@[simp] theorem packets_nil : packets [] = [] := rfl

@[simp] theorem packets_append (t u : List Event) : packets (t ++ u) = packets t ++ packets u :=
  List.filterMap_append

@[simp] theorem packets_cons (e : Event) (t : List Event) :
    packets (e :: t) = e.packet?.toList ++ packets t := by
  cases h : e.packet? <;> simp [packets, h]

theorem packets_eq_nil {t : List Event} (h : ∀ e ∈ t, ∀ timeout, e.call ≠ .poll timeout) :
    packets t = [] := by
  refine List.filterMap_eq_nil_iff.2 fun e he => ?_
  obtain ⟨c, r⟩ := e
  cases c <;> first | rfl | exact absurd rfl (h _ he _)

/-- The reply to a poll. -/
def Event.polled? : Event → Option (Except LinkFault (Option Packet))
  | ⟨.poll _, reply⟩ => some reply
  | _ => none

/-- The replies to the polls among some events. -/
def polled (t : List Event) : List (Except LinkFault (Option Packet)) :=
  t.filterMap Event.polled?

@[simp] theorem polled_nil : polled [] = [] := rfl

@[simp] theorem polled_append (t u : List Event) : polled (t ++ u) = polled t ++ polled u :=
  List.filterMap_append

@[simp] theorem polled_poll (timeout : Duration) (reply : Except LinkFault (Option Packet))
    (t : List Event) : polled (⟨.poll timeout, reply⟩ :: t) = reply :: polled t := rfl

theorem Topics.firstAnswer_toList (topics : Topics) (capacity : Nat) (p : Option Packet) :
    topics.firstAnswer capacity p.toList = p.bind (topics.answer? capacity) := by
  cases p <;> simp

/-- The acknowledgements of SUBSCRIBEs that some events deliver. -/
def subAcks (t : List Event) : List Bool := (packets t).filterMap Packet.granted?

@[simp] theorem subAcks_nil : subAcks [] = [] := rfl

theorem subAcks_cons (e : Event) (t : List Event) :
    subAcks (e :: t) = (e.packet?.bind Packet.granted?).toList ++ subAcks t := by
  cases h : e.packet? with
  | none => simp [subAcks, h]
  | some p => cases hp : p.granted? <;> simp [subAcks, h, hp]

@[simp] theorem subAcks_append (t u : List Event) : subAcks (t ++ u) = subAcks t ++ subAcks u := by
  simp [subAcks]

/-! ## Events and those before them -/

/-- An element of a list that was put together from two stands in the first or in the second. -/
theorem append_eq_append_cons {α : Type} {xs ys earlier later : List α} {a : α}
    (h : xs ++ ys = earlier ++ a :: later) :
    (∃ z, xs = earlier ++ a :: z ∧ later = z ++ ys) ∨
      ∃ z, earlier = xs ++ z ∧ ys = z ++ a :: later := by
  obtain ⟨z, rfl, hz⟩ | ⟨z, rfl, hz⟩ := List.append_eq_append_iff.1 h
  · exact .inr ⟨z, rfl, hz⟩
  · cases z with
    | nil => exact .inr ⟨[], by simp, hz.symm⟩
    | cons b z =>
      cases hz
      exact .inl ⟨z, rfl, rfl⟩

/-- Every event of `t` stands in a relation to the events before it. -/
def AtEach (P : List Event → Event → Prop) (t : List Event) : Prop :=
  ∀ earlier e later, t = earlier ++ e :: later → P earlier e

namespace AtEach

variable {P : List Event → Event → Prop} {t u : List Event}

theorem of_forall (h : ∀ e ∈ t, ∀ earlier, P earlier e) : AtEach P t := by
  rintro earlier e later rfl
  exact h e (by simp) earlier

theorem append (ht : AtEach P t) (hu : AtEach (fun earlier => P (t ++ earlier)) u) :
    AtEach P (t ++ u) := by
  intro earlier e later h
  obtain ⟨v, hv, -⟩ | ⟨v, rfl, hv⟩ := append_eq_append_cons h
  · exact ht earlier e v hv
  · exact hu v e later hv

theorem cons {e : Event} (he : P [] e) (ht : AtEach (fun earlier => P (e :: earlier)) t) :
    AtEach P (e :: t) := by
  refine append (t := [e]) ?_ ht
  intro earlier e' later h
  obtain ⟨rfl, h⟩ | ⟨u, rfl, h⟩ := List.cons_eq_append_iff.1 h
  · cases h; exact he
  · simp at h

theorem forall_mem {p : Event → Prop} (h : AtEach (fun _ => p) t) : ∀ e ∈ t, p e := by
  intro e he
  obtain ⟨earlier, later, rfl⟩ := List.append_of_mem he
  exact h earlier e later rfl

theorem mono {Q : List Event → Event → Prop} (h : AtEach P t)
    (hPQ : ∀ earlier, ∀ e ∈ t, P earlier e → Q earlier e) : AtEach Q t := by
  rintro earlier e later rfl
  exact hPQ earlier e (by simp) (h earlier e later rfl)

end AtEach

/-! ## What a session makes of events -/

namespace Session

/-- What one event does to a session. -/
def follow (s : Session) : Event → Session
  | ⟨.subscribe filters, .ok ()⟩ => s.recordSubscriptions filters
  | ⟨.unsubscribe filter, _⟩ => s.dropSubscription filter
  | ⟨.poll _, .ok (some packet)⟩ => (s.dispatch packet).1
  | _ => s

/-- The session after some events. -/
def after (s : Session) (t : List Event) : Session := t.foldl follow s

@[simp] theorem after_nil (s : Session) : s.after [] = s := rfl

@[simp] theorem after_cons (s : Session) (e : Event) (t : List Event) :
    s.after (e :: t) = (s.follow e).after t := rfl

@[simp] theorem after_append (s : Session) (t u : List Event) :
    s.after (t ++ u) = (s.after t).after u := List.foldl_append

@[simp] theorem recordSubscriptions_cons (s : Session) (f : String) (fs : List String) :
    s.recordSubscriptions (f :: fs) = (s.recordSubscription f).recordSubscriptions fs := rfl

/-- The filters alone change. -/
theorem exists_recordSubscriptions_eq (s : Session) (filters : List String) :
    ∃ l, s.recordSubscriptions filters = { s with subscriptions := l } ∧
      ∀ f, f ∈ l ↔ f ∈ s.subscriptions ∨ f ∈ filters := by
  induction filters generalizing s with
  | nil => exact ⟨s.subscriptions, rfl, by simp⟩
  | cons g gs ih =>
    obtain ⟨l, hl, hmem⟩ := ih (s.recordSubscription g)
    refine ⟨l, ?_, fun f => ?_⟩
    · rw [recordSubscriptions_cons, hl]
      by_cases hg : g ∈ s.subscriptions <;> simp [recordSubscription, hg]
    · rw [hmem, List.mem_cons]
      by_cases hg : g ∈ s.subscriptions
      · simp only [recordSubscription, hg, if_true]
        constructor
        · rintro (h | h)
          · exact .inl h
          · exact .inr (.inr h)
        · rintro (h | rfl | h)
          · exact .inl h
          · exact .inl hg
          · exact .inr h
      · simp [recordSubscription, hg, or_assoc]

theorem mem_recordSubscriptions {s : Session} {filters : List String} {f : String} :
    f ∈ (s.recordSubscriptions filters).subscriptions ↔ f ∈ s.subscriptions ∨ f ∈ filters := by
  obtain ⟨l, hl, hmem⟩ := exists_recordSubscriptions_eq s filters
  rw [hl]; exact hmem f

theorem mem_dropSubscription {s : Session} {f g : String} :
    f ∈ (s.dropSubscription g).subscriptions ↔ f ∈ s.subscriptions ∧ f ≠ g := by
  simp [dropSubscription]

/-! ### Up to the kind of the last packet -/

/-- Two sessions agree on everything but the kind of the last packet. -/
def Agrees (s s' : Session) : Prop := ∃ kind, s' = { s with lastPacket := kind }

theorem recordSubscriptions_lastPacket (s : Session) (kind : Option PacketKind)
    (filters : List String) :
    recordSubscriptions { s with lastPacket := kind } filters =
      { s.recordSubscriptions filters with lastPacket := kind } := by
  induction filters generalizing s with
  | nil => rfl
  | cons f fs ih =>
    rw [recordSubscriptions_cons, recordSubscriptions_cons, ← ih]
    by_cases hf : f ∈ s.subscriptions <;> simp [recordSubscription, hf]

namespace Agrees

variable {s s' s'' : Session}

theorem refl (s : Session) : Agrees s s := ⟨s.lastPacket, rfl⟩

theorem trans (h : Agrees s s') (h' : Agrees s' s'') : Agrees s s'' := by
  obtain ⟨k, rfl⟩ := h
  obtain ⟨k', rfl⟩ := h'
  exact ⟨k', rfl⟩

theorem reset (s : Session) : Agrees s s.resetLastPacket := ⟨none, rfl⟩

theorem active (h : Agrees s s') : s'.active = s.active := by
  obtain ⟨k, rfl⟩ := h; rfl

theorem lastOutcome (h : Agrees s s') : s'.lastOutcome = s.lastOutcome := by
  obtain ⟨k, rfl⟩ := h; rfl

theorem payload (h : Agrees s s') : s'.payload = s.payload := by
  obtain ⟨k, rfl⟩ := h; rfl

theorem answer? (h : Agrees s s') : s'.answer? = s.answer? := by
  obtain ⟨k, rfl⟩ := h; rfl

theorem lastSubAck (h : Agrees s s') : s'.lastSubAck = s.lastSubAck := by
  obtain ⟨k, rfl⟩ := h; rfl

theorem subscriptions (h : Agrees s s') : s'.subscriptions = s.subscriptions := by
  obtain ⟨k, rfl⟩ := h; rfl

theorem duplicateResponses (h : Agrees s s') : s'.duplicateResponses = s.duplicateResponses := by
  obtain ⟨k, rfl⟩ := h; rfl

theorem drop (h : Agrees s s') (filter : String) :
    Agrees (s.dropSubscription filter) (s'.dropSubscription filter) := by
  obtain ⟨k, rfl⟩ := h; exact ⟨k, rfl⟩

theorem follow (h : Agrees s s') (e : Event) : Agrees (s.follow e) (s'.follow e) := by
  obtain ⟨k, rfl⟩ := h
  simp only [Session.follow]
  split
  · exact ⟨k, recordSubscriptions_lastPacket s k _⟩
  · exact ⟨k, rfl⟩
  · rw [dispatch_lastPacket]; exact refl _
  · exact ⟨k, rfl⟩

theorem after (h : Agrees s s') (t : List Event) : Agrees (s.after t) (s'.after t) := by
  induction t generalizing s s' with
  | nil => exact h
  | cons e t ih => exact ih (h.follow e)

/-- One part of a step after another. -/
theorem append {t u : List Event} (h : Agrees (s.after t) s') (h' : Agrees (s'.after u) s'') :
    Agrees (s.after (t ++ u)) s'' := by
  rw [after_append]
  exact (h.after u).trans h'

end Agrees

/-! ### The step in flight and its answer -/

theorem follow_of_packet (s : Session) {e : Event} {p : Packet} (h : e.packet? = some p) :
    s.follow e = (s.dispatch p).1 := by
  obtain ⟨c, r⟩ := e
  cases c <;> try cases h
  case poll =>
    cases r with
    | error fault => cases h
    | ok packet => cases h; rfl

theorem follow_of_no_packet (s : Session) {e : Event} (h : e.packet? = none) :
    ∃ l, s.follow e = { s with subscriptions := l } := by
  simp only [follow]
  split
  · next filters =>
    obtain ⟨l, hl, -⟩ := exists_recordSubscriptions_eq s filters
    exact ⟨l, hl⟩
  · exact ⟨_, rfl⟩
  · cases h
  · exact ⟨s.subscriptions, rfl⟩

theorem follow_active (s : Session) (e : Event) : (s.follow e).active = s.active := by
  cases h : e.packet? with
  | none => obtain ⟨l, hl⟩ := follow_of_no_packet s h; rw [hl]
  | some p => rw [follow_of_packet s h]; exact (dispatch_frame s p).active

theorem follow_capacity (s : Session) (e : Event) :
    (s.follow e).payload.capacity = s.payload.capacity := by
  cases h : e.packet? with
  | none => obtain ⟨l, hl⟩ := follow_of_no_packet s h; rw [hl]
  | some p => rw [follow_of_packet s h]; exact (dispatch_frame s p).capacity

@[simp] theorem after_active (s : Session) (t : List Event) : (s.after t).active = s.active := by
  induction t generalizing s with
  | nil => rfl
  | cons e t ih => rw [after_cons, ih, follow_active]

@[simp] theorem after_capacity (s : Session) (t : List Event) :
    (s.after t).payload.capacity = s.payload.capacity := by
  induction t generalizing s with
  | nil => rfl
  | cons e t ih => rw [after_cons, ih, follow_capacity]

section InFlight

variable {s : Session} {step : Step} {topics : Topics}

theorem answer?_follow (h : s.active = some ⟨step, topics⟩) (e : Event) :
    (s.follow e).answer? = s.answer?.or (e.packet?.bind (topics.answer? s.payload.capacity)) := by
  cases he : e.packet? with
  | none =>
    obtain ⟨l, hl⟩ := follow_of_no_packet s he
    rw [hl, Option.bind_none, Option.or_none]; rfl
  | some p => rw [follow_of_packet s he, answer?_dispatch h p, Option.bind_some]

/-- The answer that a session holds is the one it held, or the first one delivered. -/
theorem answer?_after (h : s.active = some ⟨step, topics⟩) (t : List Event) :
    (s.after t).answer? =
      s.answer?.or (topics.firstAnswer s.payload.capacity (packets t)) := by
  induction t generalizing s with
  | nil => simp
  | cons e t ih =>
    rw [after_cons, ih ((follow_active s e).trans h), answer?_follow h, follow_capacity,
      packets_cons, Topics.firstAnswer_append, Topics.firstAnswer_toList, Option.or_assoc]

theorem duplicateResponses_follow (h : s.active = some ⟨step, topics⟩) (e : Event) :
    (s.follow e).duplicateResponses =
      s.duplicateResponses + (s.answer?.isSome && e.packet?.any topics.isResponse).toNat := by
  cases he : e.packet? with
  | none => obtain ⟨l, hl⟩ := follow_of_no_packet s he; rw [hl]; simp
  | some p => rw [follow_of_packet s he, duplicateResponses_dispatch h p]; rfl

/-- Until there is an answer, nothing is a duplicate. -/
theorem duplicateResponses_after_of_none (h : s.active = some ⟨step, topics⟩) {t : List Event}
    (hn : s.answer? = none) (ht : topics.firstAnswer s.payload.capacity (packets t) = none) :
    (s.after t).duplicateResponses = s.duplicateResponses := by
  induction t generalizing s with
  | nil => rfl
  | cons e t ih =>
    rw [packets_cons, Topics.firstAnswer_append, Topics.firstAnswer_toList,
      Option.or_eq_none_iff] at ht
    have ha : (s.follow e).answer? = none := by rw [answer?_follow h, hn, ht.1]; rfl
    rw [after_cons, ih ((follow_active s e).trans h) ha (by rw [follow_capacity]; exact ht.2),
      duplicateResponses_follow h, hn]
    simp

/-- Once there is an answer, every response is a duplicate. -/
theorem duplicateResponses_after_of_some (h : s.active = some ⟨step, topics⟩) (t : List Event)
    {a : Disposition × Bytes} (ha : s.answer? = some a) :
    (s.after t).duplicateResponses =
      s.duplicateResponses + (packets t).countP topics.isResponse := by
  induction t generalizing s with
  | nil => rfl
  | cons e t ih =>
    have ha' : (s.follow e).answer? = some a := by rw [answer?_follow h, ha]; rfl
    rw [after_cons, ih ((follow_active s e).trans h) ha', duplicateResponses_follow h, ha,
      packets_cons, List.countP_append]
    cases e.packet? with
    | none => simp
    | some p => cases hp : topics.isResponse p <;> simp [hp, Nat.add_assoc]

end InFlight

/-! ### Acknowledgements and filters -/

theorem lastSubAck_follow (s : Session) (e : Event) :
    (s.follow e).lastSubAck = (e.packet?.bind Packet.granted?).or s.lastSubAck := by
  cases h : e.packet? with
  | none => obtain ⟨l, hl⟩ := follow_of_no_packet s h; rw [hl]; rfl
  | some p => rw [follow_of_packet s h]; exact (dispatch_frame s p).lastSubAck

/-- The acknowledgement that a session holds is the last one delivered. -/
theorem lastSubAck_after (s : Session) (t : List Event) :
    (s.after t).lastSubAck = (subAcks t).getLast?.or s.lastSubAck := by
  induction t generalizing s with
  | nil => rfl
  | cons e t ih =>
    rw [after_cons, ih, lastSubAck_follow, subAcks_cons, List.getLast?_append, Option.or_assoc]
    cases e.packet?.bind Packet.granted? <;> rfl

theorem mem_follow (s : Session) (e : Event) (f : String) :
    f ∈ (s.follow e).subscriptions ↔
      (f ∈ s.subscriptions ∧ e.call ≠ .unsubscribe f) ∨
        ∃ filters, e = ⟨.subscribe filters, .ok ()⟩ ∧ f ∈ filters := by
  simp only [follow]
  split
  · next filters =>
    rw [mem_recordSubscriptions]
    simp
  · next g r =>
    rw [mem_dropSubscription]
    simp [eq_comm]
  · next p =>
    rw [(dispatch_frame s p).subscriptions]
    simp
  · next hs hu _ =>
    constructor
    · intro h
      refine .inl ⟨h, fun he => ?_⟩
      obtain ⟨c, r⟩ := e
      obtain rfl : c = .unsubscribe f := he
      exact hu f r rfl
    · rintro (h | ⟨filters, rfl, -⟩)
      · exact h.1
      · exact absurd rfl (hs filters)

theorem mem_after_of_no_unsubscribe {s : Session} {t : List Event}
    (h : ∀ e ∈ t, ∀ f, e.call ≠ .unsubscribe f) (f : String) :
    f ∈ (s.after t).subscriptions ↔
      f ∈ s.subscriptions ∨ ∃ filters, ⟨.subscribe filters, .ok ()⟩ ∈ t ∧ f ∈ filters := by
  induction t generalizing s with
  | nil => simp
  | cons e t ih =>
    rw [after_cons, ih (fun e' he' => h e' (List.mem_cons_of_mem e he')), mem_follow]
    have he := h e List.mem_cons_self f
    simp only [he, ne_eq, not_false_eq_true, and_true, List.mem_cons, or_assoc, or_and_right,
      exists_or]
    simp only [eq_comm]

theorem mem_after_of_no_subscribe {s : Session} {t : List Event}
    (h : ∀ e ∈ t, ∀ filters, e.call ≠ .subscribe filters) (f : String) :
    f ∈ (s.after t).subscriptions ↔
      f ∈ s.subscriptions ∧ ∀ e ∈ t, e.call ≠ .unsubscribe f := by
  induction t generalizing s with
  | nil => simp
  | cons e t ih =>
    rw [after_cons, ih (fun e' he' => h e' (List.mem_cons_of_mem e he')), mem_follow]
    have he : ¬ ∃ filters, e = ⟨.subscribe filters, .ok ()⟩ ∧ f ∈ filters := by
      rintro ⟨filters, rfl, -⟩
      exact h _ List.mem_cons_self filters rfl
    simp only [he, or_false, List.forall_mem_cons, and_assoc]

end Session

/-! ### Quiet calls -/

/-- The calls that go neither to the link nor to the credential store. -/
def Call.isQuiet : Call → Bool
  | .draw | .pause _ | .clock | .calendar | .log _ => true
  | _ => false

/-- Nothing but quiet calls. -/
def Quiet (t : List Event) : Prop := ∀ e ∈ t, e.call.isQuiet

theorem Session.follow_of_isQuiet (s : Session) {e : Event} (h : e.call.isQuiet) :
    s.follow e = s := by
  obtain ⟨c, r⟩ := e
  cases c <;> first | rfl | cases h

theorem Event.packet?_of_isQuiet {e : Event} (h : e.call.isQuiet) : e.packet? = none := by
  obtain ⟨c, r⟩ := e
  cases c <;> first | rfl | cases h

namespace Quiet

theorem session {t : List Event} (h : Quiet t) (s : Session) : s.after t = s := by
  induction t with
  | nil => rfl
  | cons e t ih =>
    rw [Session.after_cons, s.follow_of_isQuiet (h e List.mem_cons_self)]
    exact ih fun e' he' => h e' (List.mem_cons_of_mem e he')

theorem packets {t : List Event} (h : Quiet t) : packets t = [] :=
  List.filterMap_eq_nil_iff.2 fun e he => e.packet?_of_isQuiet (h e he)

theorem subAcks {t : List Event} (h : Quiet t) : subAcks t = [] := by
  simp [Enrolment.subAcks, h.packets]

end Quiet

/-- The events that go to the link or to the credential store. -/
def effects (t : List Event) : List Event := t.filter fun e => !e.call.isQuiet

@[simp] theorem effects_nil : effects [] = [] := rfl

@[simp] theorem effects_append (t u : List Event) : effects (t ++ u) = effects t ++ effects u :=
  List.filter_append t u

@[simp] theorem effects_cons (e : Event) (t : List Event) :
    effects (e :: t) = if e.call.isQuiet then effects t else e :: effects t := by
  cases h : e.call.isQuiet <;> simp [effects, h]

theorem mem_effects {t : List Event} {e : Event} :
    e ∈ effects t ↔ e ∈ t ∧ e.call.isQuiet = false := by
  simp [effects]

theorem Quiet.effects {t : List Event} (h : Quiet t) : effects t = [] :=
  List.filter_eq_nil_iff.2 fun e he => by simp [h e he]

@[simp] theorem packets_effects (t : List Event) : packets (effects t) = packets t := by
  induction t with
  | nil => rfl
  | cons e t ih =>
    rw [effects_cons, packets_cons]
    split
    · next hq => rw [ih, e.packet?_of_isQuiet hq]; rfl
    · rw [packets_cons, ih]

/-- The events of writing to the log. -/
def logged (lines : List LogLine) : List Event := lines.map fun line => ⟨.log line, ()⟩

@[simp] theorem polled_logged (lines : List LogLine) : polled (logged lines) = [] := by
  induction lines with
  | nil => rfl
  | cons line lines ih => exact ih

theorem quiet_logged (lines : List LogLine) : Quiet (logged lines) := by
  intro e he
  obtain ⟨line, -, rfl⟩ := List.mem_map.1 he
  rfl

/-! ### Waiting -/

/-- The calls of a wait: polls, and lines of the log. -/
def Call.isWait : Call → Bool
  | .poll _ | .log _ => true
  | _ => false

/-- Nothing but the calls of a wait. -/
def Waits (t : List Event) : Prop := ∀ e ∈ t, e.call.isWait

@[simp] theorem waits_nil : Waits [] := by simp [Waits]

theorem waits_cons {e : Event} {t : List Event} :
    Waits (e :: t) ↔ e.call.isWait ∧ Waits t := List.forall_mem_cons

theorem waits_append {t u : List Event} : Waits (t ++ u) ↔ Waits t ∧ Waits u :=
  List.forall_mem_append

theorem waits_logged (lines : List LogLine) : Waits (logged lines) := by
  intro e he
  obtain ⟨line, -, rfl⟩ := List.mem_map.1 he
  rfl

theorem Session.follow_of_isWait (s : Session) {e : Event} (h : e.call.isWait)
    (hp : e.packet? = none) : s.follow e = s := by
  obtain ⟨c, r⟩ := e
  cases c <;> try cases h
  case poll =>
    cases r with
    | error fault => rfl
    | ok packet => cases packet with
      | none => rfl
      | some p => cases hp
  case log => rfl

/-- A filter may be forgotten before a wait as well as after it. -/
theorem Waits.dropSubscription {t : List Event} (h : Waits t) (s : Session) (filter : String) :
    (s.dropSubscription filter).after t = (s.after t).dropSubscription filter := by
  induction t generalizing s with
  | nil => rfl
  | cons e t ih =>
    obtain ⟨hw, ht⟩ := waits_cons.1 h
    have he : (s.dropSubscription filter).follow e = (s.follow e).dropSubscription filter := by
      cases hp : e.packet? with
      | none => rw [Session.follow_of_isWait _ hw hp, Session.follow_of_isWait _ hw hp]
      | some p =>
        rw [Session.follow_of_packet _ hp, Session.follow_of_packet _ hp]
        simp only [Session.dropSubscription, Session.dispatch_subscriptions]
        rw [(Session.dispatch_frame s p).subscriptions]
    rw [Session.after_cons, he, ih ht, Session.after_cons]

end Enrolment
