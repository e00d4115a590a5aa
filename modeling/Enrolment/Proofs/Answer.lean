import Enrolment.Session

/-!
# Enrolment.Proofs.Answer

Which packet is the answer to a request. `Topics.firstAnswer` reads it off the packets alone: the
first publish on one of the two topics of the answer, but for an accepted one that does not fit the
buffer. A session does the same one packet at a time.

* `answer?_dispatch`: while a step is in flight, a packet is its answer if it can be one and there
  is none yet.
* `duplicateResponses_dispatch`: once there is an answer, every response is a duplicate.
* `dispatch_subscriptions`: packets and subscribed filters do not touch.
-/

namespace Enrolment

/-! ## Answers among packets -/

/-- The answer that a body is, for a buffer of `capacity` bytes. An accepted body is taken whole or
not at all, and a rejected one is dropped if it does not fit. -/
def Disposition.answer? (capacity : Nat) (body : Bytes) :
    Disposition → Option (Disposition × Bytes)
  | .accepted => if body.length ≤ capacity then some (.accepted, body) else none
  | .rejected => some (.rejected, if body.length ≤ capacity then body else [])

namespace Topics

/-- The answer that a packet is to the request with these topics. -/
def answer? (topics : Topics) (capacity : Nat) : Packet → Option (Disposition × Bytes)
  | .publish topic body => (topics.dispositionOf topic).bind (·.answer? capacity body)
  | _ => none

/-- The first answer among some packets. -/
def firstAnswer (topics : Topics) (capacity : Nat) (ps : List Packet) :
    Option (Disposition × Bytes) :=
  ps.findSome? (topics.answer? capacity)

/-- The packet is a publish on one of the two topics of the answer. -/
def isResponse (topics : Topics) : Packet → Bool
  | .publish topic _ => (topics.dispositionOf topic).isSome
  | _ => false

theorem dispositionOf_cases (topics : Topics) (topic : String) :
    (topic = topics.accepted ∧ topics.dispositionOf topic = some .accepted) ∨
      (topic ≠ topics.accepted ∧ topic = topics.rejected ∧
        topics.dispositionOf topic = some .rejected) ∨
      (topic ≠ topics.accepted ∧ topic ≠ topics.rejected ∧ topics.dispositionOf topic = none) := by
  by_cases ha : topic = topics.accepted
  · exact .inl ⟨ha, if_pos ha⟩
  · by_cases hr : topic = topics.rejected
    · exact .inr (.inl ⟨ha, hr, by rw [dispositionOf, if_neg ha, if_pos hr]⟩)
    · exact .inr (.inr ⟨ha, hr, by rw [dispositionOf, if_neg ha, if_neg hr]⟩)

@[simp] theorem firstAnswer_nil (topics : Topics) (capacity : Nat) :
    topics.firstAnswer capacity [] = none := rfl

@[simp] theorem firstAnswer_cons (topics : Topics) (capacity : Nat) (p : Packet)
    (ps : List Packet) :
    topics.firstAnswer capacity (p :: ps) =
      (topics.answer? capacity p).or (topics.firstAnswer capacity ps) := by
  simp only [firstAnswer, List.findSome?_cons]
  cases topics.answer? capacity p <;> rfl

@[simp] theorem firstAnswer_append (topics : Topics) (capacity : Nat) (ps qs : List Packet) :
    topics.firstAnswer capacity (ps ++ qs) =
      (topics.firstAnswer capacity ps).or (topics.firstAnswer capacity qs) := by
  simp [firstAnswer, List.findSome?_append]

end Topics

/-- What an acknowledgement of a SUBSCRIBE says about its filters. -/
def Packet.granted? : Packet → Option Bool
  | .subAck granted => some granted
  | _ => none

/-! ## Sessions -/

namespace Session

/-- The answer that a session holds. -/
def answer? (s : Session) : Option (Disposition × Bytes) :=
  match s.lastOutcome with
  | .notReceived => none
  | .accepted => some (.accepted, s.payload.data)
  | .rejected => some (.rejected, s.payload.data)

/-! ### Beginning a step -/

/-- A session with a step just put in flight. -/
def begun (s : Session) (step : Step) (topics : Topics) : Session :=
  { s with
    lastOutcome := .notReceived
    lastSubAck := none
    lastUnmatchedTopic := none
    payload := s.payload.clear
    active := some ⟨step, topics⟩ }

theorem begin_of_active {s : Session} {active : ActiveStep} (h : s.active = some active)
    (step : Step) (topics : Topics) : s.begin step topics = .error (.busy active.step step) := by
  simp only [begin, h]

theorem begin_of_idle {s : Session} (h : s.active = none) (step : Step) (topics : Topics) :
    s.begin step topics = .ok (s.begun step topics) := by
  simp only [begin, h]; rfl

@[simp] theorem begun_active (s : Session) (step : Step) (topics : Topics) :
    (s.begun step topics).active = some ⟨step, topics⟩ := rfl

@[simp] theorem begun_answer? (s : Session) (step : Step) (topics : Topics) :
    (s.begun step topics).answer? = none := rfl

@[simp] theorem begun_capacity (s : Session) (step : Step) (topics : Topics) :
    (s.begun step topics).payload.capacity = s.payload.capacity := rfl

@[simp] theorem begun_subscriptions (s : Session) (step : Step) (topics : Topics) :
    (s.begun step topics).subscriptions = s.subscriptions := rfl

@[simp] theorem begun_duplicateResponses (s : Session) (step : Step) (topics : Topics) :
    (s.begun step topics).duplicateResponses = s.duplicateResponses := rfl

/-! ### Dispatching -/

/-- What no publish changes: the step in flight, the filters, the room for a body and the last
acknowledgement. -/
structure SameFrame (s s' : Session) : Prop where
  active : s'.active = s.active
  subscriptions : s'.subscriptions = s.subscriptions
  capacity : s'.payload.capacity = s.payload.capacity
  lastSubAck : s'.lastSubAck = s.lastSubAck

theorem receive_accepted (s : Session) (body : Bytes) :
    s.receive .accepted body =
      if body.length ≤ s.payload.capacity then
        ({ s with payload := ⟨s.payload.capacity, body⟩, lastOutcome := .accepted }, .ok ())
      else (s, .error (.payloadTooLarge body.length s.payload.capacity)) := by
  by_cases h : body.length ≤ s.payload.capacity
  · simp [receive, Buffer.store, h, Nat.not_lt_of_le h]
  · simp [receive, Buffer.store, h, Nat.lt_of_not_le h]

theorem receive_rejected (s : Session) (body : Bytes) :
    s.receive .rejected body =
      ({ s with
        payload := ⟨s.payload.capacity, if body.length ≤ s.payload.capacity then body else []⟩
        lastOutcome := .rejected }, .ok ()) := by
  by_cases h : body.length ≤ s.payload.capacity
  · simp [receive, Buffer.store, h, Nat.not_lt_of_le h]
  · simp [receive, Buffer.store, Buffer.clear, h, Nat.lt_of_not_le h]

theorem receive_frame (s : Session) (d : Disposition) (body : Bytes) :
    SameFrame s (s.receive d body).1 := by
  cases d with
  | accepted =>
    rw [receive_accepted]
    split <;> exact ⟨rfl, rfl, rfl, rfl⟩
  | rejected =>
    rw [receive_rejected]
    exact ⟨rfl, rfl, rfl, rfl⟩

theorem classify_frame (s : Session) (topic : String) (body : Bytes) :
    SameFrame s (s.classify topic body).1 := by
  simp only [classify]
  split
  · exact ⟨rfl, rfl, rfl, rfl⟩
  · split
    · exact ⟨rfl, rfl, rfl, rfl⟩
    · exact receive_frame s _ body

theorem dispatch_publish (s : Session) (topic : String) (body : Bytes) :
    s.dispatch (.publish topic body) =
      ((classify { s with lastPacket := some .publish } topic body).1,
        (classify { s with lastPacket := some .publish } topic body).2.map some) := rfl

theorem dispatch_frame (s : Session) (p : Packet) :
    SameFrame { s with lastSubAck := p.granted?.or s.lastSubAck } (s.dispatch p).1 := by
  cases p with
  | publish topic body =>
    rw [dispatch_publish]
    have h := classify_frame { s with lastPacket := some .publish } topic body
    exact ⟨h.active, h.subscriptions, h.capacity, h.lastSubAck⟩
  | _ => exact ⟨rfl, rfl, rfl, rfl⟩

/-- Only a publish can be refused. -/
theorem kind_of_dispatch_error {s : Session} {p : Packet} {cause : SessionError}
    (h : (s.dispatch p).2 = .error cause) : p.kind = .publish := by
  cases p <;> first | rfl | cases h

theorem dispatch_publish_of_idle {s : Session} (h : s.active = none) (topic : String)
    (body : Bytes) :
    s.dispatch (.publish topic body) =
      ({ s with
        lastPacket := some .publish
        strayPublishes := s.strayPublishes + 1
        lastUnmatchedTopic := some topic }, .ok (some .unmatched)) := by
  simp only [dispatch, classify, responseOn, h]
  rfl

theorem answer?_eq_none_iff {s : Session} : s.answer? = none ↔ s.lastOutcome = .notReceived := by
  cases h : s.lastOutcome <;> simp [answer?, h]

theorem answer?_receive {s : Session} (h : s.answer? = none) (d : Disposition) (body : Bytes) :
    (s.receive d body).1.answer? = d.answer? s.payload.capacity body := by
  cases d with
  | accepted =>
    rw [receive_accepted, Disposition.answer?]
    split
    · rfl
    · exact h
  | rejected => rw [receive_rejected]; rfl

theorem payload_receive_of_none {s : Session} {d : Disposition} {body : Bytes}
    (h : (s.receive d body).1.answer? = none) : (s.receive d body).1.payload = s.payload := by
  cases d with
  | accepted =>
    rw [receive_accepted] at h ⊢
    by_cases hfits : body.length ≤ s.payload.capacity
    · rw [if_pos hfits] at h; cases h
    · rw [if_neg hfits]
  | rejected => cases h

/-- Without an answer, a packet leaves the buffer as it is. -/
theorem payload_dispatch_of_none {s : Session} {p : Packet}
    (h : (s.dispatch p).1.answer? = none) : (s.dispatch p).1.payload = s.payload := by
  cases p with
  | publish topic body =>
    rw [dispatch_publish] at h ⊢
    simp only [classify] at h ⊢
    cases hr : responseOn { s with lastPacket := some .publish } topic with
    | none => rfl
    | some r =>
      simp only [hr] at h ⊢
      by_cases ho : s.lastOutcome = .notReceived
      · simp only [ho, ne_eq, not_true_eq_false, if_false] at h ⊢
        exact payload_receive_of_none h
      · simp only [ho, ne_eq, not_false_eq_true, if_true]
  | _ => rfl

section InFlight

variable {s : Session} {step : Step} {topics : Topics}

theorem responseOn_of_active (h : s.active = some ⟨step, topics⟩) (topic : String) :
    s.responseOn topic = (topics.dispositionOf topic).map (step, ·) := by
  simp only [responseOn, h]
  show (topics.dispositionOf topic).bind _ = _
  cases topics.dispositionOf topic <;> rfl

theorem classify_of_active (h : s.active = some ⟨step, topics⟩) (topic : String) (body : Bytes) :
    s.classify topic body =
      match topics.dispositionOf topic with
      | none =>
        ({ s with strayPublishes := s.strayPublishes + 1, lastUnmatchedTopic := some topic },
          .ok .unmatched)
      | some d =>
        if s.lastOutcome ≠ .notReceived then
          ({ s with duplicateResponses := s.duplicateResponses + 1 }, .ok (.response step d))
        else ((s.receive d body).1, (s.receive d body).2.map fun _ => .response step d) := by
  simp only [classify, responseOn_of_active h]
  cases topics.dispositionOf topic <;> rfl

theorem answer?_classify (h : s.active = some ⟨step, topics⟩) (topic : String) (body : Bytes) :
    (s.classify topic body).1.answer? =
      s.answer?.or (topics.answer? s.payload.capacity (.publish topic body)) := by
  rw [classify_of_active h, Topics.answer?]
  cases topics.dispositionOf topic with
  | none => simp [answer?]
  | some d =>
    by_cases ho : s.lastOutcome = .notReceived
    · have hn := answer?_eq_none_iff.2 ho
      simpa [ho, hn] using answer?_receive hn d body
    · obtain ⟨a, ha⟩ := Option.ne_none_iff_exists'.1 (mt answer?_eq_none_iff.1 ho)
      have hd : answer? { s with duplicateResponses := s.duplicateResponses + 1 } = some a := ha
      simp [ho, ha, hd]

/-- The first answer stays, and while there is none, a packet may be it. -/
theorem answer?_dispatch (h : s.active = some ⟨step, topics⟩) (p : Packet) :
    (s.dispatch p).1.answer? = s.answer?.or (topics.answer? s.payload.capacity p) := by
  cases p with
  | publish topic body =>
    rw [dispatch_publish]
    have h' : active { s with lastPacket := some .publish } = some ⟨step, topics⟩ := h
    exact answer?_classify h' topic body
  | _ => simp [dispatch, answer?, Topics.answer?]

theorem duplicateResponses_classify (h : s.active = some ⟨step, topics⟩) (topic : String)
    (body : Bytes) :
    (s.classify topic body).1.duplicateResponses =
      s.duplicateResponses + (s.answer?.isSome && (topics.dispositionOf topic).isSome).toNat := by
  rw [classify_of_active h]
  cases topics.dispositionOf topic with
  | none => simp
  | some d =>
    by_cases ho : s.lastOutcome = .notReceived
    · have hn := answer?_eq_none_iff.2 ho
      cases d <;> cases hs : s.payload.store body <;> simp [receive, ho, hn, hs]
    · obtain ⟨a, ha⟩ := Option.ne_none_iff_exists'.1 (mt answer?_eq_none_iff.1 ho)
      simp [ho, ha]

/-- Before the answer no response counts as a duplicate, and after it every one does. -/
theorem duplicateResponses_dispatch (h : s.active = some ⟨step, topics⟩) (p : Packet) :
    (s.dispatch p).1.duplicateResponses =
      s.duplicateResponses + (s.answer?.isSome && topics.isResponse p).toNat := by
  cases p with
  | publish topic body =>
    rw [dispatch_publish]
    have h' : active { s with lastPacket := some .publish } = some ⟨step, topics⟩ := h
    exact duplicateResponses_classify h' topic body
  | _ => simp [dispatch, Topics.isResponse]

theorem strayPublishes_receive (s : Session) (d : Disposition) (body : Bytes) :
    (s.receive d body).1.strayPublishes = s.strayPublishes := by
  cases d with
  | accepted => rw [receive_accepted]; split <;> rfl
  | rejected => rw [receive_rejected]

/-- Every publish that is no response counts as a stray. -/
theorem strayPublishes_dispatch (h : s.active = some ⟨step, topics⟩) (topic : String)
    (body : Bytes) :
    (s.dispatch (.publish topic body)).1.strayPublishes =
      s.strayPublishes + (!topics.isResponse (.publish topic body)).toNat := by
  have h' : active { s with lastPacket := some .publish } = some ⟨step, topics⟩ := h
  rw [dispatch_publish, classify_of_active h', Topics.isResponse]
  cases topics.dispositionOf topic with
  | none => rfl
  | some d =>
    by_cases ho : s.lastOutcome = .notReceived
    · simp [ho, strayPublishes_receive]
    · simp [ho]

/-- What is refused is an accepted answer that does not fit, while there is none. -/
theorem dispatch_eq_error_iff (h : s.active = some ⟨step, topics⟩) {p : Packet}
    {cause : SessionError} :
    (s.dispatch p).2 = .error cause ↔ s.answer? = none ∧ ∃ body,
      p = .publish topics.accepted body ∧ s.payload.capacity < body.length ∧
        cause = .payloadTooLarge body.length s.payload.capacity := by
  cases p with
  | publish topic body =>
    have h' : active { s with lastPacket := some .publish } = some ⟨step, topics⟩ := h
    rw [dispatch_publish, classify_of_active h', answer?_eq_none_iff]
    by_cases ho : s.lastOutcome = .notReceived
    · obtain ⟨rfl, hd⟩ | ⟨ha, -, hd⟩ | ⟨ha, -, hd⟩ := topics.dispositionOf_cases topic
      · by_cases hfits : body.length ≤ s.payload.capacity
        · simp [hd, ho, receive_accepted, hfits, Except.map, Nat.not_lt_of_le hfits]
        · simp [hd, ho, receive_accepted, hfits, Except.map, Nat.lt_of_not_le hfits, eq_comm]
      · simp [hd, ho, ha, receive_rejected, Except.map]
      · simp [hd, ho, ha, Except.map]
    · cases topics.dispositionOf topic <;> simp [ho, Except.map]
  | _ => simp [dispatch]

end InFlight

/-! ### Packets and filters -/

theorem dispatch_lastPacket (s : Session) (k : Option PacketKind) (p : Packet) :
    dispatch { s with lastPacket := k } p = s.dispatch p := by
  cases p <;> rfl

theorem receive_subscriptions (s : Session) (l : List String) (d : Disposition) (body : Bytes) :
    (receive { s with subscriptions := l } d body).1 =
      { (s.receive d body).1 with subscriptions := l } := by
  cases d <;> cases h : s.payload.store body <;> simp [receive, h]

theorem classify_subscriptions (s : Session) (l : List String) (topic : String) (body : Bytes) :
    (classify { s with subscriptions := l } topic body).1 =
      { (s.classify topic body).1 with subscriptions := l } := by
  have hr : responseOn { s with subscriptions := l } topic = s.responseOn topic := rfl
  simp only [classify, hr]
  cases s.responseOn topic with
  | none => rfl
  | some r =>
    by_cases ho : s.lastOutcome = .notReceived
    · simpa [ho] using receive_subscriptions s l r.2 body
    · simp [ho]

/-- A packet is taken alike whatever the filters are. -/
theorem dispatch_subscriptions (s : Session) (l : List String) (p : Packet) :
    (dispatch { s with subscriptions := l } p).1 =
      { (s.dispatch p).1 with subscriptions := l } := by
  cases p with
  | publish topic body =>
    exact classify_subscriptions { s with lastPacket := some .publish } l topic body
  | _ => rfl

end Session

end Enrolment
