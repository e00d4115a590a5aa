import Enrolment.Proofs.History
import Mathlib.Data.List.Induction

/-!
# Enrolment.Proofs.Operations

A session after any operations. Whatever is begun, finished, dispatched and recorded, and in
whatever order, a session says no more than what can be read off the operations themselves: which
step was begun last, and which packets were dispatched while it was in flight (`lastStep`).

* `session_eq_history`: the outcome and the body are those of the first answer among these packets,
  and the two counters count what they should over all operations.
* `Session.Reachable.nodup_subscriptions`: no filter is recorded twice.
-/

namespace Enrolment

/-- What can be done to a session. -/
inductive Operation
  | begin (step : Step) (topics : Topics)
  | finish
  | resetLastPacket
  | recordSubscriptions (filters : List String)
  | dropSubscription (filter : String)
  | dispatch (packet : Packet)
  deriving DecidableEq, Repr

namespace Session

/-- A step that is refused leaves the session as it is. -/
def operate (s : Session) : Operation → Session
  | .begin step topics =>
    match s.begin step topics with
    | .ok s' => s'
    | .error _ => s
  | .finish => s.finish
  | .resetLastPacket => s.resetLastPacket
  | .recordSubscriptions filters => s.recordSubscriptions filters
  | .dropSubscription filter => s.dropSubscription filter
  | .dispatch packet => (s.dispatch packet).1

def operateAll (s : Session) (ops : List Operation) : Session := ops.foldl operate s

@[simp] theorem operateAll_append (s : Session) (ops later : List Operation) :
    s.operateAll (ops ++ later) = (s.operateAll ops).operateAll later := List.foldl_append

/-- The session has come about by some operations on a new one. -/
def Reachable (s : Session) : Prop := ∃ capacity ops, s = (new capacity).operateAll ops

end Session

/-! ## What operations say -/

/-- The step that was begun last. -/
structure LastStep where
  active : ActiveStep
  /-- What was dispatched while the step was in flight. -/
  packets : List Packet
  finished : Bool
  deriving DecidableEq, Repr

namespace LastStep

/-- The step that was begun last, one operation later. While a step is in flight, no other one can
be begun. -/
def next (last : Option LastStep) : Operation → Option LastStep
  | .begin step topics =>
    match last with
    | some ⟨active, packets, false⟩ => some ⟨active, packets, false⟩
    | _ => some ⟨⟨step, topics⟩, [], false⟩
  | .finish => last.map fun last => { last with finished := true }
  | .dispatch packet => last.map fun last =>
    if last.finished then last else { last with packets := last.packets ++ [packet] }
  | _ => last

end LastStep

/-- The last step that some operations have begun. -/
def lastStep (ops : List Operation) : Option LastStep := ops.foldl LastStep.next none

/-- The step that is in flight after some operations. -/
def inFlight (ops : List Operation) : Option ActiveStep :=
  match lastStep ops with
  | some ⟨active, _, false⟩ => some active
  | _ => none

/-- The first answer to the step begun last, among the packets dispatched while it was in flight. -/
def recorded (capacity : Nat) (ops : List Operation) : Option (Disposition × Bytes) :=
  (lastStep ops).bind fun last => last.active.topics.firstAnswer capacity last.packets

/-- How many of the operations `later` satisfy `p`, together with the operations before each. -/
def countAt (p : List Operation → Operation → Bool) :
    (earlier later : List Operation) → Nat
  | _, [] => 0
  | earlier, op :: later => (p earlier op).toNat + countAt p (earlier ++ [op]) later

/-- A publish that is no response of a step in flight. -/
def isStray (earlier : List Operation) : Operation → Bool
  | .dispatch (.publish topic body) =>
    !(inFlight earlier).any fun active => active.topics.isResponse (.publish topic body)
  | _ => false

/-- A publish that is a response of a step in flight, which has its answer. -/
def isDuplicate (capacity : Nat) (earlier : List Operation) : Operation → Bool
  | .dispatch packet =>
    (recorded capacity earlier).isSome &&
      (inFlight earlier).any fun active => active.topics.isResponse packet
  | _ => false

@[simp] theorem lastStep_append_singleton (ops : List Operation) (op : Operation) :
    lastStep (ops ++ [op]) = LastStep.next (lastStep ops) op := List.foldl_append

theorem countAt_append_singleton (p : List Operation → Operation → Bool)
    (earlier later : List Operation) (op : Operation) :
    countAt p earlier (later ++ [op]) =
      countAt p earlier later + (p (earlier ++ later) op).toNat := by
  induction later generalizing earlier with
  | nil => simp [countAt]
  | cons op' later ih => simp [countAt, ih, Nat.add_assoc]

/-! ## What a session makes of an operation -/

/-- A session says what the operations on it say. -/
structure Reflects (capacity : Nat) (ops : List Operation) (s : Session) : Prop where
  active : s.active = inFlight ops
  room : s.payload.capacity = capacity
  answer : s.answer? = recorded capacity ops
  empty : s.answer? = none → s.payload.data = []
  strays : s.strayPublishes = countAt isStray [] ops
  duplicates : s.duplicateResponses = countAt (isDuplicate capacity) [] ops

namespace Reflects

variable {capacity : Nat} {ops : List Operation} {s : Session} {op : Operation}

theorem new (capacity : Nat) : Reflects capacity [] (.new capacity) :=
  ⟨rfl, rfl, rfl, fun _ => rfl, rfl, rfl⟩

/-- An operation that does nothing to the step and its answer. It may still be a stray publish. -/
theorem keep (h : Reflects capacity ops s) (hlast : lastStep (ops ++ [op]) = lastStep ops)
    (hduplicate : isDuplicate capacity ops op = false) (kind : Option PacketKind)
    (ack : Option Bool) (unmatched : Option String) (filters : List String) :
    Reflects capacity (ops ++ [op])
      { s with
        lastPacket := kind
        lastSubAck := ack
        lastUnmatchedTopic := unmatched
        subscriptions := filters
        strayPublishes := s.strayPublishes + (isStray ops op).toNat } where
  active := by rw [inFlight, hlast]; exact h.active
  room := h.room
  answer := by rw [recorded, hlast]; exact h.answer
  empty := h.empty
  strays := by rw [countAt_append_singleton, List.nil_append, ← h.strays]
  duplicates := by
    rw [countAt_append_singleton, List.nil_append, hduplicate]
    exact h.duplicates

theorem begin (h : Reflects capacity ops s) (step : Step) (topics : Topics) :
    Reflects capacity (ops ++ [.begin step topics]) (s.operate (.begin step topics)) := by
  have ha := h.active
  -- A step in flight keeps the session from beginning another; after one that is finished, or
  -- none, everything starts afresh.
  rcases hl : lastStep ops with _ | ⟨active, packets, _ | _⟩ <;> rw [inFlight, hl] at ha
  case some.false =>
    rw [Session.operate, Session.begin_of_active ha]
    have hlast : lastStep (ops ++ [.begin step topics]) = lastStep ops := by
      rw [lastStep_append_singleton, hl]; rfl
    exact h.keep hlast rfl s.lastPacket s.lastSubAck s.lastUnmatchedTopic s.subscriptions
  all_goals
    rw [Session.operate, Session.begin_of_idle ha]
    exact {
      active := by rw [inFlight, lastStep_append_singleton, hl]; rfl
      room := h.room
      answer := by rw [recorded, lastStep_append_singleton, hl]; rfl
      empty := fun _ => rfl
      strays := by rw [countAt_append_singleton]; exact h.strays
      duplicates := by rw [countAt_append_singleton]; exact h.duplicates }

theorem finish (h : Reflects capacity ops s) :
    Reflects capacity (ops ++ [.finish]) s.finish where
  active := by
    rw [inFlight, lastStep_append_singleton]
    rcases lastStep ops with _ | ⟨active, packets, _ | _⟩ <;> rfl
  room := h.room
  answer := by
    have hr : recorded capacity (ops ++ [.finish]) = recorded capacity ops := by
      rw [recorded, recorded, lastStep_append_singleton]
      rcases lastStep ops with _ | ⟨active, packets, _ | _⟩ <;> rfl
    rw [hr]; exact h.answer
  empty := h.empty
  strays := by rw [countAt_append_singleton]; exact h.strays
  duplicates := by rw [countAt_append_singleton]; exact h.duplicates

theorem dispatch_of_idle (h : Reflects capacity ops s) (ha : s.active = none) (p : Packet) :
    Reflects capacity (ops ++ [.dispatch p]) (s.dispatch p).1 := by
  have hidle : inFlight ops = none := h.active.symm.trans ha
  have hlast : lastStep (ops ++ [.dispatch p]) = lastStep ops := by
    rw [lastStep_append_singleton]
    rcases hl : lastStep ops with _ | ⟨active, packets, _ | _⟩
    · rfl
    · rw [inFlight, hl] at hidle; cases hidle
    · rfl
  have hduplicate : isDuplicate capacity ops (.dispatch p) = false := by simp [isDuplicate, hidle]
  cases p with
  | publish topic body =>
    have hstray : isStray ops (.dispatch (.publish topic body)) = true := by
      simp [isStray, hidle]
    have hkeep := h.keep hlast hduplicate (some .publish) s.lastSubAck (some topic) s.subscriptions
    rw [hstray] at hkeep
    rw [Session.dispatch_publish_of_idle ha]
    exact hkeep
  | subAck granted =>
    exact h.keep hlast hduplicate (some .subAck) (some granted) s.lastUnmatchedTopic
      s.subscriptions
  | _ => exact h.keep hlast hduplicate _ s.lastSubAck s.lastUnmatchedTopic s.subscriptions

/-- While a step is in flight, a packet is one more for it. -/
theorem dispatch_of_active {active : ActiveStep} (h : Reflects capacity ops s)
    (ha : s.active = some active) (p : Packet) :
    Reflects capacity (ops ++ [.dispatch p]) (s.dispatch p).1 := by
  obtain ⟨step, topics⟩ := active
  have hflight : inFlight ops = some ⟨step, topics⟩ := h.active.symm.trans ha
  obtain ⟨packets, hl⟩ : ∃ packets, lastStep ops = some ⟨⟨step, topics⟩, packets, false⟩ := by
    rcases hl : lastStep ops with _ | ⟨active, packets, _ | _⟩ <;> rw [inFlight, hl] at hflight
    · cases hflight
    · cases hflight; exact ⟨packets, rfl⟩
    · cases hflight
  have hlast : lastStep (ops ++ [.dispatch p]) = some ⟨⟨step, topics⟩, packets ++ [p], false⟩ := by
    rw [lastStep_append_singleton, hl]; rfl
  have hframe := s.dispatch_frame p
  have hfirst : s.answer? = topics.firstAnswer capacity packets := by
    rw [h.answer, recorded, hl]; rfl
  have hanswer := Session.answer?_dispatch ha p
  exact {
    active := by rw [hframe.active, inFlight, hlast]; exact ha
    room := hframe.capacity.trans h.room
    answer := by
      rw [hanswer, hfirst, h.room, recorded, hlast]
      simp
    empty := fun hnone => by
      rw [Session.payload_dispatch_of_none hnone]
      rw [hanswer, Option.or_eq_none_iff] at hnone
      exact h.empty hnone.1
    strays := by
      rw [countAt_append_singleton, List.nil_append, ← h.strays]
      cases p with
      | publish topic body =>
        rw [Session.strayPublishes_dispatch ha, isStray, hflight]
        rfl
      | _ => rfl
    duplicates := by
      rw [countAt_append_singleton, List.nil_append, ← h.duplicates,
        Session.duplicateResponses_dispatch ha, h.answer, isDuplicate, hflight]
      rfl }

theorem dispatch (h : Reflects capacity ops s) (p : Packet) :
    Reflects capacity (ops ++ [.dispatch p]) (s.dispatch p).1 := by
  cases ha : s.active with
  | none => exact h.dispatch_of_idle ha p
  | some active => exact h.dispatch_of_active ha p

theorem operate (h : Reflects capacity ops s) (op : Operation) :
    Reflects capacity (ops ++ [op]) (s.operate op) := by
  cases op with
  | begin step topics => exact h.begin step topics
  | finish => exact h.finish
  | resetLastPacket =>
    exact h.keep (by simp [LastStep.next]) rfl none s.lastSubAck s.lastUnmatchedTopic
      s.subscriptions
  | recordSubscriptions filters =>
    obtain ⟨l, hl, -⟩ := Session.exists_recordSubscriptions_eq s filters
    rw [Session.operate, hl]
    exact h.keep (by simp [LastStep.next]) rfl s.lastPacket s.lastSubAck s.lastUnmatchedTopic l
  | dropSubscription filter =>
    exact h.keep (by simp [LastStep.next]) rfl s.lastPacket s.lastSubAck s.lastUnmatchedTopic
      (s.subscriptions.filter fun f => f ≠ filter)
  | dispatch p => exact h.dispatch p

theorem lastOutcome (h : Reflects capacity ops s) :
    s.lastOutcome = (recorded capacity ops).elim .notReceived (.ofDisposition ·.1) := by
  rw [← h.answer]
  cases ho : s.lastOutcome <;> simp [Session.answer?, ho, Outcome.ofDisposition]

theorem payload (h : Reflects capacity ops s) :
    s.payload = ⟨capacity, (recorded capacity ops).elim [] (·.2)⟩ := by
  have hdata : s.payload.data = s.answer?.elim [] (·.2) := by
    cases ho : s.lastOutcome with
    | notReceived =>
      have hnone := Session.answer?_eq_none_iff.2 ho
      rw [hnone, h.empty hnone]; rfl
    | _ => simp [Session.answer?, ho]
  rw [← h.answer, ← hdata, ← h.room]

theorem refused (h : Reflects capacity ops s) (packet : Packet) (cause : SessionError) :
    (s.dispatch packet).2 = .error cause ↔
      ∃ active body, inFlight ops = some active ∧ recorded capacity ops = none ∧
        packet = .publish active.topics.accepted body ∧ capacity < body.length ∧
        cause = .payloadTooLarge body.length capacity := by
  rw [← h.active, ← h.answer]
  cases ha : s.active with
  | none =>
    cases packet with
    | publish topic body => rw [Session.dispatch_publish_of_idle ha]; simp
    | _ => simp [Session.dispatch]
  | some active => simp [Session.dispatch_eq_error_iff ha, h.room]

end Reflects

theorem reflects_operateAll (capacity : Nat) (ops : List Operation) :
    Reflects capacity ops ((Session.new capacity).operateAll ops) := by
  induction ops using List.reverseRecOn with
  | nil => exact .new capacity
  | append_singleton ops op ih =>
    rw [Session.operateAll_append]
    exact ih.operate op

/-- A session is what the operations on it say: the step in flight; the first answer to the step
begun last, with its body; what is refused next; and how many publishes have been strays and
duplicates. -/
theorem session_eq_history (capacity : Nat) (ops : List Operation) :
    let s := (Session.new capacity).operateAll ops
    s.active = inFlight ops ∧
      s.lastOutcome = (recorded capacity ops).elim .notReceived (.ofDisposition ·.1) ∧
      s.payload = ⟨capacity, (recorded capacity ops).elim [] (·.2)⟩ ∧
      (∀ packet cause, (s.dispatch packet).2 = .error cause ↔
        ∃ active body, inFlight ops = some active ∧ recorded capacity ops = none ∧
          packet = .publish active.topics.accepted body ∧ capacity < body.length ∧
          cause = .payloadTooLarge body.length capacity) ∧
      s.strayPublishes = countAt isStray [] ops ∧
      s.duplicateResponses = countAt (isDuplicate capacity) [] ops := by
  intro s
  have h : Reflects capacity ops s := reflects_operateAll capacity ops
  exact ⟨h.active, h.lastOutcome, h.payload, h.refused, h.strays, h.duplicates⟩

/-! ## Filters -/

namespace Session

theorem nodup_recordSubscription {s : Session} (h : s.subscriptions.Nodup) (f : String) :
    (s.recordSubscription f).subscriptions.Nodup := by
  by_cases hf : f ∈ s.subscriptions
  · simpa [recordSubscription, hf] using h
  · have hne : ∀ g ∈ s.subscriptions, g ≠ f := fun g hg heq => hf (heq ▸ hg)
    simpa [recordSubscription, hf, List.nodup_append, h] using hne

theorem nodup_recordSubscriptions {s : Session} (h : s.subscriptions.Nodup)
    (filters : List String) : (s.recordSubscriptions filters).subscriptions.Nodup := by
  induction filters generalizing s with
  | nil => exact h
  | cons f fs ih => exact ih (nodup_recordSubscription h f)

theorem nodup_operate {s : Session} (h : s.subscriptions.Nodup) (op : Operation) :
    (s.operate op).subscriptions.Nodup := by
  cases op with
  | begin step topics =>
    cases ha : s.active with
    | none => rw [operate, begin_of_idle ha]; exact h
    | some active => rw [operate, begin_of_active ha]; exact h
  | recordSubscriptions filters => exact nodup_recordSubscriptions h filters
  | dropSubscription filter => exact h.filter _
  | dispatch p =>
    rw [operate, (s.dispatch_frame p).subscriptions]
    exact h
  | _ => exact h

/-- No filter is recorded twice. -/
theorem Reachable.nodup_subscriptions {s : Session} (h : s.Reachable) : s.subscriptions.Nodup := by
  obtain ⟨capacity, ops, rfl⟩ := h
  induction ops using List.reverseRecOn with
  | nil => exact List.nodup_nil
  | append_singleton ops op ih =>
    rw [operateAll_append]
    exact nodup_operate ih op

end Session

end Enrolment
