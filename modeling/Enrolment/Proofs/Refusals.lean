import Enrolment.Exchange
import Enrolment.Proofs.Operations

/-!
# Enrolment.Proofs.Refusals

What is refused leaves no trace. Four things can be refused: a body that does not fit a buffer, a
step while another one is in flight, a run of such a step, and a packet with an accepted answer that
does not fit. The first three leave all as it was, and the run does not call anything; the last
leaves the kind of the packet behind, so that the step may still be answered.

* `Buffer.run_storing`, `Session.run_beginning`: storing and beginning as assignments, one after
  another, of which those before an error stay.
* `Session.Reachable.payload`: the buffer of a session is only stored to and cleared.
* `Session.Unanswered.operate`: what leaves a step without its answer.
* `refusals_leave_no_trace`: all of this for every session that there can be.
-/

namespace Enrolment

open Interaction (Path path_pure)

/-! ## The buffer -/

/-- What can be done to a buffer. -/
inductive BufferOperation
  | store (body : Bytes)
  | clear
  deriving DecidableEq, Repr

namespace Buffer

/-- A body that is refused leaves the buffer as it is. -/
def operate (b : Buffer) : BufferOperation → Buffer
  | .store body =>
    match b.store body with
    | .ok b' => b'
    | .error _ => b
  | .clear => b.clear

def operateAll (b : Buffer) (ops : List BufferOperation) : Buffer := ops.foldl operate b

/-- The buffer has come about by some operations on an empty one. -/
def Reachable (b : Buffer) : Prop := ∃ capacity ops, b = (ofCapacity capacity).operateAll ops

/-- Storing as assignments: the buffer is cleared before it is filled again. -/
def storing (body : Bytes) : EStateM SessionError Buffer Unit := do
  let b ← get
  if b.capacity < body.length then throw (.payloadTooLarge body.length b.capacity)
  modify clear
  modify fun b => { b with data := b.data ++ body }

variable {b b' : Buffer} {body : Bytes} {cause : SessionError}

theorem store_eq_error_iff :
    b.store body = .error cause ↔
      b.capacity < body.length ∧ cause = .payloadTooLarge body.length b.capacity := by
  by_cases h : b.capacity < body.length
  · simp [store, h, eq_comm]
  · simp [store, h]

theorem run_storing (b : Buffer) (body : Bytes) :
    (storing body).run b =
      match b.store body with
      | .ok b' => .ok () b'
      | .error cause => .error cause b := by
  by_cases h : b.capacity < body.length
  · simp [storing, store, h]
  · simp [storing, store, h, clear]

namespace Reachable

theorem operate (h : b.Reachable) (op : BufferOperation) : (b.operate op).Reachable := by
  obtain ⟨capacity, ops, rfl⟩ := h
  exact ⟨capacity, ops ++ [op], by rw [operateAll, operateAll, List.foldl_append]; rfl⟩

theorem store (h : b.Reachable) (hstore : b.store body = .ok b') : b'.Reachable := by
  have hop := h.operate (.store body)
  simpa only [Buffer.operate, hstore] using hop

theorem clear (h : b.Reachable) : b.clear.Reachable := h.operate .clear

end Reachable

theorem length_operate_le (h : b.data.length ≤ b.capacity) (op : BufferOperation) :
    (b.operate op).data.length ≤ (b.operate op).capacity := by
  cases op with
  | clear => exact Nat.zero_le _
  | store body =>
    simp only [operate, store]
    by_cases hfits : b.capacity < body.length
    · simpa only [if_pos hfits] using h
    · simpa only [if_neg hfits] using Nat.le_of_not_lt hfits

/-- A buffer never holds more than its capacity. -/
theorem Reachable.length_le (h : b.Reachable) : b.data.length ≤ b.capacity := by
  obtain ⟨capacity, ops, rfl⟩ := h
  induction ops using List.reverseRecOn with
  | nil => exact Nat.zero_le _
  | append_singleton ops op ih =>
    rw [operateAll, List.foldl_append]
    exact length_operate_le ih op

end Buffer

/-! ## The session -/

namespace Session

variable {s : Session} {step : Step} {topics : Topics} {cause : SessionError}

/-! ### Beginning a step -/

/-- Beginning a step as assignments. -/
def beginning (step : Step) (topics : Topics) : EStateM SessionError Session Unit := do
  if let some active := (← get).active then throw (.busy active.step step)
  modify fun s => { s with lastOutcome := .notReceived }
  modify fun s => { s with lastSubAck := none }
  modify fun s => { s with lastUnmatchedTopic := none }
  modify fun s => { s with payload := s.payload.clear }
  modify fun s => { s with active := some ⟨step, topics⟩ }

theorem run_beginning (s : Session) (step : Step) (topics : Topics) :
    (beginning step topics).run s =
      match s.begin step topics with
      | .ok s' => .ok () s'
      | .error cause => .error cause s := by
  cases h : s.active with
  | none => simp [beginning, begin, h]
  | some active => simp [beginning, begin, h]

theorem begin_eq_error_iff :
    s.begin step topics = .error cause ↔
      ∃ active, s.active = some active ∧ cause = .busy active.step step := by
  cases h : s.active with
  | none => simp [begin_of_idle h]
  | some active => simp [begin_of_active h, eq_comm]

/-- A run of a step while another one is in flight ends where it begins. -/
theorem path_runStep_of_active {α : Type} {policy : RetryPolicy} {codec : Codec}
    {settings : StepSettings} {request : StepRequest} {read : Bytes → Except CodecError α}
    {active : ActiveStep} (h : s.active = some active) {t : List Event} {report : StepReport α} :
    Path (runStep policy codec settings request read s) t report ↔
      t = [] ∧ report = ⟨s, [], .error (.busy (.busy active.step request.step))⟩ := by
  simp only [runStep, begin_of_active h]
  exact path_pure

/-! ### Dispatching -/

theorem payload_receive (h : s.payload.Reachable) (d : Disposition) (body : Bytes) :
    (s.receive d body).1.payload.Reachable := by
  cases d with
  | accepted =>
    simp only [receive]
    split
    · exact h
    · next hstore => exact h.store hstore
  | rejected =>
    simp only [receive]
    split
    · exact h.clear
    · next hstore => exact h.store hstore

theorem payload_classify (h : s.payload.Reachable) (topic : String) (body : Bytes) :
    (s.classify topic body).1.payload.Reachable := by
  simp only [classify]
  split
  · exact h
  · split
    · exact h
    · exact payload_receive h _ body

theorem payload_operate (h : s.payload.Reachable) (op : Operation) :
    (s.operate op).payload.Reachable := by
  cases op with
  | begin step topics =>
    cases ha : s.active with
    | none => rw [operate, begin_of_idle ha]; exact h.clear
    | some active => rw [operate, begin_of_active ha]; exact h
  | recordSubscriptions filters =>
    obtain ⟨l, hl, -⟩ := exists_recordSubscriptions_eq s filters
    rw [operate, hl]
    exact h
  | dispatch p =>
    cases p with
    | publish topic body =>
      have h' : (payload { s with lastPacket := some .publish }).Reachable := h
      exact payload_classify h' topic body
    | _ => exact h
  | _ => exact h

theorem Reachable.payload (h : s.Reachable) : s.payload.Reachable := by
  obtain ⟨capacity, ops, rfl⟩ := h
  induction ops using List.reverseRecOn with
  | nil => exact ⟨capacity, [], rfl⟩
  | append_singleton ops op ih =>
    rw [operateAll_append]
    exact payload_operate ih op

/-- What a refused packet leaves behind is its kind. -/
theorem dispatch_of_error {p : Packet} (h : (s.dispatch p).2 = .error cause) :
    (s.dispatch p).1 = { s with lastPacket := some p.kind } ∧
      ∃ step topics body, s.active = some ⟨step, topics⟩ ∧ s.answer? = none ∧
        p = .publish topics.accepted body ∧ s.payload.capacity < body.length ∧
        cause = .payloadTooLarge body.length s.payload.capacity := by
  obtain ha | ⟨⟨step, topics⟩, ha⟩ := Option.eq_none_or_eq_some s.active
  · cases p with
    | publish topic body => rw [dispatch_publish_of_idle ha] at h; cases h
    | _ => cases h
  · obtain ⟨hnone, body, rfl, hlong, hcause⟩ := (dispatch_eq_error_iff ha).1 h
    refine ⟨?_, step, topics, body, ha, hnone, rfl, hlong, hcause⟩
    have ha' : active { s with lastPacket := some .publish } = some ⟨step, topics⟩ := ha
    have htopic : topics.dispositionOf topics.accepted = some .accepted := if_pos rfl
    have hopen : s.lastOutcome = .notReceived := answer?_eq_none_iff.1 hnone
    have hfits : ¬ body.length ≤ s.payload.capacity := Nat.not_le_of_lt hlong
    rw [dispatch_publish, classify_of_active ha', htopic]
    simp only [hopen, ne_eq, not_true_eq_false, if_false, receive_accepted, if_neg hfits]
    rfl

/-! ### Waiting for the answer -/

/-- The step is in flight and has no answer. -/
structure Unanswered (s : Session) (step : Step) (topics : Topics) (capacity : Nat) : Prop where
  active : s.active = some ⟨step, topics⟩
  answer : s.answer? = none
  room : s.payload.capacity = capacity

end Session

/-- The operation does not end a step with these topics, nor does it bring the answer. -/
def Operation.Spares (topics : Topics) (capacity : Nat) : Operation → Prop
  | .finish => False
  | .dispatch p => topics.answer? capacity p = none
  | _ => True

namespace Session.Unanswered

variable {s : Session} {step : Step} {topics : Topics} {capacity : Nat}

theorem operate (h : s.Unanswered step topics capacity) {op : Operation}
    (hop : op.Spares topics capacity) : (s.operate op).Unanswered step topics capacity := by
  cases op with
  | begin step' topics' =>
    rw [Session.operate, begin_of_active h.active]
    exact h
  | finish => exact hop.elim
  | resetLastPacket => exact ⟨h.active, h.answer, h.room⟩
  | recordSubscriptions filters =>
    obtain ⟨l, hl, -⟩ := exists_recordSubscriptions_eq s filters
    rw [Session.operate, hl]
    exact ⟨h.active, h.answer, h.room⟩
  | dropSubscription filter => exact ⟨h.active, h.answer, h.room⟩
  | dispatch p =>
    have hframe := s.dispatch_frame p
    refine ⟨hframe.active.trans h.active, ?_, hframe.capacity.trans h.room⟩
    have hspared : topics.answer? capacity p = none := hop
    show (s.dispatch p).1.answer? = none
    rw [answer?_dispatch h.active p, h.answer, h.room, hspared]
    rfl

theorem operateAll (h : s.Unanswered step topics capacity) {ops : List Operation}
    (hops : ∀ op ∈ ops, op.Spares topics capacity) :
    (s.operateAll ops).Unanswered step topics capacity := by
  induction ops generalizing s with
  | nil => exact h
  | cons op ops ih =>
    obtain ⟨hop, hops⟩ := List.forall_mem_cons.1 hops
    exact ih (h.operate hop) hops

/-- A response that fits is the answer. -/
theorem dispatch_response (h : s.Unanswered step topics capacity) {topic : String}
    {d : Disposition} {body : Bytes} (hd : topics.dispositionOf topic = some d)
    (hfits : body.length ≤ capacity) :
    (s.dispatch (.publish topic body)).1.answer? = some (d, body) := by
  rw [answer?_dispatch h.active, h.answer, h.room, Topics.answer?, hd, Option.none_or]
  cases d <;> simp [Disposition.answer?, hfits]

end Session.Unanswered

/-- The outcome and the body that an answer leaves. -/
theorem Session.outcome_of_answer? {s : Session} {d : Disposition} {body : Bytes}
    (h : s.answer? = some (d, body)) :
    s.lastOutcome = .ofDisposition d ∧ s.payload.data = body := by
  cases ho : s.lastOutcome with
  | notReceived => simp [answer?, ho] at h
  | accepted | rejected =>
    simp only [answer?, ho, Option.some.injEq, Prod.mk.injEq] at h
    obtain ⟨rfl, rfl⟩ := h
    exact ⟨rfl, rfl⟩

/-- Whatever has been done to a session before, what it refuses leaves no trace.

A step that cannot begin, because another one is in flight, changes nothing, and a run of it ends
with an error that names both, without a call and without progress. A packet that is refused leaves
nothing but its kind, and whatever comes next, short of the end of the step and of an answer, the
first response that fits is the outcome. A buffer, that of the session or any other, keeps its bytes
when it refuses others, and never holds more than its capacity. -/
theorem refusals_leave_no_trace {s : Session} (h : s.Reachable) :
    (∀ step topics cause, s.begin step topics = .error cause →
      (Session.beginning step topics).run s = .error cause s ∧
        s.operate (.begin step topics) = s ∧
        ∃ active, s.active = some active ∧ cause = .busy active.step step) ∧
    (∀ active, s.active = some active →
      ∀ (α : Type) policy codec settings request (read : Bytes → Except CodecError α) t report,
        Path (runStep policy codec settings request read s) t report ↔
          t = [] ∧ report = ⟨s, [], .error (.busy (.busy active.step request.step))⟩) ∧
    (∀ p cause, (s.dispatch p).2 = .error cause →
      let refused := (s.dispatch p).1
      refused = { s with lastPacket := some p.kind } ∧
      ∃ step topics body, s.active = some ⟨step, topics⟩ ∧ p = .publish topics.accepted body ∧
        cause = .payloadTooLarge body.length s.payload.capacity ∧
        ∀ later, (∀ op ∈ later, op.Spares topics s.payload.capacity) →
          ∀ topic d (response : Bytes), topics.dispositionOf topic = some d →
            response.length ≤ s.payload.capacity →
            (refused.operateAll later).lastOutcome = .notReceived ∧
              let answered := ((refused.operateAll later).dispatch (.publish topic response)).1
              answered.lastOutcome = .ofDisposition d ∧ answered.payload.data = response) ∧
    s.payload.data.length ≤ s.payload.capacity ∧
    ∀ b : Buffer, b.Reachable → b.data.length ≤ b.capacity ∧
      ∀ body cause, b.store body = .error cause →
        (Buffer.storing body).run b = .error cause b ∧ b.operate (.store body) = b ∧
          b.capacity < body.length ∧ cause = .payloadTooLarge body.length b.capacity := by
  refine ⟨?begin, ?run, ?dispatch, h.payload.length_le, ?store⟩
  case begin =>
    intro step topics cause hbegin
    refine ⟨?_, ?_, Session.begin_eq_error_iff.1 hbegin⟩
    · rw [Session.run_beginning, hbegin]
    · rw [Session.operate, hbegin]
  case run => exact fun active hactive α policy codec settings request read t report =>
    Session.path_runStep_of_active hactive
  case dispatch =>
    intro p cause hrefused
    obtain ⟨hkept, step, topics, body, hactive, hnone, hp, -, hcause⟩ :=
      Session.dispatch_of_error hrefused
    refine ⟨hkept, step, topics, body, hactive, hp, hcause, ?_⟩
    intro later hlater topic d response hd hfits
    have hopen : (s.dispatch p).1.Unanswered step topics s.payload.capacity := by
      rw [hkept]
      exact ⟨hactive, hnone, rfl⟩
    have hlast := hopen.operateAll hlater
    exact ⟨Session.answer?_eq_none_iff.1 hlast.answer,
      Session.outcome_of_answer? (hlast.dispatch_response hd hfits)⟩
  case store =>
    intro b hb
    refine ⟨hb.length_le, fun body cause hstore => ⟨?_, ?_, Buffer.store_eq_error_iff.1 hstore⟩⟩
    · rw [Buffer.run_storing, hstore]
    · rw [Buffer.operate, hstore]

def signingTopics : Topics := .createCertificate .cbor

/-- A step in flight, with its filters recorded and room for two bytes. -/
def signingSession : Session :=
  (Session.new 2).operateAll
    [.begin .createCertificate signingTopics, .recordSubscriptions signingTopics.responseFilters]

/-- Another step, and an answer of three bytes, are refused; after an acknowledgement and one more
answer that is too long, an answer of one byte is taken. -/
theorem signingSession_refuses :
    signingSession.Reachable ∧
    signingSession.operate (.begin .registerThing (.registerThing "Fleet" .cbor)) = signingSession ∧
    (∀ codec t report, Path (runStep .standard codec ⟨.standard, .tolerate⟩
        ⟨.registerThing, .registerThing "Fleet" .cbor, [0]⟩ (.ok ·) signingSession) t report →
      t = [] ∧ report.session = signingSession) ∧
    (signingSession.dispatch (.publish signingTopics.accepted [1, 2, 3])).2 =
      .error (.payloadTooLarge 3 2) ∧
    ((((signingSession.dispatch (.publish signingTopics.accepted [1, 2, 3])).1.operateAll
      [.dispatch (.subAck true), .dispatch (.publish signingTopics.accepted [4, 5, 6])]).dispatch
        (.publish signingTopics.accepted [7])).1.payload.data = [7]) ∧
    (Buffer.storing [1, 2, 3]).run signingSession.payload =
      .error (.payloadTooLarge 3 2) signingSession.payload := by
  have hreach : signingSession.Reachable := ⟨2, _, rfl⟩
  obtain ⟨hbegin, hrun, hdispatch, -, hstore⟩ := refusals_leave_no_trace hreach
  have hbusy : signingSession.begin .registerThing (.registerThing "Fleet" .cbor) =
      .error (.busy .createCertificate .registerThing) := rfl
  have hlong : (signingSession.dispatch (.publish signingTopics.accepted [1, 2, 3])).2 =
      .error (.payloadTooLarge 3 2) := by decide
  obtain ⟨-, step, topics, body, hactive, -, -, hlater⟩ := hdispatch _ _ hlong
  obtain ⟨rfl, rfl⟩ : step = .createCertificate ∧ topics = signingTopics := by
    cases hactive
    exact ⟨rfl, rfl⟩
  have hspared : ∀ op ∈ [Operation.dispatch (.subAck true),
      .dispatch (.publish signingTopics.accepted [4, 5, 6])],
      op.Spares signingTopics signingSession.payload.capacity := by
    simp only [List.forall_mem_cons]
    exact ⟨rfl, rfl, nofun⟩
  refine ⟨hreach, (hbegin _ _ _ hbusy).2.1, ?_, hlong, ?_, ?_⟩
  · intro codec t report hpath
    obtain ⟨rfl, rfl⟩ := (hrun _ rfl _ _ _ _ _ _ _ _).1 hpath
    exact ⟨rfl, rfl⟩
  · exact (hlater _ hspared signingTopics.accepted .accepted [7] (by decide) (by decide)).2.2
  · exact ((hstore _ hreach.payload).2 _ _ rfl).1

end Enrolment
