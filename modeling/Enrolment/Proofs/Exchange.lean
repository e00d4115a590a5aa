import Enrolment.Proofs.Subscribe

/-!
# Enrolment.Proofs.Exchange

The paths of a step: subscribing, one publish at most, waiting for the answer, and unsubscribing.

* `path_exchange`: the three ways in which an exchange can end.
* `path_awaitResponse`: what the wait for an answer can do, round by round.
* `ResponsePath.ends`: an exchange that is answered ends with the answer that the session holds.
* `path_unsubscribeEach`: every filter is asked to be unsubscribed once, in order.
* `path_runStep`: a step is an exchange and the unsubscribing after it.
-/

namespace Enrolment

open Interaction

/-! ## The answer -/

/-- The failures that an answer can make of a step: it says no, or cannot be read. -/
def StepError.isVerdict : StepError → Bool
  | serverRejected .. | decodeFailed .. => true
  | _ => false

/-- What a failure to subscribe makes of a step. -/
theorem path_subscribeWithRetry_error {policy : RetryPolicy} {settings : StepSettings}
    {topics : Topics} {s s' : Session} {t : List Event} {e : StepError}
    (h : Path (subscribeWithRetry policy settings topics s) t (s', .error e)) :
    (∃ attempts reason, e = .subscribeFailed topics.accepted attempts reason) ∨
      ∃ reason, e = .noEntropy reason := by
  rw [subscribeWithRetry_eq] at h
  obtain ⟨t₁, t₂, ⟨s₁, outcome⟩, -, -, h₂⟩ := path_bind.1 h
  obtain ⟨-, hr⟩ := path_pure.1 h₂
  match outcome, hr with
  | .error (.exhausted attempts reason), hr => cases hr; exact .inl ⟨attempts, reason, rfl⟩
  | .error (.noEntropy reason), hr => cases hr; exact .inr ⟨reason, rfl⟩

theorem isVerdict_of_path_subscribeWithRetry {policy : RetryPolicy} {settings : StepSettings}
    {topics : Topics} {s s' : Session} {t : List Event} {e : StepError}
    (h : Path (subscribeWithRetry policy settings topics s) t (s', .error e)) :
    e.isVerdict = false := by
  obtain ⟨attempts, reason, rfl⟩ | ⟨reason, rfl⟩ := path_subscribeWithRetry_error h <;> rfl

/-- How the session after a wait for the answer goes with the result. -/
def EndsResponse (codec : Codec) (step : Step) (s : Session) : Except StepError Unit → Prop
  | .ok () => s.answer? = some (.accepted, s.payload.data)
  | .error e => e.isVerdict → s.answer? = some (.rejected, s.payload.data) ∧
    e = .serverRejected step ((codec.readRejection s.payload.data).getD .unexplained)

theorem endsResponse_error {codec : Codec} {step : Step} {s : Session} {e : StepError}
    (h : e.isVerdict = false) : EndsResponse codec step s (.error e) := by
  intro hv
  rw [h] at hv
  cases hv

/-- What the failure of a wait for the answer means for the step. -/
def responseError (settings : StepSettings) (step : Step) : WaitError → StepError
  | .timeout .. => .noResponse step settings.budget.maxPolls
  | .transport fault => .transport step fault
  | .payloadTooLarge cause => .payloadTooLarge cause

/-- The ways in which the wait for an answer can go, with a number of polls left: they are spent, or
a round ends the wait, or it leaves a stray publish and some polls behind. -/
inductive ResponsePath (codec : Codec) (settings : StepSettings) (step : Step) :
    Nat → Session → List Event → StepReport Unit → Prop
  | spent (s : Session) :
      ResponsePath codec settings step 0 s []
        ⟨s, [], .error (.noResponse step settings.budget.maxPolls)⟩
  | failed {remaining : Nat} {s s' : Session} {t : List Event} {e : WaitError} :
      PollPath .publish (settings.budget.withPolls remaining) remaining s.resetLastPacket t s'
        (.error e) →
      ResponsePath codec settings step remaining s t
        ⟨s', [], .error (responseError settings step e)⟩
  | accepted {remaining used : Nat} {s s' : Session} {t : List Event} :
      PollPath .publish (settings.budget.withPolls remaining) remaining s.resetLastPacket t s'
        (.ok used) →
      s'.lastOutcome = .accepted →
      ResponsePath codec settings step remaining s t ⟨s', [.result .accepted], .ok ()⟩
  | rejected {remaining used : Nat} {s s' : Session} {t : List Event} :
      PollPath .publish (settings.budget.withPolls remaining) remaining s.resetLastPacket t s'
        (.ok used) →
      s'.lastOutcome = .rejected →
      ResponsePath codec settings step remaining s t
        ⟨s', [.result .rejected], .error (.serverRejected step
          ((codec.readRejection s'.payload.data).getD .unexplained))⟩
  | unexpected {remaining used : Nat} {s s' : Session} {t : List Event} :
      PollPath .publish (settings.budget.withPolls remaining) remaining s.resetLastPacket t s'
        (.ok used) →
      s'.lastOutcome = .notReceived → settings.strayPolicy = .reject →
      ResponsePath codec settings step remaining s t
        ⟨s', [], .error (.unexpectedResponse step (s'.lastUnmatchedTopic.getD ""))⟩
  | stray {remaining used : Nat} {s s' : Session} {t u : List Event} {report : StepReport Unit} :
      PollPath .publish (settings.budget.withPolls remaining) remaining s.resetLastPacket t s'
        (.ok used) →
      s'.lastOutcome = .notReceived → settings.strayPolicy = .tolerate →
      ResponsePath codec settings step (remaining - used) s' u report →
      ResponsePath codec settings step remaining s (t ++ u) report

/-- There are as many rounds as polls, so the rounds do not run out before the polls. -/
theorem path_awaitResponse {codec : Codec} {settings : StepSettings} {step : Step}
    {rounds remaining : Nat} {s : Session} {t : List Event} {report : StepReport Unit}
    (h : Path (awaitResponse codec settings step rounds remaining s) t report)
    (hrounds : remaining ≤ rounds) :
    ResponsePath codec settings step remaining s t report := by
  induction rounds generalizing remaining s t with
  | zero =>
    obtain ⟨rfl, rfl⟩ := path_pure.1 h
    obtain rfl : remaining = 0 := by omega
    exact .spent s
  | succ rounds ih =>
    simp only [awaitResponse] at h
    by_cases hz : remaining = 0
    · rw [if_pos hz] at h
      obtain ⟨rfl, rfl⟩ := path_pure.1 h
      rw [hz]
      exact .spent s
    rw [if_neg hz] at h
    obtain ⟨t₁, t₂, ⟨s₁, waited⟩, rfl, h₁, h₂⟩ := path_bind.1 h
    have hpoll := path_pollFor h₁
    cases waited with
    | error e =>
      cases e
      all_goals
        obtain ⟨rfl, rfl⟩ := path_pure.1 h₂
        rw [List.append_nil]
        exact .failed hpoll
    | ok used =>
      cases ho : s₁.lastOutcome with
      | accepted =>
        simp only [ho] at h₂
        obtain ⟨rfl, rfl⟩ := path_pure.1 h₂
        rw [List.append_nil]
        exact .accepted hpoll ho
      | rejected =>
        simp only [ho] at h₂
        obtain ⟨rfl, rfl⟩ := path_pure.1 h₂
        rw [List.append_nil]
        exact .rejected hpoll ho
      | notReceived =>
        simp only [ho] at h₂
        cases hp : settings.strayPolicy with
        | tolerate =>
          simp only [hp] at h₂
          obtain ⟨hpos, hused⟩ := hpoll.used (Nat.le_refl _)
          exact .stray hpoll ho hp (ih h₂ (by omega))
        | reject =>
          simp only [hp] at h₂
          obtain ⟨rfl, rfl⟩ := path_pure.1 h₂
          rw [List.append_nil]
          exact .unexpected hpoll ho hp

section Response

variable {codec : Codec} {settings : StepSettings} {step : Step} {remaining : Nat} {s : Session}
  {t : List Event} {report : StepReport Unit}

theorem ResponsePath.session (h : ResponsePath codec settings step remaining s t report) :
    (s.after t).Agrees report.session := by
  induction h with
  | spent s => exact .refl s
  | failed hpoll | accepted hpoll _ | rejected hpoll _ | unexpected hpoll _ _ => exact hpoll.agrees
  | stray hpoll _ _ _ ih => exact hpoll.agrees.append ih

theorem ResponsePath.waits (h : ResponsePath codec settings step remaining s t report) :
    Waits t := by
  induction h with
  | spent s => exact waits_nil
  | failed hpoll | accepted hpoll _ | rejected hpoll _ | unexpected hpoll _ _ => exact hpoll.waits
  | stray hpoll _ _ _ ih => exact waits_append.2 ⟨hpoll.waits, ih⟩

theorem ResponsePath.ends (h : ResponsePath codec settings step remaining s t report) :
    EndsResponse codec step report.session report.result := by
  induction h with
  | spent s => exact endsResponse_error rfl
  | @failed _ _ _ _ e _ => cases e <;> exact endsResponse_error rfl
  | accepted _ ho => simp [EndsResponse, Session.answer?, ho]
  | rejected _ ho => simp [EndsResponse, Session.answer?, ho]
  | unexpected _ _ _ => exact endsResponse_error rfl
  | stray _ _ _ _ ih => exact ih

end Response

/-! ## The exchange -/

/-- The event of publishing a request. -/
def StepRequest.sent (request : StepRequest) : Event :=
  ⟨.publish request.topics.publish request.body, .ok ()⟩

/-- The ways in which an exchange can go. -/
inductive ExchangePath (policy : RetryPolicy) (codec : Codec) (settings : StepSettings)
    (request : StepRequest) (s : Session) : List Event → StepReport Unit → Prop
  | unsubscribed {t : List Event} {s' : Session} {e : StepError} :
      Path (subscribeWithRetry policy settings request.topics s) t (s', .error e) →
      ExchangePath policy codec settings request s t ⟨s', [], .error e⟩
  | unpublished {t : List Event} {s' : Session} {fault : LinkFault} :
      Path (subscribeWithRetry policy settings request.topics s) t (s', .ok ()) →
      ExchangePath policy codec settings request s
        (t ++ [⟨.publish request.topics.publish request.body, .error fault⟩])
        ⟨s', [.subscribed], .error (.publishFailed request.topics.publish fault)⟩
  | asked {t u : List Event} {s' : Session} {report : StepReport Unit} :
      Path (subscribeWithRetry policy settings request.topics s) t (s', .ok ()) →
      ResponsePath codec settings request.step settings.budget.maxPolls s' u report →
      ExchangePath policy codec settings request s
        (t ++ request.sent :: u)
        { report with progress := .subscribed :: .published :: report.progress }

theorem path_exchange {policy : RetryPolicy} {codec : Codec} {settings : StepSettings}
    {request : StepRequest} {s : Session} {t : List Event} {report : StepReport Unit}
    (h : Path (exchange policy codec settings request s) t report) :
    ExchangePath policy codec settings request s t report := by
  obtain ⟨t₁, t₂, ⟨s₁, subscribed⟩, rfl, h₁, h₂⟩ := path_bind.1 h
  cases subscribed with
  | error e =>
    obtain ⟨rfl, rfl⟩ := path_pure.1 h₂
    rw [List.append_nil]
    exact .unsubscribed h₁
  | ok u =>
    obtain ⟨reply, t₃, rfl, h₃⟩ := path_perform_bind.1 h₂
    match reply, h₃ with
    | .error fault, h₃ =>
      obtain ⟨rfl, rfl⟩ := path_pure.1 h₃
      exact .unpublished h₁
    | .ok (), h₃ =>
      obtain ⟨t₄, t₅, report, rfl, h₄, h₅⟩ := path_bind.1 h₃
      obtain ⟨rfl, rfl⟩ := path_pure.1 h₅
      rw [List.append_nil]
      exact .asked h₁ (path_awaitResponse h₄ (Nat.le_refl _))

/-- The session after an exchange is the one that has followed its events. -/
theorem ExchangePath.session {policy : RetryPolicy} {codec : Codec} {settings : StepSettings}
    {request : StepRequest} {s : Session} {t : List Event} {report : StepReport Unit}
    (h : ExchangePath policy codec settings request s t report) :
    (s.after t).Agrees report.session := by
  cases h with
  | unsubscribed h => exact (path_subscribeWithRetry h).1.session
  | unpublished h =>
    exact (path_subscribeWithRetry h).1.session.append (u := [_]) (.refl _)
  | asked h h' =>
    exact (path_subscribeWithRetry h).1.session.append (u := _ :: _) h'.session

section Subscriptions

variable {policy : RetryPolicy} {codec : Codec} {settings : StepSettings} {request : StepRequest}
  {s : Session} {t : List Event} {report : StepReport Unit}

theorem ExchangePath.calls (h : ExchangePath policy codec settings request s t report) :
    ∀ e ∈ t, e.call.Opens request.topics.responseFilters ∨
      e.call = .publish request.topics.publish request.body := by
  cases h with
  | unsubscribed h => exact fun e he => .inl ((path_subscribeWithRetry h).1.calls e he)
  | unpublished h =>
    refine List.forall_mem_append.2
      ⟨fun e he => .inl ((path_subscribeWithRetry h).1.calls e he), ?_⟩
    simp
  | asked h h' =>
    refine List.forall_mem_append.2 ⟨fun e he => .inl ((path_subscribeWithRetry h).1.calls e he),
      List.forall_mem_cons.2 ⟨.inr rfl, fun e he => ?_⟩⟩
    exact .inl (.inr (.inl (h'.waits e he)))

theorem ExchangePath.not_unsubscribe (h : ExchangePath policy codec settings request s t report) :
    ∀ e ∈ t, ∀ f, e.call ≠ .unsubscribe f := by
  intro e he f hc
  obtain (ho | ho | ho) | ho := h.calls e he
  all_goals rw [hc] at ho; cases ho

/-- The filters after an exchange are those before it and, if a SUBSCRIBE was taken, its own. -/
theorem ExchangePath.mem_subscriptions (h : ExchangePath policy codec settings request s t report)
    (f : String) :
    f ∈ report.session.subscriptions ↔ f ∈ s.subscriptions ∨
      ⟨.subscribe request.topics.responseFilters, .ok ()⟩ ∈ t ∧
        f ∈ request.topics.responseFilters := by
  rw [h.session.subscriptions, Session.mem_after_of_no_unsubscribe h.not_unsubscribe]
  refine or_congr_right ⟨?_, fun ⟨hs, hf⟩ => ⟨_, hs, hf⟩⟩
  rintro ⟨filters, hs, hf⟩
  obtain (ho | ho | ho) | ho := h.calls _ hs
  · cases ho; exact ⟨hs, hf⟩
  all_goals cases ho

end Subscriptions

/-! ## Unsubscribing -/

/-- The events deliver an UNSUBACK. -/
def unsubAcked (t : List Event) : Bool := (packets t).any fun p => p.kind = .unsubAck

/-- Every one of some filters is unsubscribed, in order, with a wait after each. The last index says
whether every UNSUBSCRIBE was taken and acknowledged. -/
inductive Closing : List String → List Event → Bool → Prop
  | nil : Closing [] [] true
  | cons {filter : String} {reply : Except LinkFault Unit} {filters : List String}
      {t u : List Event} {clean : Bool} :
      Waits t → Closing filters u clean →
      Closing (filter :: filters) (⟨.unsubscribe filter, reply⟩ :: t ++ u)
        (reply.isOk && unsubAcked t && clean)

namespace Closing

variable {filters : List String} {t : List Event} {clean : Bool}

theorem calls (h : Closing filters t clean) :
    ∀ e ∈ t, e.call.isWait ∨ ∃ f ∈ filters, e.call = .unsubscribe f := by
  induction h with
  | nil => simp
  | @cons filter reply filters t u _ hw _ ih =>
    intro e he
    obtain rfl | he | he : e = ⟨.unsubscribe filter, reply⟩ ∨ e ∈ t ∨ e ∈ u := by simpa using he
    · exact .inr ⟨filter, List.mem_cons_self, rfl⟩
    · exact .inl (hw e he)
    · exact (ih e he).imp_right fun ⟨f, hf, hc⟩ => ⟨f, List.mem_cons_of_mem _ hf, hc⟩

theorem head {filter : String} (h : Closing filters t clean) (hf : filter ∈ filters) :
    ∃ g reply u, t = ⟨.unsubscribe g, reply⟩ :: u := by
  cases h with
  | nil => cases hf
  | cons _ _ => exact ⟨_, _, _, rfl⟩

theorem unsubscribed (h : Closing filters t clean) :
    ∀ f ∈ filters, ∃ e ∈ t, e.call = .unsubscribe f := by
  induction h with
  | nil => simp
  | @cons filter reply filters t u _ _ _ ih =>
    intro f hf
    obtain rfl | hf := List.mem_cons.1 hf
    · exact ⟨⟨.unsubscribe f, reply⟩, by simp, rfl⟩
    · obtain ⟨e, he, hc⟩ := ih f hf
      exact ⟨e, by simp [he], hc⟩

theorem not_subscribe (h : Closing filters t clean) : ∀ e ∈ t, ∀ l, e.call ≠ .subscribe l := by
  intro e he l hc
  obtain hw | ⟨f, -, hu⟩ := h.calls e he
  · rw [hc] at hw; cases hw
  · rw [hc] at hu; cases hu

/-- No filter is left that was unsubscribed. -/
theorem mem_after (h : Closing filters t clean) (s : Session) (f : String) :
    f ∈ (s.after t).subscriptions ↔ f ∈ s.subscriptions ∧ f ∉ filters := by
  rw [Session.mem_after_of_no_subscribe h.not_subscribe, and_congr_right_iff]
  intro _
  constructor
  · intro hn hf
    obtain ⟨e, he, hc⟩ := h.unsubscribed f hf
    exact hn e he hc
  · intro hf e he hc
    obtain hw | ⟨g, hg, hu⟩ := h.calls e he
    · rw [hc] at hw; cases hw
    · rw [hc] at hu; cases hu; exact hf hg

end Closing

/-- A wait for an UNSUBACK succeeds if one is delivered, and fails otherwise. -/
theorem EndsWait.unsubAcked {t : List Event} {r : Except WaitError Nat}
    (h : EndsWait .unsubAck (packets t) r) : unsubAcked t = r.isOk := by
  match r, h with
  | .ok _, ⟨earlier, p, hps, hp, _⟩ =>
    show (packets t).any _ = true
    simp [hps, hp]
  | .error (.payloadTooLarge _), ⟨earlier, p, hps, hp, hne⟩ =>
    show (packets t).any _ = false
    simpa [hps, hp] using hne
  | .error (.timeout ..), h | .error (.transport _), h =>
    have hne : ∀ p ∈ packets t, p.kind ≠ .unsubAck := h
    show (packets t).any _ = false
    simpa using hne

theorem path_unsubscribeOne {settings : StepSettings} {filter : String} {s s' : Session}
    {t : List Event} {o : Except TeardownError Unit}
    (h : Path (unsubscribeOne settings filter s) t (s', o)) :
    ∃ reply u, t = ⟨.unsubscribe filter, reply⟩ :: u ∧ Waits u ∧ (s.after t).Agrees s' ∧
      o.isOk = (reply.isOk && unsubAcked u) := by
  obtain ⟨t₁, t₂, ⟨s₁, outcome⟩, rfl, h₁, h₂⟩ := path_bind.1 h
  obtain ⟨rfl, hr⟩ := path_pure.1 h₂
  cases hr
  simp only [requestUnsubscribe] at h₁
  obtain ⟨reply, t₃, rfl, h₃⟩ := path_perform_bind.1 h₁
  match reply, h₃ with
  | .error fault, h₃ =>
    obtain ⟨rfl, hr⟩ := path_pure.1 h₃
    cases hr
    exact ⟨_, [], rfl, waits_nil, .refl _, rfl⟩
  | .ok (), h₃ =>
    obtain ⟨tw, t₄, ⟨s₂, waited⟩, rfl, h₄, h₅⟩ := path_bind.1 h₃
    obtain ⟨rfl, hr⟩ := path_pure.1 h₅
    cases hr
    obtain ⟨hs, hw, he⟩ := path_waitFor h₄
    refine ⟨.ok (), tw, by simp, hw, ?_, ?_⟩
    · -- The session forgets the filter after the wait, and `after` before it.
      rw [List.append_nil, List.append_nil, Session.after_cons]
      show ((s.dropSubscription filter).after tw).Agrees _
      rw [hw.dropSubscription]
      exact hs.drop filter
    · rw [he.unsubAcked]
      match waited with
      | .ok _ | .error (.timeout ..) | .error (.transport _) | .error (.payloadTooLarge _) => rfl

theorem path_unsubscribeEach {settings : StepSettings} {filters : List String} {s s' : Session}
    {t : List Event} {clean : Bool}
    (h : Path (unsubscribeEach settings filters s) t (s', clean)) :
    (s.after t).Agrees s' ∧ Closing filters t clean := by
  induction filters generalizing s t clean with
  | nil =>
    obtain ⟨rfl, hr⟩ := path_pure.1 h
    cases hr
    exact ⟨.refl _, .nil⟩
  | cons filter filters ih =>
    simp only [unsubscribeEach] at h
    obtain ⟨t₁, t₂, ⟨s₁, outcome⟩, rfl, h₁, h₂⟩ := path_bind.1 h
    obtain ⟨reply, u, rfl, hw, hs, hok⟩ := path_unsubscribeOne h₁
    have hrest : ∃ lines t₃ clean', t₂ = logged lines ++ t₃ ∧ clean = (outcome.isOk && clean') ∧
        Path (unsubscribeEach settings filters s₁) t₃ (s', clean') := by
      cases outcome with
      | ok u =>
        obtain ⟨t₃, t₄, ⟨s₂, clean'⟩, rfl, h₃, h₄⟩ := path_bind.1 h₂
        obtain ⟨rfl, hr⟩ := path_pure.1 h₄
        cases hr
        exact ⟨[], t₃, clean', by simp [logged], rfl, h₃⟩
      | error e =>
        obtain ⟨t₅, rfl, h₅⟩ := path_log_bind.1 h₂
        obtain ⟨t₃, t₄, ⟨s₂, clean'⟩, rfl, h₃, h₄⟩ := path_bind.1 h₅
        obtain ⟨rfl, hr⟩ := path_pure.1 h₄
        cases hr
        exact ⟨[⟨.warn, e.message⟩], t₃, clean', by simp [logged], rfl, h₃⟩
    obtain ⟨lines, t₃, clean', rfl, rfl, h₃⟩ := hrest
    obtain ⟨hs', hc⟩ := ih h₃
    constructor
    · refine hs.append ?_
      rw [Session.after_append, (quiet_logged lines).session]
      exact hs'
    · have hacked : unsubAcked (u ++ logged lines) = unsubAcked u := by
        rw [unsubAcked, packets_append, (quiet_logged lines).packets, List.append_nil, unsubAcked]
      rw [← List.append_assoc, List.cons_append, hok, ← hacked]
      exact .cons (waits_append.2 ⟨hw, waits_logged lines⟩) hc

/-! ## The step -/

section Step

variable {α : Type} {policy : RetryPolicy} {codec : Codec} {settings : StepSettings}
  {request : StepRequest} {read : Bytes → Except CodecError α} {s : Session} {t : List Event}
  {report : StepReport α}

/-- What a step makes of the end of its exchange. -/
def readAnswer (request : StepRequest) (read : Bytes → Except CodecError α)
    (report : StepReport Unit) : Except StepError α :=
  match report.result with
  | .ok () => (read report.session.payload.data).mapError (.decodeFailed request.step)
  | .error e => .error e

/-- A step goes through an exchange, and then unsubscribes from every filter. -/
inductive StepPath (policy : RetryPolicy) (codec : Codec) (settings : StepSettings)
    (request : StepRequest) (read : Bytes → Except CodecError α) (s : Session) :
    List Event → StepReport α → Prop
  | made {t u : List Event} {exchanged : StepReport Unit} {s' : Session} {clean : Bool}
      {first last : LogLine} :
      Path (exchange policy codec settings request (s.begun request.step request.topics)) t
        exchanged →
      Path (unsubscribeAll settings exchanged.session) u (s', clean) →
      StepPath policy codec settings request read s
        (logged [first] ++ t ++ u ++ logged [last])
        ⟨s'.finish,
          exchanged.progress ++
            if (readAnswer request read exchanged).isOk && clean then [.unsubscribed] else [],
          readAnswer request read exchanged⟩

theorem path_runStep (hidle : s.active = none)
    (h : Path (runStep policy codec settings request read s) t report) :
    StepPath policy codec settings request read s t report := by
  simp only [runStep, Session.begin_of_idle hidle] at h
  obtain ⟨t₁, rfl, h₁⟩ := path_log_bind.1 h
  obtain ⟨t₂, t₃, exchanged, rfl, h₂, h₃⟩ := path_bind.1 h₁
  obtain ⟨t₄, t₅, ⟨s', clean⟩, rfl, h₄, h₅⟩ := path_bind.1 h₃
  have hlast : ∃ last, t₅ = logged [last] ∧ report = ⟨s'.finish,
      exchanged.progress ++
        if (readAnswer request read exchanged).isOk && clean then [.unsubscribed] else [],
      readAnswer request read exchanged⟩ := by
    split at h₅
    · obtain ⟨t₆, rfl, h₆⟩ := path_log_bind.1 h₅
      obtain ⟨rfl, rfl⟩ := path_pure.1 h₆
      exact ⟨_, rfl, rfl⟩
    · obtain ⟨t₆, rfl, h₆⟩ := path_log_bind.1 h₅
      obtain ⟨rfl, rfl⟩ := path_pure.1 h₆
      exact ⟨_, rfl, rfl⟩
  obtain ⟨last, rfl, rfl⟩ := hlast
  rw [← List.append_assoc, ← List.cons_append]
  exact .made h₂ h₄

/-- The session after a step is the one that has followed its events, without the step. -/
theorem StepPath.after (h : StepPath policy codec settings request read s t report) :
    ∃ s', ((s.begun request.step request.topics).after t).Agrees s' ∧
      report.session = s'.finish := by
  cases h with
  | @made t u exchanged s' clean first last hx hu =>
    refine ⟨s', ?_, rfl⟩
    obtain ⟨hs, -⟩ := path_unsubscribeEach hu
    have htu := (path_exchange hx).session.append hs
    simpa [(quiet_logged _).session] using htu

theorem StepPath.idle (h : StepPath policy codec settings request read s t report) :
    report.session.active = none := by
  cases h; rfl

theorem StepPath.capacity (h : StepPath policy codec settings request read s t report) :
    report.session.payload.capacity = s.payload.capacity := by
  obtain ⟨s', hs, hr⟩ := h.after
  rw [hr]
  show s'.payload.capacity = _
  rw [hs.payload, Session.after_capacity, Session.begun_capacity]

/-- No filter is left after a step. -/
theorem StepPath.subscriptions (h : StepPath policy codec settings request read s t report) :
    report.session.subscriptions = [] := by
  cases h with
  | @made t u exchanged s' clean first last hx hu =>
    obtain ⟨hs, hc⟩ := path_unsubscribeEach hu
    refine List.eq_nil_iff_forall_not_mem.2 fun f hf => ?_
    have hf' : f ∈ (exchanged.session.after u).subscriptions := hs.subscriptions ▸ hf
    obtain ⟨hmem, hnot⟩ := (hc.mem_after _ f).1 hf'
    exact hnot hmem

end Step

end Enrolment
