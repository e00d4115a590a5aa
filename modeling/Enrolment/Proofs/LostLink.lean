import Enrolment.Mqtt.World
import Enrolment.Proofs.Provenance
import Enrolment.Proofs.Teardown
import Mathlib.Data.List.Induction

/-!
# Enrolment.Proofs.LostLink

A link that is lost stays lost. A poll that reports a failed connection closes the link for good,
and so does closing it: from then on every request and every poll is refused, the client is not
asked for anything, and closing the link again is no error.

* `isOpen_after`: a link is open until the first call that closes it.
* `untouched_after`: a closed link stays as it is, whatever is asked of it.
* `RunPath.lost`: a run whose link is lost fails, unless it is already unsubscribing after it has
  registered the thing.
-/

namespace Enrolment

open Interaction Mqtt

/-! ## The replies of a world -/

namespace Interaction

variable {σ α : Type}

/-- A world after some calls. -/
def World.after (world : World σ) (s : σ) (t : List Event) : σ :=
  t.foldl (fun s e => (world e.call s).2) s

/-- The replies that some calls got are those of a world, from a state on. -/
def World.Answers (world : World σ) : σ → List Event → Prop
  | _, [] => True
  | s, e :: t => e.reply = (world e.call s).1 ∧ world.Answers (world e.call s).2 t

variable {world : World σ} {s : σ} {t u : List Event}

@[simp] theorem World.after_append : world.after s (t ++ u) = world.after (world.after s t) u :=
  List.foldl_append

theorem World.answers_append :
    world.Answers s (t ++ u) ↔ world.Answers s t ∧ world.Answers (world.after s t) u := by
  induction t generalizing s with
  | nil => simp [World.Answers, World.after]
  | cons e t ih =>
    rw [List.cons_append, World.Answers, ih, World.Answers, and_assoc]
    rfl

theorem answers_trace (world : World σ) (run : Interaction α) (s : σ) :
    world.Answers s (run.trace world s) ∧
      world.after s (run.trace world s) = (run.run world s).2 := by
  induction run generalizing s with
  | done a => exact ⟨trivial, rfl⟩
  | call c next ih =>
    obtain ⟨hanswers, hafter⟩ := ih (world c s).1 (world c s).2
    exact ⟨⟨rfl, hanswers⟩, hafter⟩

end Interaction

/-! ## Open and closed links -/

/-- The link had been closed before the call. -/
def closedBefore {α : Type} : Except LinkFault α → Bool
  | .error .closed => true
  | _ => false

/-- A request, or a poll, that failed because the link had been closed before. -/
def Event.foundClosed : Event → Bool
  | ⟨.subscribe _, reply⟩ => closedBefore reply
  | ⟨.publish .., reply⟩ => closedBefore reply
  | ⟨.unsubscribe _, reply⟩ => closedBefore reply
  | ⟨.poll _, reply⟩ => closedBefore reply
  | _ => false

/-- A poll that reports a failed connection. -/
def Event.loses : Event → Bool
  | ⟨.poll _, reply⟩ => !reply.isOk && !closedBefore reply
  | _ => false

/-- The call closes the link. -/
def Event.closes (e : Event) : Bool := e.loses || e.call = .disconnect

theorem Event.loses_eq_false {e : Event} (h : e.call.isPoll = false) : e.loses = false := by
  obtain ⟨c, reply⟩ := e
  cases c <;> first | rfl | cases h

theorem Event.isPoll_of_loses {e : Event} (h : e.loses) : e.call.isPoll := by
  by_contra hpoll
  rw [loses_eq_false (Bool.not_eq_true _ ▸ hpoll)] at h
  cases h

namespace Mqtt

variable {σ τ : Type} {b : Broker σ} {others : World τ}

/-- What a call, other than one to open a link, makes of a link. -/
structure Served (l l' : Link σ) (e : Event) : Prop where
  isOpen : l'.isOpen = (l.isOpen && !e.closes)
  foundClosed : e.call.isRequest ∨ e.call.isPoll → e.foundClosed = !l.isOpen
  untouched : l.isOpen = false → l' = l
  disconnected : l.isOpen = false → e.call = .disconnect → e = ⟨.disconnect, .ok ()⟩

theorem ConnectionFault.closedBefore (fault : ConnectionFault) {α : Type} :
    closedBefore (.error fault.toLinkFault : Except LinkFault α) = false := by
  cases fault <;> rfl

/-- A request is handed to the client of an open link, and refused by a closed one. -/
theorem Link.request_served (l : Link σ) (ask : σ → Except String Unit × σ) :
    (l.request ask).2.isOpen = l.isOpen ∧ closedBefore (l.request ask).1 = !l.isOpen ∧
      (l.isOpen = false → (l.request ask).2 = l) := by
  cases hl : l.isOpen with
  | false => simp [l.request_closed ask hl, hl, closedBefore]
  | true =>
    simp only [Link.request, hl, if_true]
    cases (ask l.client).1 <;> simp [Except.mapError, closedBefore]

theorem Link.poll_served (l : Link σ) (c : Client σ) (timeout : Duration) :
    (l.poll c timeout).2.isOpen =
        (l.isOpen && !Event.closes ⟨.poll timeout, (l.poll c timeout).1⟩) ∧
      closedBefore (l.poll c timeout).1 = !l.isOpen ∧
      (l.isOpen = false → (l.poll c timeout).2 = l) := by
  refine and_assoc.1 ⟨?_, fun hclosed => congrArg Prod.snd (l.poll_closed c timeout hclosed)⟩
  cases hl : l.isOpen with
  | false => simp [l.poll_closed c timeout hl, hl, closedBefore]
  | true =>
    rcases hpolled : c.poll timeout l.client with ⟨_ | packet, client⟩
    · simp only [Link.poll, hl, hpolled, if_true]
      exact ⟨by simp [Event.closes, Event.loses, ConnectionFault.closedBefore, Except.isOk,
        Except.toBool], ConnectionFault.closedBefore _⟩
    · simp only [Link.poll, hl, hpolled, if_true]
      exact ⟨rfl, rfl⟩

theorem Link.disconnect_served (l : Link σ) (c : Client σ) :
    (l.disconnect c).2.isOpen = false ∧
      (l.isOpen = false → l.disconnect c = (.ok (), l)) := by
  refine ⟨?_, l.disconnect_closed c⟩
  cases hl : l.isOpen with
  | false => rw [l.disconnect_closed c hl]; exact hl
  | true =>
    simp only [Link.disconnect, hl, if_true]
    split <;> rfl

theorem served_of_reply {e : Event} {w : Link σ × τ}
    (hreply : e.reply = (b.world others e.call w).1)
    (hconnect : ∀ request, e.call ≠ .connect request) :
    Served w.1 (b.world others e.call w).2.1 e := by
  obtain ⟨l, s⟩ := w
  obtain ⟨c, reply⟩ := e
  obtain rfl : reply = (b.world others c (l, s)).1 := hreply
  cases c with
  | connect request => exact absurd rfl (hconnect request)
  | subscribe filters =>
    obtain ⟨hopen, hclosed, hsame⟩ := l.request_served (b.client.subscribe filters)
    exact ⟨hopen.trans (Bool.and_true _).symm, fun _ => hclosed, hsame, nofun⟩
  | publish topic body =>
    obtain ⟨hopen, hclosed, hsame⟩ := l.request_served (b.client.publish topic body)
    exact ⟨hopen.trans (Bool.and_true _).symm, fun _ => hclosed, hsame, nofun⟩
  | unsubscribe filter =>
    obtain ⟨hopen, hclosed, hsame⟩ := l.request_served (b.client.unsubscribe filter)
    exact ⟨hopen.trans (Bool.and_true _).symm, fun _ => hclosed, hsame, nofun⟩
  | poll timeout =>
    obtain ⟨hopen, hclosed, hsame⟩ := l.poll_served b.client timeout
    exact ⟨hopen, fun _ => hclosed, hsame, nofun⟩
  | disconnect =>
    obtain ⟨hopen, hsame⟩ := l.disconnect_served b.client
    refine ⟨hopen.trans (Bool.and_false _).symm, nofun, fun hl => ?_, fun hl _ => ?_⟩
    · exact congrArg Prod.snd (hsame hl)
    · exact congrArg (Event.mk .disconnect) (congrArg Prod.fst (hsame hl))
  | _ => exact ⟨(Bool.and_true _).symm, nofun, fun _ => rfl, nofun⟩

variable {w : Link σ × τ} {t : List Event}

/-- A link is open until the first call that closes it. -/
theorem isOpen_after (h : (b.world others).Answers w t)
    (hconnect : ∀ e ∈ t, ∀ request, e.call ≠ .connect request) :
    ((b.world others).after w t).1.isOpen = (w.1.isOpen && !t.any Event.closes) := by
  induction t generalizing w with
  | nil => exact (Bool.and_true _).symm
  | cons e t ih =>
    obtain ⟨hreply, hrest⟩ := h
    obtain ⟨he, ht⟩ := List.forall_mem_cons.1 hconnect
    have hopen := (served_of_reply hreply he).isOpen
    show ((b.world others).after _ t).1.isOpen = _
    rw [ih hrest ht, hopen, List.any_cons, Bool.not_or, Bool.and_assoc]

theorem closed_after_loss {e : Event} (h : (b.world others).Answers w (t ++ [e]))
    (he : e.loses) : ((b.world others).after w (t ++ [e])).1.isOpen = false := by
  obtain ⟨-, hreply, -⟩ := World.answers_append.1 h
  have hconnect (request : ConnectRequest) : e.call ≠ .connect request := by
    intro hcall
    have hpoll := Event.isPoll_of_loses he
    rw [hcall] at hpoll
    cases hpoll
  have hopen := (served_of_reply hreply hconnect).isOpen
  rw [Event.closes, he, Bool.true_or, Bool.not_true, Bool.and_false] at hopen
  rw [World.after_append]
  exact hopen

/-- A closed link stays as it is: its client is not asked for anything. -/
theorem untouched_after (h : (b.world others).Answers w t)
    (hconnect : ∀ e ∈ t, ∀ request, e.call ≠ .connect request) (hclosed : w.1.isOpen = false) :
    ((b.world others).after w t).1 = w.1 := by
  induction t generalizing w with
  | nil => rfl
  | cons e t ih =>
    obtain ⟨hreply, hrest⟩ := h
    obtain ⟨he, ht⟩ := List.forall_mem_cons.1 hconnect
    have hsame := (served_of_reply hreply he).untouched hclosed
    refine (ih hrest ht ?_).trans hsame
    rw [hsame]
    exact hclosed

/-- What the calls on a closed link can be answered with. -/
structure Refused (e : Event) : Prop where
  request : e.call.isRequest ∨ e.call.isPoll → e.foundClosed
  disconnect : e.call = .disconnect → e = ⟨.disconnect, .ok ()⟩

theorem refused_after (h : (b.world others).Answers w t)
    (hconnect : ∀ e ∈ t, ∀ request, e.call ≠ .connect request) (hclosed : w.1.isOpen = false) :
    ∀ e ∈ t, Refused e := by
  intro e he
  obtain ⟨earlier, later, rfl⟩ := List.append_of_mem he
  obtain ⟨hearlier, hreply, -⟩ := World.answers_append.1 h
  have hsame := untouched_after hearlier
    (fun d hd => hconnect d (List.mem_append_left _ hd)) hclosed
  have hserved := served_of_reply hreply (hconnect e he)
  rw [hsame] at hserved
  exact ⟨fun hask => by rw [hserved.foundClosed hask, hclosed]; rfl,
    hserved.disconnected hclosed⟩

end Mqtt

/-! ## Runs on a lost link -/

theorem not_loses_logged (lines : List LogLine) : ∀ e ∈ logged lines, e.loses = false := by
  intro e he
  obtain ⟨line, -, rfl⟩ := List.mem_map.1 he
  rfl

/-- A wait that succeeds has seen no failed connection. -/
theorem PollPath.not_loses {expected : PacketKind} {budget : WaitBudget} {left : Nat}
    {s s' : Session} {t : List Event} {used : Nat}
    (h : PollPath expected budget left s t s' (.ok used)) : ∀ e ∈ t, e.loses = false := by
  generalize hr : (Except.ok used : Except WaitError Nat) = r at h
  induction h with
  | spent s | fault s fault | refused lines _ => cases hr
  | empty _ ih => exact List.forall_mem_cons.2 ⟨rfl, ih hr⟩
  | found lines _ _ => exact List.forall_mem_cons.2 ⟨rfl, not_loses_logged lines⟩
  | other lines _ _ _ ih =>
    exact List.forall_mem_cons.2 ⟨rfl, List.forall_mem_append.2 ⟨not_loses_logged lines, ih hr⟩⟩

theorem ResponsePath.not_loses {codec : Codec} {settings : StepSettings} {step : Step}
    {remaining : Nat} {s : Session} {t : List Event} {report : StepReport Unit}
    (h : ResponsePath codec settings step remaining s t report) (hr : report.result = .ok ()) :
    ∀ e ∈ t, e.loses = false := by
  induction h with
  | spent s | failed _ | rejected _ _ | unexpected _ _ _ => cases hr
  | accepted hpoll _ => exact PollPath.not_loses hpoll
  | stray hpoll _ _ _ ih =>
    exact List.forall_mem_append.2 ⟨PollPath.not_loses hpoll, ih hr⟩

/-- Up to the end of `t`, nothing but waiting follows an UNSUBSCRIBE for one of some filters, which
stands behind `u`. -/
def AwaitsUnsubAck (filters : List String) (u t : List Event) : Prop :=
  ∃ filter ∈ filters, ∃ reply w, t = u ++ ⟨.unsubscribe filter, reply⟩ :: w ∧ Waits w

theorem AwaitsUnsubAck.append_left {filters : List String} {u t : List Event}
    (h : AwaitsUnsubAck filters u t) (v : List Event) :
    AwaitsUnsubAck filters (v ++ u) (v ++ t) := by
  obtain ⟨filter, hfilter, reply, w, rfl, hw⟩ := h
  exact ⟨filter, hfilter, reply, w, by rw [List.append_assoc], hw⟩

/-- By induction from the end: the last UNSUBSCRIBE is the one that is waited for. -/
theorem awaitsUnsubAck_of_calls {filters : List String} {filter : String}
    {reply : Except LinkFault Unit} {t : List Event} (hfilter : filter ∈ filters)
    (h : ∀ e ∈ t, e.call.isWait ∨ ∃ f ∈ filters, e.call = .unsubscribe f) :
    ∃ u, AwaitsUnsubAck filters u (⟨.unsubscribe filter, reply⟩ :: t) := by
  induction t using List.reverseRecOn with
  | nil => exact ⟨[], filter, hfilter, reply, [], rfl, waits_nil⟩
  | append_singleton t e ih =>
    obtain ⟨ht, he⟩ := List.forall_mem_append.1 h
    obtain hwait | ⟨f, hf, hcall⟩ := he e List.mem_cons_self
    · obtain ⟨u, g, hg, reply', w, hsplit, hw⟩ := ih ht
      refine ⟨u, g, hg, reply', w ++ [e], ?_, waits_append.2 ⟨hw, ?_⟩⟩
      · rw [← List.cons_append, hsplit, List.append_assoc, List.cons_append]
      · exact waits_cons.2 ⟨hwait, waits_nil⟩
    · obtain ⟨c, reply'⟩ := e
      obtain rfl : c = .unsubscribe f := hcall
      exact ⟨⟨.unsubscribe filter, reply⟩ :: t, f, hf, reply', [], rfl, waits_nil⟩

/-- A step that ends well: the request is published, the answer comes while the connection holds,
and then the filters are unsubscribed. -/
theorem StepPath.closing {α : Type} {policy : RetryPolicy} {codec : Codec}
    {settings : StepSettings} {request : StepRequest} {read : Bytes → Except CodecError α}
    {s : Session} {t : List Event} {report : StepReport α} {a : α}
    (h : StepPath policy codec settings request read s t report) (hs : s.subscriptions = [])
    (hr : report.result = .ok a) :
    ∃ opening waiting filter reply closing body,
      t = opening ++ request.sent :: waiting ++ ⟨.unsubscribe filter, reply⟩ :: closing ∧
      (∀ e ∈ waiting, e.loses = false) ∧
      request.topics.FirstAccepted s.payload.capacity
        (packets (opening ++ request.sent :: waiting)) body ∧
      read body = .ok a ∧ filter ∈ request.topics.responseFilters ∧
      ∀ e ∈ closing, e.call.isWait ∨
        ∃ f ∈ request.topics.responseFilters, e.call = .unsubscribe f := by
  cases h with
  | @made t u exchanged s' clean first last hexchange hu =>
    have hx := path_exchange hexchange
    obtain ⟨-, hc⟩ := path_unsubscribeEach hu
    have hmem := hx.mem_subscriptions
    simp only [Session.begun_subscriptions, hs, List.not_mem_nil, false_or] at hmem
    cases hx with
    | unsubscribed hsub => cases hr
    | unpublished hsub => cases hr
    | @asked t₁ t₂ s₁ answered hsub hwait =>
      obtain ⟨ho, hg⟩ := path_subscribeWithRetry hsub
      have hanswer := hwait.firstAnswer ho
      have hends := hwait.ends
      simp only [readAnswer] at hr
      cases hresult : answered.result with
      | error e => simp [hresult] at hr
      | ok _ =>
        rw [hresult] at hends
        simp only [hresult] at hr
        have hread : read answered.session.payload.data = .ok a := by
          cases hb : read answered.session.payload.data with
          | ok b => rw [hb] at hr; cases hr; rfl
          | error e => rw [hb] at hr; cases hr
        obtain ⟨filter, reply, closing, rfl⟩ := hc.head ((hmem request.topics.accepted).2
          ⟨List.mem_append_left _ hg.mem, List.mem_cons_self⟩)
        have hcalls : ∀ e ∈ ⟨.unsubscribe filter, reply⟩ :: closing ++ logged [last],
            e.call.isWait ∨ ∃ f ∈ request.topics.responseFilters, e.call = .unsubscribe f := by
          refine List.forall_mem_append.2 ⟨fun e he => ?_, fun e he => .inl (waits_logged _ e he)⟩
          obtain hwait | ⟨f, hf, hcall⟩ := hc.calls e he
          · exact .inl hwait
          · exact .inr ⟨f, ((hmem f).1 hf).2, hcall⟩
        have hpackets : packets (logged [first] ++ t₁ ++ request.sent :: t₂) =
            packets (t₁ ++ t₂) := by
          simp [(quiet_logged _).packets, StepRequest.sent, Event.packet?]
        refine ⟨logged [first] ++ t₁, t₂, filter, reply, closing ++ logged [last],
          answered.session.payload.data, by simp, hwait.not_loses hresult, ?_, hread, ?_,
          fun e he => hcalls e (List.mem_cons_of_mem _ he)⟩
        · rw [hpackets]
          exact Topics.firstAccepted_of_firstAnswer (hanswer ▸ hends)
        · obtain hw | ⟨f, hf, hcall⟩ := hcalls _ List.mem_cons_self
          · cases hw
          · cases hcall; exact hf

/-! ### The run -/

namespace Provision

variable {plan : ProvisionPlan} {policy : RetryPolicy} {codec : Codec} {t : List Event}
  {report : ProvisionReport}

theorem ObtainOrder.not_connect {artifact : KeyArtifact} {o : Except ProvisionError Registration}
    (h : ObtainOrder plan policy codec artifact t o) :
    ∀ e ∈ t, ∀ request, e.call ≠ .connect request := by
  have hmakes : ∀ {request : StepRequest} {c : Call}, request.Makes c →
      ∀ request, c ≠ .connect request := by
    rintro request c (hpoll | rfl | ⟨f, rfl⟩ | rfl)
    · rintro _ rfl
      cases hpoll
    all_goals nofun
  have hnone : AtEach (fun _ e => ∀ request, e.call ≠ .connect request) t := by
    refine h.atEach (fun _ hs => .of_forall fun e he _ => hmakes (hs.order.makes e he))
      (fun _ _ _ => nofun) fun _ _ hregister => ?_
    exact hregister.atEach (fun _ hs => .of_forall fun e he _ => hmakes (hs.order.makes e he))
      fun _ _ _ _ => nofun
  exact hnone.forall_mem

/-- A run polls after it has opened its link, and opens no other link then. -/
theorem RunOrder.opened {o : Except ProvisionError Registration}
    (h : RunOrder plan policy codec t o) :
    ∃ opening rest, t = opening ++ rest ∧ (∀ e ∈ opening, e.call.isPoll = false) ∧
      ∀ e ∈ rest, ∀ request, e.call ≠ .connect request := by
  have hopening : ∀ {u : List Event} {o : Except ConnectError Unit} {reply},
      Opened plan.connect u o →
      ∀ e ∈ ⟨.generateKey plan.keyLabel plan.connect.clientId, reply⟩ :: u,
        e.call.isPoll = false := by
    intro u o reply hopened
    refine List.forall_mem_cons.2 ⟨rfl, fun e he => ?_⟩
    rw [hopened.calls e he]
    rfl
  cases h with
  | noKey => exact ⟨_, [], (List.append_nil _).symm, by simp [Call.isPoll], by simp⟩
  | noLink hopened => exact ⟨_, [], (List.append_nil _).symm, hopening hopened, by simp⟩
  | linked hopened hobtain =>
    refine ⟨_, _, List.append_assoc .., hopening hopened, List.forall_mem_append.2 ⟨?_, ?_⟩⟩
    · exact hobtain.not_connect
    · exact List.forall_mem_singleton.2 nofun

theorem Call.isPoll_of_isQuiet {c : Call} (h : c.isQuiet) : c.isPoll = false := by
  cases c <;> first | rfl | cases h

theorem RunPath.not_connect_after {earlier later : List Event} {e : Event}
    (h : RunPath plan policy codec (earlier ++ e :: later) report) (he : e.call.isPoll) :
    ∀ d ∈ later, ∀ request, d.call ≠ .connect request := by
  intro d hd request hcall
  have hloud : e.call.isQuiet = false := by
    cases hq : e.call.isQuiet with
    | false => rfl
    | true => rw [Call.isPoll_of_isQuiet hq] at he; cases he
  obtain ⟨opening, rest, hsplit, hopening, hrest⟩ := h.order.opened
  rw [effects_append, effects_cons, hloud] at hsplit
  have hmem : d ∈ effects later := mem_effects.2 ⟨hd, by rw [hcall]; rfl⟩
  obtain ⟨z, rfl, -⟩ | ⟨z, -, rfl⟩ := append_eq_append_cons hsplit.symm
  · have hpoll := hopening e (by simp)
    rw [he] at hpoll
    cases hpoll
  · exact hrest d (by simp [hmem]) request hcall

/-- A run that succeeds registers the thing after it has kept the certificate, and polls no more
then. -/
theorem RunPath.registered {registration : Registration}
    (h : RunPath plan policy codec t report) (hr : report.result = .ok registration) :
    ∃ u handle label pem s body v made w,
      t = u ++ ⟨.storeCertificate handle label pem, .ok ()⟩ :: v ++ w ∧
      StepPath policy codec plan.settings (plan.registration body) codec.readRegistration s v
        made ∧
      made.result = .ok registration ∧ s.subscriptions = [] ∧
      s.payload.capacity = plan.payloadCapacity ∧ ∀ e ∈ w, e.call.isPoll = false := by
  cases h with
  | @made started t u driven hdrive hq =>
    cases hdrive with
    | noKey => cases hr
    | noLink _ => cases hr
    | @linked artifact t₁ t₂ obtained reply lines _ hobtain =>
      cases hobtain with
      | unwritten _ => cases hr
      | failed _ _ _ => cases hr
      | unstored _ _ _ => cases hr
      | @stored _ t₃ t₄ _ credential line registered _ hmade _ hregister =>
        have hstep := path_runStep rfl hmade
        cases hregister with
        | unwritten _ => cases hr
        | failed _ _ _ => cases hr
        | @recorded body t₅ made registration' now reply' _ hmade' hr' =>
          cases reply' with
          | error e => cases hr
          | ok _ =>
            cases hr
            let opening : List Event := ⟨.clock, started⟩ ::
              ⟨.generateKey plan.keyLabel plan.connect.clientId, .ok artifact⟩ ::
                (t₁ ++ t₃ ++ [⟨.log line, ()⟩])
            let closing : List Event := ⟨.calendar, now⟩ ::
              ⟨.storeIdentity (plan.record credential registration' now), .ok ()⟩ ::
                ⟨.disconnect, reply⟩ :: (logged lines ++ u)
            have hclosing : ∀ e ∈ closing, e.call.isPoll = false := by
              simp only [closing, List.forall_mem_cons, List.forall_mem_append]
              exact ⟨rfl, rfl, rfl, fun e he => Call.isPoll_of_isQuiet (quiet_logged lines e he),
                fun e he => Call.isPoll_of_isQuiet (hq e he)⟩
            exact ⟨opening, artifact.handle, plan.certificateLabel, credential.certificatePem, _,
              body, t₅, made, closing, by simp [opening, closing],
              path_runStep hstep.idle hmade', hr', hstep.subscriptions, hstep.capacity, hclosing⟩

/-- A run whose link is lost succeeds only if the thing is registered by then and the run waits for
an acknowledgement that one of the filters is unsubscribed: nothing is sent on a lost link. -/
theorem RunPath.lost {earlier later : List Event} {e : Event} {registration : Registration}
    (h : RunPath plan policy codec (earlier ++ e :: later) report) (he : e.loses)
    (hlater : ∀ d ∈ later, d.call.isRequest → d.foundClosed)
    (hr : report.result = .ok registration) :
    ∃ u, Registered plan codec u registration ∧ AwaitsUnsubAck
      (Topics.registerThing plan.template plan.format).responseFilters u earlier := by
  obtain ⟨u, handle, label, pem, s, body, v, made, w, hsplit, hstep, hmade, hs, hcapacity, hw⟩ :=
    h.registered hr
  obtain ⟨opening, waiting, filter, reply, closing, answer, rfl, hwaiting, hfirst, hread, hfilter,
    hclosing⟩ := hstep.closing hs hmade
  have hnot : ∀ {l : List Event}, (∀ d ∈ l, d.loses = false) → e ∉ l := by
    intro l hl hmem
    rw [hl e hmem] at he
    cases he
  let before := u ++ ⟨.storeCertificate handle label pem, .ok ()⟩ :: opening
  let asking := (plan.registration body).sent :: (waiting ++ [⟨.unsubscribe filter, reply⟩])
  have hasking : e ∉ asking :=
    hnot (List.forall_mem_cons.2 ⟨rfl, List.forall_mem_append.2 ⟨hwaiting, by simp [Event.loses]⟩⟩)
  have hsplit' : before ++ (asking ++ (closing ++ w)) = earlier ++ e :: later := by
    rw [hsplit]
    simp [before, asking]
  obtain ⟨z, -, rfl⟩ | ⟨z, rfl, hz⟩ := append_eq_append_cons hsplit'
  · -- The request was taken, so the link was not lost before it.
    have hclosed := hlater (plan.registration body).sent (by simp [asking]) rfl
    cases hclosed
  obtain ⟨y, hy, -⟩ | ⟨y, rfl, hy⟩ := append_eq_append_cons hz
  · exact absurd (by simp [hy]) hasking
  obtain ⟨x, rfl, -⟩ | ⟨x, rfl, hx⟩ := append_eq_append_cons hy
  · have hcalls : ∀ d ∈ y, d.call.isWait ∨ ∃ f ∈ (plan.registration body).topics.responseFilters,
        d.call = .unsubscribe f := fun d hd => hclosing d (by simp [hd])
    obtain ⟨v, hv⟩ : ∃ v, AwaitsUnsubAck (plan.registration body).topics.responseFilters v
        (⟨.unsubscribe filter, reply⟩ :: y) := awaitsUnsubAck_of_calls hfilter hcalls
    refine ⟨before ++ (plan.registration body).sent :: (waiting ++ v), ?_, ?_⟩
    · refine ⟨u, handle, label, pem, opening ++ (plan.registration body).sent :: waiting ++ v,
        answer, by simp [before], hread, ?_⟩
      rw [packets_append, ← hcapacity]
      exact hfirst.append _
    · have hlist : asking ++ y = (plan.registration body).sent :: waiting ++
          ⟨.unsubscribe filter, reply⟩ :: y := by simp [asking]
      rw [hlist]
      exact (hv.append_left _).append_left before
  · exact absurd (by simp [hx]) (hnot fun d hd => Event.loses_eq_false (hw d hd))

end Provision

theorem Provisioner.runPath {p p' : Provisioner} {t : List Event}
    {o : Except ProvisionError Registration} (h : Path p.run t (p', o)) :
    ∃ report, Provision.RunPath p.plan p.policy p.codec t report ∧ o = report.result ∧
      p'.state = Provision.lastState report.result := by
  obtain ⟨t₁, t₂, report, rfl, hrun, hend⟩ := path_bind.1 h
  obtain ⟨rfl, hp⟩ := path_pure.1 hend
  cases hp
  rw [List.append_nil]
  have hpath := Provision.path_run hrun
  refine ⟨report, hpath, rfl, ?_⟩
  cases hpath
  rw [Provisioner.state, List.getLast?_concat]
  rfl

/-- Nothing is sent on a lost link. On a link that was open, a request or a poll finds the link
closed if, and only if, an earlier poll reported a failed connection or the link was closed before;
from then on no call changes the client, whatever client it is, and closing the link is no error.
However the link behaves, a step leaves no filter in the session. In a run, all that comes after the
poll that lost the link is refused, and the run fails, unless it has registered the thing by then
and the poll waited for the acknowledgement that one of the filters is unsubscribed. -/
theorem nothing_sent_on_lost_link {σ τ : Type} (b : Broker σ) (others : World τ) :
    (∀ {α : Type} (run : Interaction α) (client : σ) (s : τ) (earlier : List Event) (e : Event)
        (later : List Event),
      run.trace (b.world others) (⟨client, true⟩, s) = earlier ++ e :: later →
      (∀ d ∈ earlier ++ [e], ∀ request, d.call ≠ .connect request) →
      let w := (b.world others).after (⟨client, true⟩, s) earlier
      (e.call.isRequest ∨ e.call.isPoll → (e.foundClosed ↔ ∃ d ∈ earlier, d.closes)) ∧
        ((∃ d ∈ earlier, d.closes) →
          ((b.world others).after w [e]).1 = w.1 ∧
            (e.call = .disconnect → e = ⟨.disconnect, .ok ()⟩))) ∧
    (∀ {α : Type} (policy : RetryPolicy) (codec : Codec) (settings : StepSettings)
        (request : StepRequest) (read : Bytes → Except CodecError α) (session : Session)
        (w : Link σ × τ),
      session.active = none →
      ((runStep policy codec settings request read session).run (b.world others)
        w).1.session.subscriptions = []) ∧
    ∀ (p : Provisioner) (w : Link σ × τ) (earlier : List Event) (e : Event) (later : List Event),
      p.run.trace (b.world others) w = earlier ++ e :: later → e.loses →
      let lost := (b.world others).after w (earlier ++ [e])
      let ended := (p.run.run (b.world others) w).1
      (∀ d ∈ later, Refused d) ∧
        (∀ u v, later = u ++ v → ((b.world others).after lost u).1 = lost.1) ∧
        ((∃ cause, ended.2 = .error cause ∧ ended.1.state = .failed) ∨
          ∃ registration u, ended.2 = .ok registration ∧
            Provision.Registered p.plan p.codec u registration ∧ AwaitsUnsubAck
              (Topics.registerThing p.plan.template p.plan.format).responseFilters u earlier) := by
  refine ⟨?_, ?_, ?_⟩
  · intro α run client s earlier e later ht hconnect w
    have hanswers := (answers_trace (b.world others) run (⟨client, true⟩, s)).1
    rw [ht] at hanswers
    obtain ⟨hearlier, hreply, -⟩ := World.answers_append.1 hanswers
    obtain ⟨hbefore, he⟩ := List.forall_mem_append.1 hconnect
    have hserved := served_of_reply hreply (he e List.mem_cons_self)
    have hopen : w.1.isOpen = !earlier.any Event.closes := isOpen_after hearlier hbefore
    have hclosed : (∃ d ∈ earlier, d.closes) ↔ w.1.isOpen = false := by simp [hopen]
    refine ⟨fun hask => ?_, fun hlost => ?_⟩
    · rw [hclosed, hserved.foundClosed hask]
      exact Bool.not_eq_true' _ ▸ Iff.rfl
    · exact ⟨hserved.untouched (hclosed.1 hlost), hserved.disconnected (hclosed.1 hlost)⟩
  · intro α policy codec settings request read session w hidle
    exact (path_runStep hidle (path_trace (b.world others) _ w)).subscriptions
  · intro p w earlier e later ht hlost lost ended
    have hanswers := (answers_trace (b.world others) p.run w).1
    rw [ht, List.append_cons] at hanswers
    obtain ⟨hearlier, hlater⟩ := World.answers_append.1 hanswers
    obtain ⟨report, hpath, hresult, hstate⟩ :=
      Provisioner.runPath (path_trace (b.world others) p.run w)
    rw [ht] at hpath
    have hconnect := hpath.not_connect_after (Event.isPoll_of_loses hlost)
    have hclosed : lost.1.isOpen = false := closed_after_loss hearlier hlost
    have hrefused := refused_after hlater hconnect hclosed
    refine ⟨hrefused, fun u v huv => ?_, ?_⟩
    · rw [huv] at hlater hconnect
      exact untouched_after (World.answers_append.1 hlater).1
        (fun d hd => hconnect d (List.mem_append_left _ hd)) hclosed
    · cases hr : report.result with
      | error cause =>
        refine .inl ⟨cause, hresult.trans hr, hstate.trans ?_⟩
        rw [hr]
        rfl
      | ok registration =>
        obtain ⟨u, hregistered, hawaits⟩ :=
          hpath.lost hlost (fun d hd hrequest => (hrefused d hd).request (.inl hrequest)) hr
        exact .inr ⟨registration, u, hresult.trans hr, hregistered, hawaits⟩

/-- A broker whose connections deliver what is in a list, and a client that counts what it is asked.
-/
def countingBroker : Broker (Nat × List (Except ConnectionFault (Option Incoming))) where
  host := "broker"
  port := 8883
  handshake _ s := (.answered .success, s)
  client := {
    subscribe := fun _ (n, replies) => (.ok (), n + 1, replies)
    publish := fun _ _ (n, replies) => (.ok (), n + 1, replies)
    unsubscribe := fun _ (n, replies) => (.ok (), n + 1, replies)
    poll := fun _ (n, replies) => (replies.headD (.ok none), n + 1, replies.tail)
    disconnect := fun (n, replies) => (.ok (), n + 1, replies)
    flush := id }

/-- The first poll of a run reports that the connection has failed: the client has been asked for
two things by then, and is asked neither for the other requests nor for the end of the session. -/
theorem run_on_lost_link_sends_nothing :
    let p : Provisioner := .new Provision.devicePlan .standard (.standard .standard .cbor)
    let world := countingBroker.world fun c (s : Unit) => (quietReply c, s)
    let w : Link _ × Unit := (⟨(0, [.error .networkTimeout]), false⟩, ())
    ∃ earlier e later, p.run.trace world w = earlier ++ e :: later ∧ e.loses ∧
      (∀ d ∈ later, Refused d) ∧ (requests (p.run.trace world w)).length = 7 ∧
      (p.run.run world w).2.1.client.1 = 2 ∧ (p.run.run world w).1.1.state = .failed := by
  intro p world w
  have hany : (p.run.trace world w).any Event.loses = true := by decide +kernel
  have hrequests : (requests (p.run.trace world w)).length = 7 := by decide +kernel
  have hasked : (p.run.run world w).2.1.client.1 = 2 := by decide +kernel
  have hfails : (p.run.run world w).1.2.isOk = false := by decide +kernel
  -- What follows holds of any run.
  clear_value p w
  obtain ⟨e, he, hloses⟩ := List.any_eq_true.1 hany
  obtain ⟨earlier, later, ht⟩ := List.append_of_mem he
  obtain ⟨hrefused, -, hend⟩ := (nothing_sent_on_lost_link countingBroker
    fun c (s : Unit) => (quietReply c, s)).2.2 p w earlier e later ht hloses
  refine ⟨earlier, e, later, ht, hloses, hrefused, hrequests, hasked, ?_⟩
  obtain ⟨cause, -, hfailed⟩ | ⟨registration, u, hok, -⟩ := hend
  · exact hfailed
  · rw [hok] at hfails
    cases hfails

end Enrolment
