import Enrolment.Proofs.Exchange

/-!
# Enrolment.Proofs.StepOrder

The order of the calls of a step. It subscribes to the topics of the answer; it publishes the
request, once, or ends without having published anything; and it unsubscribes. Between these calls
it polls.

* `StepPath.order`: every step of an idle session without filters keeps to this order.
-/

namespace Enrolment

def Call.isPoll : Call → Bool
  | .poll _ => true
  | _ => false

theorem Call.isPoll_of_isWait {c : Call} (h : c.isWait) (hq : c.isQuiet = false) : c.isPoll := by
  cases c <;> first | rfl | contradiction

/-- Nothing but polls. -/
def Polls (t : List Event) : Prop := ∀ e ∈ t, e.call.isPoll

/-- Subscribing to some filters, all at once, and polling. -/
def Subscribing (filters : List String) (t : List Event) : Prop :=
  ∀ e ∈ t, e.call.isPoll ∨ e.call = .subscribe filters

/-- Unsubscribing from some filters, one by one, and polling. -/
def Unsubscribing (filters : List String) (t : List Event) : Prop :=
  ∀ e ∈ t, e.call.isPoll ∨ ∃ f ∈ filters, e.call = .unsubscribe f

/-- The order of the calls of a step. A step that has published its request unsubscribes from both
topics of the answer. -/
inductive StepOrder {α : Type} (request : StepRequest) : List Event → Except StepError α → Prop
  | unpublished {opening closing : List Event} {e : StepError} :
      Subscribing request.topics.responseFilters opening →
      Unsubscribing request.topics.responseFilters closing →
      StepOrder request (opening ++ closing) (.error e)
  | published {opening waiting closing : List Event} {reply : Except LinkFault Unit}
      {result : Except StepError α} :
      Subscribing request.topics.responseFilters opening → Polls waiting →
      Unsubscribing request.topics.responseFilters closing →
      (∀ f ∈ request.topics.responseFilters, ∃ e ∈ closing, e.call = .unsubscribe f) →
      StepOrder request
        (opening ++ ⟨.publish request.topics.publish request.body, reply⟩ :: waiting ++ closing)
        result

/-- The calls that a step can make. -/
def StepRequest.Makes (request : StepRequest) (c : Call) : Prop :=
  c.isPoll ∨ c = .subscribe request.topics.responseFilters ∨ (∃ f, c = .unsubscribe f) ∨
    c = .publish request.topics.publish request.body

section Makes

variable {request : StepRequest} {t : List Event}

theorem Polls.makes (h : Polls t) : ∀ e ∈ t, request.Makes e.call := fun e he => .inl (h e he)

theorem Subscribing.makes (h : Subscribing request.topics.responseFilters t) :
    ∀ e ∈ t, request.Makes e.call := fun e he => (h e he).imp_right .inl

theorem Unsubscribing.makes {filters : List String} (h : Unsubscribing filters t) :
    ∀ e ∈ t, request.Makes e.call :=
  fun e he => (h e he).imp_right fun ⟨f, _, hc⟩ => .inr (.inl ⟨f, hc⟩)

theorem StepOrder.makes {α : Type} {result : Except StepError α} (h : StepOrder request t result) :
    ∀ e ∈ t, request.Makes e.call := by
  cases h with
  | unpublished ho hc => exact List.forall_mem_append.2 ⟨ho.makes, hc.makes⟩
  | published ho hw hc _ =>
    refine List.forall_mem_append.2 ⟨List.forall_mem_append.2 ⟨ho.makes, ?_⟩, hc.makes⟩
    exact List.forall_mem_cons.2 ⟨.inr (.inr (.inr rfl)), hw.makes⟩

end Makes

theorem Opening.subscribing {filters : List String} {s s' : Session} {t : List Event}
    (h : Opening filters s t s') : Subscribing filters (effects t) := by
  intro e he
  obtain ⟨he, hq⟩ := mem_effects.1 he
  obtain hc | hw | hq' := h.calls e he
  · exact .inr hc
  · exact .inl (Call.isPoll_of_isWait hw hq)
  · rw [hq'] at hq; cases hq

theorem Waits.polls {t : List Event} (h : Waits t) : Polls (effects t) := by
  intro e he
  obtain ⟨he, hq⟩ := mem_effects.1 he
  exact Call.isPoll_of_isWait (h e he) hq

theorem Closing.unsubscribing {filters filters' : List String} {t : List Event} {clean : Bool}
    (h : Closing filters t clean) (hf : filters ⊆ filters') :
    Unsubscribing filters' (effects t) := by
  intro e he
  obtain ⟨he, hq⟩ := mem_effects.1 he
  exact (h.calls e he).imp (Call.isPoll_of_isWait · hq) fun ⟨f, hmem, hc⟩ => ⟨f, hf hmem, hc⟩

theorem Closing.unsubscribed_effects {filters : List String} {t : List Event} {clean : Bool}
    (h : Closing filters t clean) : ∀ f ∈ filters, ∃ e ∈ effects t, e.call = .unsubscribe f := by
  intro f hf
  obtain ⟨e, he, hc⟩ := h.unsubscribed f hf
  exact ⟨e, mem_effects.2 ⟨he, by rw [hc]; rfl⟩, hc⟩

theorem GrantedBy.mem {filters : List String} {t : List Event} (h : GrantedBy filters t) :
    ⟨.subscribe filters, .ok ()⟩ ∈ t := by
  obtain ⟨t₁, t₂, rfl, -⟩ := h
  simp

theorem StepPath.order {α : Type} {policy : RetryPolicy} {codec : Codec} {settings : StepSettings}
    {request : StepRequest} {read : Bytes → Except CodecError α} {s : Session} {t : List Event}
    {report : StepReport α} (h : StepPath policy codec settings request read s t report)
    (hs : s.subscriptions = []) : StepOrder request (effects t) report.result := by
  cases h with
  | @made t u exchanged s' clean first last hexchange hu =>
    have hx := path_exchange hexchange
    obtain ⟨-, hc⟩ := path_unsubscribeEach hu
    have hmem : ∀ f, f ∈ exchanged.session.subscriptions ↔
        ⟨.subscribe request.topics.responseFilters, .ok ()⟩ ∈ t ∧
          f ∈ request.topics.responseFilters := by
      intro f
      rw [hx.mem_subscriptions, Session.begun_subscriptions, hs]
      simp
    have hclosing := hc.unsubscribing fun f hf => ((hmem f).1 hf).2
    have heffects : effects (logged [first] ++ t ++ u ++ logged [last]) =
        effects t ++ effects u := by
      simp [(quiet_logged _).effects]
    rw [heffects]
    -- A SUBSCRIBE that was taken leaves both filters to be unsubscribed.
    have hboth : ⟨.subscribe request.topics.responseFilters, .ok ()⟩ ∈ t →
        ∀ f ∈ request.topics.responseFilters, ∃ e ∈ effects u, e.call = .unsubscribe f :=
      fun hsub f hf => hc.unsubscribed_effects f ((hmem f).2 ⟨hsub, hf⟩)
    cases hx with
    | unsubscribed hsub => exact .unpublished (path_subscribeWithRetry hsub).1.subscribing hclosing
    | @unpublished t _ fault hsub =>
      obtain ⟨ho, hg⟩ := path_subscribeWithRetry hsub
      have hlist : effects (t ++ [⟨.publish request.topics.publish request.body, .error fault⟩]) ++
          effects u = effects t ++
            ⟨.publish request.topics.publish request.body, .error fault⟩ :: [] ++ effects u := by
        simp [Call.isQuiet]
      rw [hlist]
      exact .published ho.subscribing (by simp [Polls]) hclosing
        (hboth (List.mem_append_left _ hg.mem))
    | @asked t₁ t₂ s₁ answered hsub hwait =>
      obtain ⟨ho, hg⟩ := path_subscribeWithRetry hsub
      have hw := hwait.waits
      have hlist : effects (t₁ ++ request.sent :: t₂) ++ effects u =
          effects t₁ ++ request.sent :: effects t₂ ++ effects u := by
        simp [StepRequest.sent, Call.isQuiet]
      rw [hlist]
      exact .published ho.subscribing hw.polls hclosing (hboth (List.mem_append_left _ hg.mem))

end Enrolment
