import Enrolment.Proofs.Teardown
import Mathlib.Data.List.Basic
import Mathlib.Data.List.Nodup

/-!
# Enrolment.Proofs.Visited

The states that a run goes through. All runs go along one list of states (`milestones`), which has
one gap for each step: the state after unsubscribing is left out if that was not clean. A run that
succeeds goes all the way and ends in `done`. A run that fails stops somewhere before the link is
closed, and ends in `failed`; if it was rejected, that takes the place of the last state.

* `StepPath.reaches`: how far a step gets.
* `Provisioner.history_of_runs`: what every run of a provisioner leaves as its history.
-/

namespace Enrolment

open Interaction

/-! ## How far a part of a run gets -/

/-- The states of a step that succeeds. -/
def stepStates (step : Step) (clean : Bool) : List ProvisionState :=
  [.step step .subscribed, .step step .published, .step step (.result .accepted)] ++
    if clean then [.step step .unsubscribed] else []

/-- What a part of a run goes through, of the states `all` that it would go through if it succeeded.
It goes all the way and succeeds, or it stops at one of them; if it stops because it was rejected,
that takes the place of the state of being accepted. -/
inductive Reaches {ε α : Type} (all : List ProvisionState) :
    List ProvisionState → Except ε α → Prop
  | succeeded (a : α) : Reaches all all (.ok a)
  | stopped {states : List ProvisionState} (e : ε) : states <+: all → Reaches all states (.error e)
  | rejected (earlier : List ProvisionState) {step : Step} (e : ε) :
      earlier ++ [.step step (.result .accepted)] <+: all →
      Reaches all (earlier ++ [.step step (.result .rejected)]) (.error e)

namespace Reaches

variable {ε ε' α β : Type} {all all' states : List ProvisionState}

theorem weaken {e : ε} (h : Reaches all states (.error e : Except ε α)) (hall : all <+: all')
    (e' : ε') : Reaches all' states (.error e' : Except ε' β) := by
  cases h with
  | stopped _ hp => exact .stopped e' (hp.trans hall)
  | rejected earlier _ hp => exact .rejected earlier e' (hp.trans hall)

theorem eq_all {a : α} (h : Reaches all states (.ok a : Except ε α)) : states = all := by
  cases h; rfl

theorem after {result : Except ε α} (h : Reaches all states result)
    (before : List ProvisionState) : Reaches (before ++ all) (before ++ states) result := by
  cases h with
  | succeeded a => exact .succeeded a
  | stopped e hp => exact .stopped e ((List.prefix_append_right_inj before).2 hp)
  | rejected earlier e hp =>
    rw [← List.append_assoc]
    refine .rejected (before ++ earlier) e ?_
    rw [List.append_assoc]
    exact (List.prefix_append_right_inj before).2 hp

end Reaches

section Step

variable {α : Type} {policy : RetryPolicy} {codec : Codec} {settings : StepSettings}
  {request : StepRequest} {read : Bytes → Except CodecError α} {s : Session} {t : List Event}

theorem ResponsePath.progress {remaining : Nat} {report : StepReport Unit}
    (h : ResponsePath codec settings request.step remaining s t report) :
    (report.result = .ok () ∧ report.progress = [.result .accepted]) ∨
      ∃ e, report.result = .error e ∧
        (report.progress = [] ∨ report.progress = [.result .rejected]) := by
  induction h with
  | accepted _ _ => exact .inl ⟨rfl, rfl⟩
  | rejected _ _ => exact .inr ⟨_, rfl, .inr rfl⟩
  | stray _ _ _ _ ih => exact ih
  | _ => exact .inr ⟨_, rfl, .inl rfl⟩

/-- An exchange that fails has stopped on its way, or was rejected; one that succeeds was accepted,
and nothing more. -/
theorem ExchangePath.reaches {report : StepReport Unit}
    (h : ExchangePath policy codec settings request s t report) (step : Step) :
    Reaches (stepStates step false) (report.progress.map (.step step)) report.result := by
  cases h with
  | unsubscribed _ => exact .stopped _ List.nil_prefix
  | unpublished _ => exact .stopped _ ⟨_, rfl⟩
  | @asked _ _ _ answered _ hwait =>
    obtain ⟨hr, hp⟩ | ⟨e, hr, hp | hp⟩ := hwait.progress
    · simp only [hr, hp]
      exact .succeeded ()
    · simp only [hr, hp]
      exact .stopped _ ⟨_, rfl⟩
    · simp only [hr, hp]
      exact .rejected [.step step .subscribed, .step step .published] _ ⟨_, rfl⟩

theorem stepStates_false_isPrefix (step : Step) (clean : Bool) :
    stepStates step false <+: stepStates step clean := by
  cases clean with
  | false => exact List.prefix_rfl
  | true => exact ⟨[.step step .unsubscribed], rfl⟩

variable {report : StepReport α}

/-- The filters of a session that begins without any are those of the step. -/
theorem ExchangePath.subscriptions_subset {exchanged : StepReport Unit}
    (h : ExchangePath policy codec settings request s t exchanged) (hs : s.subscriptions = []) :
    exchanged.session.subscriptions ⊆ request.topics.responseFilters := by
  intro f hf
  rw [h.mem_subscriptions, hs] at hf
  exact (hf.resolve_left List.not_mem_nil).2

/-- What becomes of an exchange once its answer is read and its filters are unsubscribed. -/
theorem Reaches.readAnswer {exchanged : StepReport Unit} {step : Step}
    (h : Reaches (stepStates step false) (exchanged.progress.map (.step step)) exchanged.result)
    (request : StepRequest) (read : Bytes → Except CodecError α) (clean : Bool) :
    Reaches (stepStates step clean)
      ((exchanged.progress ++
        if (readAnswer request read exchanged).isOk && clean then [Progress.unsubscribed]
        else []).map (.step step))
      (readAnswer request read exchanged) := by
  obtain ⟨session, progress, result⟩ := exchanged
  cases result with
  | error e =>
    have hstopped := h.weaken (β := α) (stepStates_false_isPrefix step clean) e
    simpa [Enrolment.readAnswer, Except.isOk, Except.toBool] using hstopped
  | ok _ =>
    -- An accepted answer may still be one that cannot be read.
    cases hread : read session.payload.data with
    | error cause =>
      have hstopped := Reaches.stopped (α := α) (StepError.decodeFailed request.step cause)
        (stepStates_false_isPrefix step clean)
      simpa [Enrolment.readAnswer, hread, Except.isOk, Except.toBool, Except.mapError, h.eq_all]
        using hstopped
    | ok a =>
      have hall : progress.map (.step step) ++
          (if clean then [ProvisionState.step step .unsubscribed] else []) =
            stepStates step clean := by
        rw [h.eq_all]
        cases clean <;> rfl
      have hstates : (progress ++ if clean then [Progress.unsubscribed] else []).map
          (.step step) = stepStates step clean := by
        rw [← hall]
        cases clean <;> simp
      simp only [Enrolment.readAnswer, hread, Except.mapError, Except.isOk, Except.toBool,
        Bool.true_and, hstates]
      exact .succeeded a

/-- How far a step gets, whatever comes after it that leaves its filters alone. -/
theorem StepPath.reaches (h : StepPath policy codec settings request read s t report)
    (hs : s.subscriptions = []) (step : Step) {later : List Event} (hsettled : Settled later)
    (hkeeps : Keeps request.topics.responseFilters later) :
    Reaches (stepStates step (cleared request.topics.responseFilters (t ++ later)))
      (report.progress.map (.step step)) report.result := by
  cases h with
  | @made opening closing exchanged s' clean first last hexchange hu =>
    have hx := path_exchange hexchange
    obtain ⟨-, hc⟩ := path_unsubscribeEach hu
    have hclean := hx.cleared hc (hx.subscriptions_subset hs) first last hsettled hkeeps
    rw [hclean]
    exact (hx.reaches step).readAnswer request read clean

/-- A step that succeeds goes through all of its states. -/
theorem StepPath.states_of_ok {a : α} (h : StepPath policy codec settings request read s t report)
    (hs : s.subscriptions = []) (hr : report.result = .ok a) (step : Step) {later : List Event}
    (hsettled : Settled later) (hkeeps : Keeps request.topics.responseFilters later) :
    report.progress.map (.step step) =
      stepStates step (cleared request.topics.responseFilters (t ++ later)) := by
  have hreaches := h.reaches hs step hsettled hkeeps
  rw [hr] at hreaches
  exact hreaches.eq_all

/-- A step that begins without filters leaves those of others alone. -/
theorem StepPath.keeps {filters : List String}
    (h : StepPath policy codec settings request read s t report) (hs : s.subscriptions = [])
    (hother : ∀ f ∈ filters, f ∉ request.topics.responseFilters) : Keeps filters t := by
  cases h with
  | @made opening closing exchanged s' clean first last hexchange hu =>
    have hx := path_exchange hexchange
    obtain ⟨-, hc⟩ := path_unsubscribeEach hu
    have hclosing : Keeps filters closing := by
      intro e he f hf hcall
      obtain hw | ⟨g, hg, hg'⟩ := hc.calls e he
      · rw [hcall] at hw; cases hw
      · rw [hcall] at hg'
        cases hg'
        exact hother f hf (hx.subscriptions_subset hs hg)
    exact (((quiet_logged _).keeps.append hx.keeps).append hclosing).append (quiet_logged _).keeps

end Step

/-! ## How far a run gets -/

/-- The states that only a run at its end goes through. -/
def ProvisionState.isEnd : ProvisionState → Bool
  | .step _ (.result .rejected) | .disconnected | .done | .failed => true
  | _ => false

namespace Provision

variable {plan : ProvisionPlan} {policy : RetryPolicy} {codec : Codec} {t : List Event}
  {report : ProvisionReport}

theorem RegisterPath.keeps {credential : Credential} {s : Session}
    (h : RegisterPath plan policy codec credential s t report) (hidle : s.active = none)
    (hs : s.subscriptions = []) : Keeps plan.signingFilters t := by
  have hmade : ∀ {body : Bytes} {t : List Event} {made : StepReport Registration},
      Path (runStep policy codec plan.settings (plan.registration body) codec.readRegistration s) t
        made → Keeps plan.signingFilters t :=
    fun hmade => (path_runStep hidle hmade).keeps hs fun f =>
      not_mem_responseFilters_registerThing
  cases h with
  | unwritten _ => exact .nil
  | failed _ h _ => exact hmade h
  | recorded _ h _ => exact (hmade h).append (.cons nofun (.cons nofun .nil))

theorem RegisterPath.reaches {credential : Credential} {s : Session}
    (h : RegisterPath plan policy codec credential s t report) (hidle : s.active = none)
    (hs : s.subscriptions = []) {later : List Event} (hsettled : Settled later)
    (hkeeps : Keeps plan.registrationFilters later) :
    Reaches (stepStates .registerThing (cleared plan.registrationFilters (t ++ later)))
      report.states report.result := by
  cases h with
  | unwritten _ => exact .stopped _ List.nil_prefix
  | failed _ hmade hr =>
    have hreaches := (path_runStep hidle hmade).reaches hs .registerThing hsettled hkeeps
    rw [hr] at hreaches
    exact hreaches.weaken List.prefix_rfl _
  | @recorded _ t _ registration now reply _ hmade hr =>
    let rest : List Event :=
      ⟨.calendar, now⟩ :: ⟨.storeIdentity (plan.record credential registration now), reply⟩ :: later
    have hrest : Keeps plan.registrationFilters rest := .cons nofun (.cons nofun hkeeps)
    have hsettled' : Settled rest := rfl
    have hstates :=
      (path_runStep hidle hmade).states_of_ok hs hr .registerThing hsettled' hrest
    rw [List.append_assoc, hstates]
    cases reply with
    | error e => exact .stopped _ List.prefix_rfl
    | ok _ => exact .succeeded registration

/-- The states between opening the link and closing it, for a run that gets so far. -/
def exchangeStates (plan : ProvisionPlan) (t : List Event) : List ProvisionState :=
  stepStates .createCertificate (cleared plan.signingFilters t) ++
    stepStates .registerThing (cleared plan.registrationFilters t)

/-- The states of a run up to closing the link. -/
def milestones (plan : ProvisionPlan) (t : List Event) : List ProvisionState :=
  .init :: .connected :: exchangeStates plan t

theorem ObtainPath.reaches {artifact : KeyArtifact}
    (h : ObtainPath plan policy codec artifact t report) {later : List Event}
    (hsettled : Settled later) (hsigning : Keeps plan.signingFilters later)
    (hregistration : Keeps plan.registrationFilters later) :
    Reaches (exchangeStates plan (t ++ later)) report.states report.result := by
  cases h with
  | unwritten _ => exact .stopped _ List.nil_prefix
  | failed _ hmade hr =>
    have hreaches := (path_runStep rfl hmade).reaches rfl .createCertificate hsettled hsigning
    rw [hr] at hreaches
    exact hreaches.weaken (List.prefix_append ..) _
  | @unstored _ t _ credential line e _ hmade hr =>
    let rest : List Event := ⟨.log line, ()⟩ :: ⟨.storeCertificate artifact.handle
      plan.certificateLabel credential.certificatePem, .error e⟩ :: later
    have hrest : Keeps plan.signingFilters rest := .cons nofun (.cons nofun hsigning)
    have hsettled' : Settled rest := rfl
    have hstates :=
      (path_runStep rfl hmade).states_of_ok rfl hr .createCertificate hsettled' hrest
    rw [List.append_assoc, hstates]
    exact .stopped _ (List.prefix_append ..)
  | @stored _ t u made credential line registered _ hmade hr hregister =>
    have hpath := path_runStep rfl hmade
    let rest : List Event := ⟨.log line, ()⟩ :: ⟨.storeCertificate artifact.handle
      plan.certificateLabel credential.certificatePem, .ok ()⟩ :: (u ++ later)
    have hrest : Keeps plan.signingFilters rest :=
      .cons nofun (.cons nofun ((hregister.keeps hpath.idle hpath.subscriptions).append hsigning))
    have hsettled' : Settled rest := rfl
    have hstates := hpath.states_of_ok rfl hr .createCertificate hsettled' hrest
    -- What the second step unsubscribes from does not depend on the first.
    have hfirst : Keeps plan.registrationFilters t :=
      hpath.keeps rfl fun f hf hf' => not_mem_responseFilters_registerThing hf' hf
    have hsecond : cleared plan.registrationFilters (t ++ rest) =
        cleared plan.registrationFilters (u ++ later) := hfirst.cleared_append rest
    have hregistered := hregister.reaches hpath.idle hpath.subscriptions hsettled hregistration
    rw [← hsecond] at hregistered
    rw [List.append_assoc]
    show Reaches _ (made.progress.map _ ++ registered.states) registered.result
    rw [hstates]
    exact hregistered.after _

theorem path_connectWithRetry_keeps {request : ConnectRequest} {o : Except ConnectError Unit}
    (h : Path (connectWithRetry policy request) t o) (filters : List String) :
    Keeps filters t := by
  intro e he f _ hc
  have heffect : e ∈ effects t := mem_effects.2 ⟨he, by rw [hc]; rfl⟩
  rw [(path_connectWithRetry h).calls e heffect] at hc
  cases hc

theorem DrivePath.reaches (h : DrivePath plan policy codec t report) {later : List Event}
    (hlater : Quiet later) :
    ∃ visited, Reaches (.connected :: exchangeStates plan (t ++ later)) visited report.result ∧
      report.states = visited ++ if report.result.isOk then [.disconnected] else [] := by
  cases h with
  | noKey => exact ⟨[], .stopped _ List.nil_prefix, rfl⟩
  | noLink _ => exact ⟨[], .stopped _ List.nil_prefix, rfl⟩
  | @linked artifact t u obtained reply lines hconnect hobtain =>
    let rest : List Event := ⟨.disconnect, reply⟩ :: logged lines ++ later
    have hrest (filters : List String) : Keeps filters rest :=
      .cons nofun ((quiet_logged lines).keeps.append hlater.keeps)
    have hsettled : Settled rest := rfl
    have hfirst (filters : List String) : Keeps filters
        (⟨.generateKey plan.keyLabel plan.connect.clientId, .ok artifact⟩ :: t) :=
      .cons nofun (path_connectWithRetry_keeps hconnect filters)
    have hreaches := (hobtain.reaches hsettled (hrest _) (hrest _)).after [.connected]
    have hall : exchangeStates plan
        (⟨.generateKey plan.keyLabel plan.connect.clientId, .ok artifact⟩ :: t ++ u ++
          ⟨.disconnect, reply⟩ :: logged lines ++ later) = exchangeStates plan (u ++ rest) := by
      rw [exchangeStates, exchangeStates, List.append_assoc, List.append_assoc,
        (hfirst _).cleared_append, (hfirst _).cleared_append]
    rw [hall]
    exact ⟨_, hreaches, rfl⟩

theorem RunPath.reaches (h : RunPath plan policy codec t report) :
    ∃ visited, visited ≠ [] ∧ Reaches (milestones plan t) visited report.result ∧
      report.states =
        visited ++ if report.result.isOk then [.disconnected, .done] else [.failed] := by
  cases h with
  | @made started t u driven hdrive hq =>
    obtain ⟨visited, hreaches, hstates⟩ := hdrive.reaches hq
    refine ⟨.init :: visited, by simp, hreaches.after [.init], ?_⟩
    rw [hstates]
    cases driven.result <;> simp [lastState, Except.isOk, Except.toBool]

/-! ### What the milestones are not -/

theorem nodup_milestones (plan : ProvisionPlan) (t : List Event) : (milestones plan t).Nodup := by
  rw [milestones, exchangeStates]
  cases cleared plan.signingFilters t <;> cases cleared plan.registrationFilters t <;> decide

theorem isEnd_of_mem_milestones {state : ProvisionState} (h : state ∈ milestones plan t) :
    state.isEnd = false := by
  revert state
  rw [milestones, exchangeStates]
  cases cleared plan.signingFilters t <;> cases cleared plan.registrationFilters t <;> decide

theorem not_mem_of_prefix_milestones {visited : List ProvisionState} {state : ProvisionState}
    (h : visited <+: milestones plan t) (hstate : state.isEnd) : state ∉ visited := by
  intro hmem
  rw [isEnd_of_mem_milestones (h.subset hmem)] at hstate
  cases hstate

end Provision

/-! ## The history of a provisioner -/

/-- A run leaves a faithful record. -/
structure Recorded (plan : ProvisionPlan) (t : List Event) (history : List ProvisionState)
    (result : Except ProvisionError Registration) : Prop where
  /-- A run that succeeds goes through all states, in order. -/
  succeeded : ∀ registration, result = .ok registration →
    history = Provision.milestones plan t ++ [.disconnected, .done]
  /-- A run that fails goes through some of them; a rejection takes the place of the last one. -/
  failed : ∀ e, result = .error e → ∃ visited, visited ≠ [] ∧
    visited <+: Provision.milestones plan t ∧
      (history = visited ++ [.failed] ∨
        ∃ earlier step, visited = earlier ++ [.step step (.result .accepted)] ∧
          history = earlier ++ [.step step (.result .rejected), .failed])
  done_iff : .done ∈ history ↔ result.isOk = true
  failed_iff : .failed ∈ history ↔ result.isOk = false
  rejected : ∀ earlier step later,
    history = earlier ++ .step step (.result .rejected) :: later → later = [.failed]
  received : ∀ state ∈ history,
    state.name ≠ "CsrResult(NotReceived)" ∧ state.name ≠ "RegisterResult(NotReceived)"
  nodup : history.Nodup

theorem ProvisionState.name_ne_notReceived (state : ProvisionState) :
    state.name ≠ "CsrResult(NotReceived)" ∧ state.name ≠ "RegisterResult(NotReceived)" := by
  cases state with
  | step step progress =>
    cases step <;> cases progress
    case createCertificate.result d | registerThing.result d => cases d <;> decide
    all_goals decide
  | _ => decide

namespace Provision

variable {plan : ProvisionPlan} {policy : RetryPolicy} {codec : Codec} {t : List Event}
  {report : ProvisionReport}

/-- How the history of a run ends, after the milestones. -/
inductive Ending : List ProvisionState → Except ProvisionError Registration → Prop
  | succeeded (registration : Registration) : Ending [.disconnected, .done] (.ok registration)
  | failed (e : ProvisionError) : Ending [.failed] (.error e)
  | rejected (step : Step) (e : ProvisionError) :
      Ending [.step step (.result .rejected), .failed] (.error e)

section Ending

variable {visited ending : List ProvisionState} {result : Except ProvisionError Registration}

theorem Ending.isEnd (h : Ending ending result) : ∀ state ∈ ending, state.isEnd := by
  cases h <;> simp [ProvisionState.isEnd]

theorem Ending.nodup (h : Ending ending result) : ending.Nodup := by
  cases h <;> simp

theorem Ending.done_mem_iff (h : Ending ending result) :
    .done ∈ ending ↔ result.isOk = true := by
  cases h <;> simp [Except.isOk, Except.toBool]

theorem Ending.failed_mem_iff (h : Ending ending result) :
    .failed ∈ ending ↔ result.isOk = false := by
  cases h <;> simp [Except.isOk, Except.toBool]

theorem Ending.after_rejected (h : Ending ending result) {earlier later : List ProvisionState}
    {step : Step} (hsplit : ending = earlier ++ .step step (.result .rejected) :: later) :
    later = [.failed] := by
  have hmem : .step step (.result .rejected) ∈ ending := by rw [hsplit]; simp
  cases h with
  | succeeded _ => simp at hmem
  | failed _ => simp at hmem
  | rejected step' e =>
    cases earlier with
    | nil => cases hsplit; rfl
    | cons state earlier =>
      obtain ⟨-, hsplit⟩ := List.cons.inj hsplit
      have hmem' : .step step (.result .rejected) ∈ [ProvisionState.failed] := by
        rw [hsplit]; simp
      simp at hmem'

theorem mem_append_ending {state : ProvisionState} (h : visited <+: milestones plan t)
    (hstate : state.isEnd) : state ∈ visited ++ ending ↔ state ∈ ending := by
  simp [not_mem_of_prefix_milestones h hstate]

/-- Milestones, and then an ending. -/
theorem recorded_of_ending (hvisited : visited <+: milestones plan t) (h : Ending ending result)
    (hsucceeded : ∀ registration, result = .ok registration →
      visited ++ ending = milestones plan t ++ [.disconnected, .done])
    (hfailed : ∀ e, result = .error e → ∃ visited', visited' ≠ [] ∧
      visited' <+: milestones plan t ∧
        (visited ++ ending = visited' ++ [.failed] ∨
          ∃ earlier step, visited' = earlier ++ [.step step (.result .accepted)] ∧
            visited ++ ending = earlier ++ [.step step (.result .rejected), .failed])) :
    Recorded plan t (visited ++ ending) result where
  succeeded := hsucceeded
  failed := hfailed
  done_iff := (mem_append_ending hvisited rfl).trans h.done_mem_iff
  failed_iff := (mem_append_ending hvisited rfl).trans h.failed_mem_iff
  rejected := fun earlier step later hsplit => by
    have hnot : .step step (.result .rejected) ∉ visited :=
      not_mem_of_prefix_milestones hvisited rfl
    obtain ⟨u, rfl, hu⟩ | ⟨u, rfl, hu⟩ := List.append_eq_append_iff.1 hsplit
    · exact h.after_rejected hu
    · cases u with
      | nil =>
        have hsplit' : ending = [] ++ .step step (.result .rejected) :: later := hu.symm
        exact h.after_rejected hsplit'
      | cons state u =>
        cases hu
        exact absurd (by simp) hnot
  received := fun state _ => state.name_ne_notReceived
  nodup := List.nodup_append'.2 ⟨(nodup_milestones plan t).sublist hvisited.sublist, h.nodup,
    fun _ hmem hstate => not_mem_of_prefix_milestones hvisited (h.isEnd _ hstate) hmem⟩

end Ending

theorem RunPath.recorded (h : RunPath plan policy codec t report) :
    Recorded plan t report.states report.result := by
  obtain ⟨visited, hne, hreaches, hstates⟩ := h.reaches
  rw [hstates]
  generalize report.result = result at hreaches
  cases hreaches with
  | succeeded registration =>
    exact recorded_of_ending List.prefix_rfl (.succeeded registration) (fun _ _ => rfl) nofun
  | stopped e hvisited =>
    exact recorded_of_ending hvisited (.failed e) nofun
      fun _ _ => ⟨visited, hne, hvisited, .inl rfl⟩
  | @rejected before step e hvisited =>
    rw [List.append_assoc]
    exact recorded_of_ending ((List.prefix_append ..).trans hvisited) (.rejected step e) nofun
      fun _ _ => ⟨_, by simp, hvisited, .inr ⟨before, step, rfl, rfl⟩⟩

end Provision

namespace Provisioner

/-- Some runs, one after the other. Each is reported with the history that it leaves. -/
def runs : Nat → Provisioner → Interaction (List ProvisionReport)
  | 0, _ => return []
  | n + 1, p => do
    let (p, result) ← p.run
    return ⟨p.history, result⟩ :: (← runs n p)

/-- What a provisioner has for a history after each of its runs: a faithful record of that run, and
of nothing before it. -/
theorem history_of_runs {p : Provisioner} {n : Nat} {t : List Event}
    {reports : List ProvisionReport} (h : Path (p.runs n) t reports) :
    ∃ ts : List (List Event), t = ts.flatten ∧ ts.length = n ∧
      List.Forall₂ (fun u report => Path (Provision.run p.plan p.policy p.codec) u report ∧
        Recorded p.plan u report.states report.result) ts reports := by
  induction n generalizing p t reports with
  | zero =>
    obtain ⟨rfl, rfl⟩ := path_pure.1 h
    exact ⟨[], rfl, rfl, .nil⟩
  | succ n ih =>
    obtain ⟨t₁, t₂, ⟨p', result⟩, rfl, h₁, h₂⟩ := path_bind.1 h
    obtain ⟨u, t₃, report, rfl, hrun, h₃⟩ := path_bind.1 h₁
    obtain ⟨rfl, hr⟩ := path_pure.1 h₃
    cases hr
    obtain ⟨t₄, t₅, later, rfl, hlater, h₄⟩ := path_bind.1 h₂
    obtain ⟨rfl, rfl⟩ := path_pure.1 h₄
    obtain ⟨ts, rfl, hlength, hts⟩ := ih hlater
    exact ⟨u :: ts, by simp, by rw [List.length_cons, hlength],
      .cons ⟨hrun, (Provision.path_run hrun).recorded⟩ hts⟩

/-- A provisioner that has made a run before. -/
def device : Provisioner :=
  ⟨Provision.devicePlan, .standard, .standard .standard .cbor, [.init, .failed]⟩

/-- The first run is rejected. In the second one, the last UNSUBACK of the first step is missing. -/
def deviceReplies : List (Except LinkFault (Option Packet)) :=
  [.ok (some (.subAck true)),
    .ok (some (.publish "$aws/certificates/create-from-csr/cbor/rejected" [])),
    .ok (some .unsubAck), .ok (some .unsubAck),
    .ok (some (.subAck true)), .ok (some Provision.credentialAnswer), .ok (some .unsubAck),
    .ok none, .ok none,
    .ok (some (.subAck true)), .ok (some Provision.registrationAnswer), .ok (some .unsubAck),
    .ok (some .unsubAck)]

theorem device_history_of_runs :
    (∃ ts : List (List Event), (device.runs 2).trace polling deviceReplies = ts.flatten ∧
      ts.length = 2 ∧
      List.Forall₂ (fun u report =>
        Path (Provision.run device.plan device.policy device.codec) u report ∧
          Recorded device.plan u report.states report.result)
        ts ((device.runs 2).run polling deviceReplies).1) ∧
      ((device.runs 2).run polling deviceReplies).1.map (·.states) =
        [[.init, .connected, .step .createCertificate .subscribed,
            .step .createCertificate .published, .step .createCertificate (.result .rejected),
            .failed],
          [.init, .connected, .step .createCertificate .subscribed,
            .step .createCertificate .published, .step .createCertificate (.result .accepted),
            .step .registerThing .subscribed, .step .registerThing .published,
            .step .registerThing (.result .accepted), .step .registerThing .unsubscribed,
            .disconnected, .done]] :=
  ⟨history_of_runs (path_trace polling (device.runs 2) deviceReplies), rfl⟩

end Provisioner

end Enrolment
