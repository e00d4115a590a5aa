import Enrolment.Proofs.Capacity
import Enrolment.Proofs.Provenance
import Enrolment.Proofs.Reruns

/-!
# Enrolment.Proofs.Labels

When a run is refused a label. The check of the settings does not look at the labels. The store
does, each time that it is asked to keep something: a label for the key that is not a plain file
name ends a run at its first call, and one for the certificate ends it when the certificate was
issued, which is lost.

* `FileStore.checksLabel_trace`: the store refuses the labels that are not plain file names.
* `RunOrder.labelsDecide`: which runs are refused a label, and what they have done before.
* `unchecked_labels_decide`: settings pass the check with any labels, and these decide over runs.
* `accepted_label_loses_certificate`: settings that pass the check, and a certificate that is lost.
-/

namespace Enrolment

open Interaction

/-! ## The store -/

/-- No label is refused. -/
def RefusesNone {α : Type} (reply : Except StoreError α) : Prop :=
  ∀ l, reply ≠ .error (.invalidLabel l)

/-- What is kept under a label is refused for it exactly if it is not a plain file name. -/
def RefusesLabel {α : Type} (label : String) (reply : Except StoreError α) : Prop :=
  ∀ l, reply = .error (.invalidLabel l) ↔ ¬ isLabel l ∧ l = label

/-- What a store answers that looks at the labels of keys and of certificates. -/
def Event.ChecksLabel : Event → Prop
  | ⟨.generateKey label _, reply⟩ => RefusesLabel label reply
  | ⟨.storeCertificate _ label _, reply⟩ => RefusesLabel label reply
  | ⟨.storeIdentity _, reply⟩ => RefusesNone reply
  | _ => True

section Refuses

variable {α : Type} {label : String} {reply : Except StoreError α} {t : List Event}

theorem refusesLabel_of_not_isLabel (h : ¬ isLabel label) :
    RefusesLabel label (.error (.invalidLabel label) : Except StoreError α) := by
  intro l
  constructor
  · intro hl; cases hl; exact ⟨h, rfl⟩
  · rintro ⟨-, rfl⟩; rfl

theorem RefusesNone.refusesLabel (hreply : RefusesNone reply) (h : isLabel label) :
    RefusesLabel label reply := by
  intro l
  refine ⟨fun hl => absurd hl (hreply l), ?_⟩
  rintro ⟨hnot, rfl⟩
  exact absurd h hnot

theorem RefusesLabel.isLabel_of_ok {value : α} (h : RefusesLabel label (.ok value)) :
    isLabel label := by
  refine Classical.byContradiction fun hnot => ?_
  cases (h label).2 ⟨hnot, rfl⟩

theorem isLabel_of_made {commonName : String} {artifact : KeyArtifact}
    (hchecks : ∀ e ∈ t, e.ChecksLabel)
    (h : ⟨.generateKey label commonName, .ok artifact⟩ ∈ t) : isLabel label :=
  RefusesLabel.isLabel_of_ok (hchecks _ h)

theorem isLabel_of_kept {handle pem : String} (hchecks : ∀ e ∈ t, e.ChecksLabel)
    (h : ⟨.storeCertificate handle label pem, .ok ()⟩ ∈ t) : isLabel label :=
  RefusesLabel.isLabel_of_ok (hchecks _ h)

end Refuses

namespace FileStore

variable {σ α : Type} (store : FileStore) (d : Disk) {path content text : String} {mode : FileMode}
  {value : α}

theorem refusesNone_write : RefusesNone (write d path mode content value text).result := by
  intro l
  rw [write]
  split <;> simp

theorem refusesNone_makeDirectory : RefusesNone (store.makeDirectory d).1 := by
  intro l h
  simp only [makeDirectory] at h
  match (d.makeDirectories store.directory).1, h with
  | .error fault, h => cases h
  | .ok (), h => cases h

/-- Making the directory and writing a file look at no label. -/
theorem refusesNone_made {made : Except StoreError Unit × Disk} (h : RefusesNone made.1) :
    RefusesNone (match made with
      | (.error e, d) => (⟨.error e, d, []⟩ : Stored α)
      | (.ok (), d) => write d path mode content value text).result := by
  match made, h with
  | (.error e, d'), h => exact fun l hl => h l (by cases hl; rfl)
  | (.ok (), d'), _ => exact refusesNone_write d'

theorem storeKey_refusesLabel (label : String) (material : KeyMaterial) :
    RefusesLabel label (store.storeKey d label material).result := by
  by_cases hlabel : isLabel label
  · refine RefusesNone.refusesLabel ?_ hlabel
    rw [storeKey, hlabel]
    exact refusesNone_made (store.refusesNone_makeDirectory d)
  · rw [storeKey, Bool.eq_false_iff.2 hlabel]
    exact refusesLabel_of_not_isLabel hlabel

theorem storeCertificate_refusesLabel (handle label pem : String) :
    RefusesLabel label (store.storeCertificate d handle label pem).result := by
  by_cases hlabel : isLabel label
  · refine RefusesNone.refusesLabel ?_ hlabel
    rw [storeCertificate, hlabel]
    by_cases hkey : d.pathExists (store.keyPath handle)
    · rw [hkey]
      obtain _ | ⟨_ | ⟨_, _⟩⟩ := Pem.certificates? (utf8 pem)
      · intro l hl; cases hl
      · intro l hl; cases hl
      · exact refusesNone_write d
    · rw [Bool.eq_false_iff.2 hkey]
      intro l hl
      cases hl
  · rw [storeCertificate, Bool.eq_false_iff.2 hlabel]
    exact refusesLabel_of_not_isLabel hlabel

theorem storeIdentity_refusesNone (record : Identity) :
    RefusesNone (store.storeIdentity d record).result :=
  refusesNone_made (store.refusesNone_makeDirectory d)

theorem checksLabel_world (keys : String → KeyMaterial) (others : World σ) (c : Call)
    (w : Disk × σ) : Event.ChecksLabel ⟨c, (store.world keys others c w).1⟩ := by
  obtain ⟨d, s⟩ := w
  cases c with
  | generateKey label commonName => exact store.storeKey_refusesLabel d label (keys commonName)
  | storeCertificate handle label pem =>
    exact store.storeCertificate_refusesLabel d handle label pem
  | storeIdentity record => exact store.storeIdentity_refusesNone d record
  | _ => trivial

theorem checksLabel_trace (keys : String → KeyMaterial) (others : World σ) (run : Interaction α)
    (w : Disk × σ) : ∀ e ∈ run.trace (store.world keys others) w, e.ChecksLabel := by
  induction run generalizing w with
  | done value => simp [trace]
  | call c next ih => exact List.forall_mem_cons.2 ⟨store.checksLabel_world keys others c w, ih _ _⟩

end FileStore

/-! ## Asking to keep a certificate -/

/-- The store is asked to keep a certificate under `label`. -/
def AsksToKeep (label : String) (t : List Event) : Prop :=
  ∃ e ∈ t, ∃ handle pem, e.call = .storeCertificate handle label pem

section Asks

variable {label : String} {t : List Event}

@[simp] theorem not_asksToKeep_nil : ¬ AsksToKeep label [] := by simp [AsksToKeep]

@[simp] theorem asksToKeep_cons {e : Event} :
    AsksToKeep label (e :: t) ↔
      (∃ handle pem, e.call = .storeCertificate handle label pem) ∨ AsksToKeep label t := by
  simp [AsksToKeep]

@[simp] theorem asksToKeep_append {u : List Event} :
    AsksToKeep label (t ++ u) ↔ AsksToKeep label t ∨ AsksToKeep label u := by
  simp only [AsksToKeep, List.mem_append, or_and_right, exists_or]

theorem StepOrder.not_asksToKeep {α : Type} {request : StepRequest} {result : Except StepError α}
    (h : StepOrder request t result) : ¬ AsksToKeep label t := by
  rintro ⟨⟨c, reply⟩, he, handle, pem, rfl⟩
  obtain hpoll | hc | ⟨f, hc⟩ | hc := h.makes _ he
  · cases hpoll
  all_goals cases hc

theorem Opened.not_asksToKeep {request : ConnectRequest} {r : Except ConnectError Unit}
    (h : Opened request t r) : ¬ AsksToKeep label t := by
  rintro ⟨⟨c, reply⟩, he, handle, pem, rfl⟩
  cases h.calls _ he

end Asks

/-- A step that ends well has published its request. -/
theorem Stepped.sent {α : Type} {policy : RetryPolicy} {codec : Codec} {settings : StepSettings}
    {request : StepRequest} {read : Bytes → Except CodecError α} {s : Session} {t : List Event}
    {report : StepReport α} {a : α} (h : Stepped policy codec settings request read s t report)
    (hidle : s.active = none) (hr : report.result = .ok a) : request.sent ∈ effects t := by
  obtain ⟨opening, waiting, -, honce, -⟩ := (path_runStep hidle h.path).asked (hr ▸ trivial)
  rw [honce.events]
  simp [StepRequest.sent, Call.isQuiet]

/-! ## The run -/

namespace Provision

variable {plan : ProvisionPlan} {policy : RetryPolicy} {codec : Codec} {t : List Event}
  {artifact : KeyArtifact} {credential : Credential} {s : Session}
  {o : Except ProvisionError Registration} {label : String}

/-- A certificate was asked for and issued, and nothing is kept but the key. -/
structure Lost (plan : ProvisionPlan) (codec : Codec) (keys : String → KeyMaterial)
    (t : List Event) : Prop where
  published : ∃ body, ⟨.publish (Topics.createCertificate plan.format).publish body, .ok ()⟩ ∈ t
  issued : ∃ credential, Issued plan codec t credential
  writes : t.flatMap (Event.writes keys) =
    [(keyFile plan.keyLabel, (keys plan.connect.clientId).privateKey)]

/-- How the labels of a plan decide over a run. It is refused a label exactly if this is not a plain
file name, and is that of the key, or that of a certificate which the run asks to keep. -/
structure LabelsDecide (plan : ProvisionPlan) (codec : Codec) (keys : String → KeyMaterial)
    (t : List Event) (result : Except ProvisionError Registration) : Prop where
  refused_iff : ∀ label, result = .error (.store (.invalidLabel label)) ↔
    ¬ isLabel label ∧
      (label = plan.keyLabel ∨ label = plan.certificateLabel ∧ AsksToKeep plan.certificateLabel t)
  /-- No other call is made than the one that is refused. -/
  key : ¬ isLabel plan.keyLabel →
    t = [⟨.generateKey plan.keyLabel plan.connect.clientId,
      .error (.invalidLabel plan.keyLabel)⟩]
  certificate : ¬ isLabel plan.certificateLabel → AsksToKeep plan.certificateLabel t →
    Lost plan codec keys t

/-! ### Refusing a label -/

theorem RegisterOrder.ne_invalidLabel (h : RegisterOrder plan policy codec credential s t o)
    (hchecks : ∀ e ∈ t, e.ChecksLabel) : o ≠ .error (.store (.invalidLabel label)) := by
  cases h with
  | unwritten _ | failed _ _ _ => simp
  | @recorded _ _ _ _ _ reply _ _ _ =>
    have hstored : RefusesNone reply := hchecks _ (List.mem_append_right _ List.mem_cons_self)
    cases reply with
    | ok _ => simp [Except.map, Except.mapError]
    | error e =>
      intro he
      cases he
      exact hstored label rfl

theorem ObtainOrder.refused_iff (h : ObtainOrder plan policy codec artifact t o)
    (hchecks : ∀ e ∈ t, e.ChecksLabel) :
    o = .error (.store (.invalidLabel label)) ↔
      ¬ isLabel label ∧ label = plan.certificateLabel ∧ AsksToKeep plan.certificateLabel t := by
  cases h with
  | unwritten _ => simp
  | failed _ hs _ => simp [hs.order.not_asksToKeep]
  | @unstored _ _ _ _ e _ _ _ =>
    have hkept : RefusesLabel plan.certificateLabel (.error e : Except StoreError Unit) :=
      hchecks _ (List.mem_append_right _ List.mem_cons_self)
    simpa using hkept label
  | stored _ _ _ hregister =>
    have hkept := isLabel_of_kept hchecks (List.mem_append_right _ List.mem_cons_self)
    refine iff_of_false (hregister.ne_invalidLabel fun e he => hchecks e (by simp [he])) ?_
    rintro ⟨hnot, rfl, -⟩
    exact hnot hkept

theorem RunOrder.refused_iff (h : RunOrder plan policy codec t o)
    (hchecks : ∀ e ∈ t, e.ChecksLabel) :
    o = .error (.store (.invalidLabel label)) ↔ ¬ isLabel label ∧
      (label = plan.keyLabel ∨ label = plan.certificateLabel ∧
        AsksToKeep plan.certificateLabel t) := by
  -- If the key was made, then its label is not the one that was refused.
  have hother : isLabel plan.keyLabel → ¬ isLabel label → label ≠ plan.keyLabel := by
    rintro hkey hnot rfl
    exact hnot hkey
  cases h with
  | @noKey e =>
    have hmade : RefusesLabel plan.keyLabel (.error e : Except StoreError KeyArtifact) :=
      hchecks _ List.mem_cons_self
    simpa using hmade label
  | noLink hopened =>
    have hkey := isLabel_of_made hchecks List.mem_cons_self
    refine iff_of_false (by simp) ?_
    rintro ⟨hnot, hlabel | ⟨-, hasks⟩⟩
    · exact hother hkey hnot hlabel
    · simp [hopened.not_asksToKeep] at hasks
  | linked hopened hobtain =>
    have hkey := isLabel_of_made hchecks
      (List.mem_append_left _ (List.mem_append_left _ List.mem_cons_self))
    rw [hobtain.refused_iff fun e he => hchecks e (by simp [he])]
    refine and_congr_right fun hnot => ?_
    simp [hother hkey hnot, hopened.not_asksToKeep]

/-- A key that is not made is the end of the run. -/
theorem RunOrder.refused_key (h : RunOrder plan policy codec t o)
    (hchecks : ∀ e ∈ t, e.ChecksLabel) (hlabel : ¬ isLabel plan.keyLabel) :
    t = [⟨.generateKey plan.keyLabel plan.connect.clientId,
      .error (.invalidLabel plan.keyLabel)⟩] := by
  cases h with
  | @noKey e =>
    have hmade : RefusesLabel plan.keyLabel (.error e : Except StoreError KeyArtifact) :=
      hchecks _ List.mem_cons_self
    rw [(hmade plan.keyLabel).2 ⟨hlabel, rfl⟩]
  | noLink _ => exact absurd (isLabel_of_made hchecks List.mem_cons_self) hlabel
  | linked _ _ =>
    have hkey := isLabel_of_made hchecks
      (List.mem_append_left _ (List.mem_append_left _ List.mem_cons_self))
    exact absurd hkey hlabel

/-! ### A certificate that is lost -/

/-- If the store refuses the label of the certificate, then the request for it was published, and
nothing has been written since. -/
theorem ObtainOrder.lost (h : ObtainOrder plan policy codec artifact t o)
    (hchecks : ∀ e ∈ t, e.ChecksLabel) (keys : String → KeyMaterial)
    (hlabel : ¬ isLabel plan.certificateLabel) (hasks : AsksToKeep plan.certificateLabel t) :
    (∃ body, ⟨.publish (Topics.createCertificate plan.format).publish body, .ok ()⟩ ∈ t) ∧
      t.flatMap (Event.writes keys) = [] := by
  cases h with
  | unwritten _ => exact absurd hasks not_asksToKeep_nil
  | failed _ hs _ => exact absurd hasks hs.order.not_asksToKeep
  | @unstored body _ _ _ _ _ hs hr =>
    refine ⟨⟨body, List.mem_append_left _ (hs.sent rfl hr)⟩, ?_⟩
    rw [List.flatMap_append, hs.order.writes]
    rfl
  | stored _ _ _ _ =>
    have hkept := isLabel_of_kept hchecks (List.mem_append_right _ List.mem_cons_self)
    exact absurd hkept hlabel

theorem RunOrder.lost (h : RunOrder plan policy codec t o) (hchecks : ∀ e ∈ t, e.ChecksLabel)
    (keys : String → KeyMaterial) (hlabel : ¬ isLabel plan.certificateLabel)
    (hasks : AsksToKeep plan.certificateLabel t) : Lost plan codec keys t := by
  have hissued : ∃ credential, Issued plan codec t credential := by
    obtain ⟨⟨c, reply⟩, he, handle, pem, rfl⟩ := hasks
    obtain ⟨earlier, later, rfl⟩ := List.append_of_mem he
    obtain ⟨-, credential, -, hissued, -⟩ := h.carries earlier _ later rfl
    exact ⟨credential, hissued.append _⟩
  cases h with
  | noKey => simp at hasks
  | noLink hopened => simp [hopened.not_asksToKeep] at hasks
  | @linked _ _ u _ _ hopened hobtain =>
    have hasks : AsksToKeep plan.certificateLabel u := by
      simpa [hopened.not_asksToKeep] using hasks
    obtain ⟨⟨body, hsent⟩, hwrites⟩ :=
      hobtain.lost (fun e he => hchecks e (by simp [he])) keys hlabel hasks
    refine ⟨⟨body, by simp [hsent]⟩, hissued, ?_⟩
    rw [List.flatMap_append, List.flatMap_append, List.flatMap_cons, hopened.writes, hwrites]
    rfl

theorem RunOrder.labelsDecide (h : RunOrder plan policy codec t o)
    (hchecks : ∀ e ∈ t, e.ChecksLabel) (keys : String → KeyMaterial) :
    LabelsDecide plan codec keys t o where
  refused_iff := fun _ => h.refused_iff hchecks
  key := h.refused_key hchecks
  certificate := h.lost hchecks keys

end Provision

open Provision

/-- The labels decide over every run whose credentials are kept in files. -/
theorem Provisioner.labelsDecide {σ : Type} (p : Provisioner) (store : FileStore)
    (keys : String → KeyMaterial) (others : World σ) (w : Disk × σ) :
    LabelsDecide p.plan p.codec keys (effects (p.run.trace (store.world keys others) w))
      (p.run.run (store.world keys others) w).1.2 := by
  obtain ⟨-, horder⟩ := path_run (path_trace (store.world keys others) p.run w)
  exact horder.labelsDecide
    (fun e he => store.checksLabel_trace keys others p.run w e (mem_effects.1 he).1) keys

/-! ## The settings -/

theorem Settings.check_credentials (s : Settings) (d : Disk) (credentials : CredentialSettings) :
    ({ s with credentials } : Settings).check d = s.check d := rfl

/-- The check looks at no label. Under settings whose labels are both plain file names, no run is
refused one, however the link behaves. Under others that pass the check, a run is refused the label
of the key before it does anything else, and that of the certificate when this was issued. -/
theorem unchecked_labels_decide (s : Settings) (d : Disk) :
    (∀ credentials : CredentialSettings,
      ({ s with credentials } : Settings).check d = s.check d) ∧
      ∀ {σ : Type} (store : FileStore) (keys : String → KeyMaterial) (others : World σ)
        (policy : RetryPolicy) (codec : Codec) (history : List ProvisionState) (w : Disk × σ),
        let run := (⟨s.plan, policy, codec, history⟩ : Provisioner).run
        LabelsDecide s.plan codec keys (effects (run.trace (store.world keys others) w))
          (run.run (store.world keys others) w).1.2 := by
  refine ⟨s.check_credentials d, ?_⟩
  intro σ store keys others policy codec history w run
  exact Provisioner.labelsDecide ⟨s.plan, policy, codec, history⟩ store keys others w

/-! ### A label that is accepted -/

/-- Settings with a label that leads out of the directory. -/
def strayLabelled : Settings :=
  { claimedSettings .standard with credentials := ⟨"ks", "device", "../device"⟩ }

def strayDevice : Provisioner := .new strayLabelled.plan strayLabelled.retry strayLabelled.codec

def strayKeys (_ : String) : KeyMaterial := ⟨"key", "CSR"⟩

/-- The disk of a run, and what the link delivers to it: a certificate is issued. -/
def issuingStart : Disk × List (Except LinkFault (Option Packet)) :=
  (claimDisk, (issuing (issue "AAEC")).map fun p => .ok (some p))

theorem result_strayDevice :
    (strayDevice.run.run (strayLabelled.store.world strayKeys polling) issuingStart).1.2 =
      .error (.store (.invalidLabel "../device")) := by decide +kernel

/-- The settings pass the check, and the run loses its certificate to the label. -/
theorem accepted_label_loses_certificate :
    strayLabelled.check claimDisk = .ok () ∧ ¬ isLabel strayLabelled.plan.certificateLabel ∧
      (strayDevice.run.run (strayLabelled.store.world strayKeys polling) issuingStart).1.2 =
        .error (.store (.invalidLabel "../device")) ∧
      Lost strayLabelled.plan strayLabelled.codec strayKeys
        (effects (strayDevice.run.trace (strayLabelled.store.world strayKeys polling)
          issuingStart)) := by
  have hlabel : ¬ isLabel strayLabelled.plan.certificateLabel := by decide
  have hdecide := strayDevice.labelsDecide strayLabelled.store strayKeys polling issuingStart
  obtain ⟨-, hkey | ⟨-, hasks⟩⟩ := (hdecide.refused_iff _).1 result_strayDevice
  · exact absurd hkey (by decide)
  · exact ⟨rfl, hlabel, result_strayDevice, hdecide.certificate hlabel hasks⟩

end Enrolment
