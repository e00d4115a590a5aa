import Enrolment.Proofs.Credentials
import Enrolment.Proofs.Provision

/-!
# Enrolment.Proofs.Reruns

What several runs leave in the same directory. A run writes its key before it opens the link, its
certificate between the two exchanges, and its record last, all under the same names as the run
before. So a run that fails after it has made its key leaves the record of an earlier run beside a
key that is not of that run.

* `RunOrder.writes`: how far a run can get.
* `Provisioner.files_of_runs`: what stands beside the record of the last run that succeeded.
* `failed_run_leaves_mixture`: a record beside the key and the certificate of a later run.
-/

namespace Enrolment

open Interaction

/-! ## One run -/

section Writes

variable {keys : String → KeyMaterial} {t : List Event}

theorem flatMap_writes_effects (keys : String → KeyMaterial) (t : List Event) :
    (effects t).flatMap (Event.writes keys) = t.flatMap (Event.writes keys) := by
  induction t with
  | nil => rfl
  | cons e t ih =>
    obtain ⟨c, reply⟩ := e
    have hquiet : c.isQuiet → Event.writes keys ⟨c, reply⟩ = [] := by
      intro hq
      cases c <;> first | rfl | cases hq
    by_cases hq : c.isQuiet
    · rw [effects_cons, List.flatMap_cons, hquiet hq]
      simpa [hq] using ih
    · rw [effects_cons, List.flatMap_cons]
      simpa [hq] using ih

theorem Opened.writes {request : ConnectRequest} {r : Except ConnectError Unit}
    (h : Opened request t r) : t.flatMap (Event.writes keys) = [] := by
  refine List.flatMap_eq_nil_iff.2 fun e he => ?_
  obtain ⟨c, reply⟩ := e
  obtain rfl : c = .connect request := h.calls _ he
  rfl

theorem StepOrder.writes {α : Type} {request : StepRequest} {result : Except StepError α}
    (h : StepOrder request t result) : t.flatMap (Event.writes keys) = [] := by
  refine List.flatMap_eq_nil_iff.2 fun e he => ?_
  obtain ⟨c, reply⟩ := e
  obtain hpoll | rfl | ⟨f, rfl⟩ | rfl := h.makes _ he
  · cases c <;> first | rfl | cases hpoll
  · rfl
  · rfl
  · rfl

end Writes

namespace Provision

/-- What a run writes, in order, if `key` is its key, and how it ends. -/
inductive RunWrites (plan : ProvisionPlan) (key : String) :
    List (String × String) → Except ProvisionError Registration → Prop
  | nothing (e : ProvisionError) : RunWrites plan key [] (.error e)
  | key (e : ProvisionError) : RunWrites plan key [(keyFile plan.keyLabel, key)] (.error e)
  | certificate (pem : String) (e : ProvisionError) :
      RunWrites plan key
        [(keyFile plan.keyLabel, key), (certificateFile plan.certificateLabel, pem)] (.error e)
  | record (credential : Credential) (registration : Registration) (now : Timestamp) :
      RunWrites plan key
        [(keyFile plan.keyLabel, key),
          (certificateFile plan.certificateLabel, credential.certificatePem),
          (identityFile, (plan.record credential registration now).toText)]
        (.ok registration)

variable {plan : ProvisionPlan} {policy : RetryPolicy} {codec : Codec} {t : List Event}
  {artifact : KeyArtifact} {credential : Credential} {s : Session}
  {o : Except ProvisionError Registration} (keys : String → KeyMaterial)

theorem RegisterOrder.writes (h : RegisterOrder plan policy codec credential s t o) :
    (∃ e, o = .error e ∧ t.flatMap (Event.writes keys) = []) ∨
      ∃ registration now, o = .ok registration ∧ t.flatMap (Event.writes keys) =
        [(identityFile, (plan.record credential registration now).toText)] := by
  cases h with
  | unwritten _ => exact .inl ⟨_, rfl, rfl⟩
  | failed _ hstep _ => exact .inl ⟨_, rfl, hstep.order.writes⟩
  | @recorded _ _ _ registration now reply _ hstep _ =>
    rw [List.flatMap_append, hstep.order.writes]
    cases reply with
    | error e => exact .inl ⟨_, rfl, rfl⟩
    | ok _ => exact .inr ⟨registration, now, rfl, rfl⟩

theorem ObtainOrder.writes {key : String} (h : ObtainOrder plan policy codec artifact t o) :
    RunWrites plan key ((keyFile plan.keyLabel, key) :: t.flatMap (Event.writes keys)) o := by
  cases h with
  | unwritten _ => exact .key _
  | failed _ hstep _ => rw [hstep.order.writes]; exact .key _
  | unstored _ hstep _ =>
    rw [List.flatMap_append, hstep.order.writes]
    exact .key _
  | stored _ hstep _ hregister =>
    rw [List.flatMap_append, hstep.order.writes, List.flatMap_cons]
    obtain ⟨e, rfl, hwrites⟩ | ⟨registration, now, rfl, hwrites⟩ := hregister.writes keys
    · rw [hwrites]; exact .certificate _ e
    · rw [hwrites]; exact .record _ registration now

theorem RunOrder.writes (h : RunOrder plan policy codec t o) :
    RunWrites plan (keys plan.connect.clientId).privateKey (t.flatMap (Event.writes keys)) o := by
  cases h with
  | noKey => exact .nothing _
  | noLink hopened =>
    rw [List.flatMap_cons, hopened.writes]
    exact .key _
  | linked hopened hobtain =>
    rw [List.flatMap_append, List.flatMap_append, List.flatMap_cons, hopened.writes]
    exact (List.append_nil _).symm ▸ hobtain.writes keys

end Provision

/-! ## Several runs -/

/-- A run that was made: where its key came from, its events, and how it ended. -/
structure MadeRun where
  keys : String → KeyMaterial
  events : List Event
  result : Except ProvisionError Registration

namespace MadeRun

def writes (m : MadeRun) : List (String × String) := m.events.flatMap (Event.writes m.keys)

/-- The private key that the run has made, if it has made one. -/
def key (m : MadeRun) (plan : ProvisionPlan) : String :=
  (m.keys plan.connect.clientId).privateKey

end MadeRun

namespace Provision

variable {plan : ProvisionPlan} {key : String} {writes : List (String × String)}
  {o : Except ProvisionError Registration}

theorem RunWrites.key_iff (h : RunWrites plan key writes o) (k : String) :
    (keyFile plan.keyLabel, k) ∈ writes ↔ writes ≠ [] ∧ k = key := by
  have hcertificate := keyFile_ne_certificateFile plan.keyLabel plan.certificateLabel
  have hidentity := keyFile_ne_identityFile plan.keyLabel
  cases h <;> simp [hcertificate, hidentity]

theorem RunWrites.identity_iff (h : RunWrites plan key writes o) :
    (∃ text, (identityFile, text) ∈ writes) ↔ o.isOk := by
  have hkey := (keyFile_ne_identityFile plan.keyLabel).symm
  have hcertificate := (certificateFile_ne_identityFile plan.certificateLabel).symm
  cases h <;> simp [hkey, hcertificate, Except.isOk, Except.toBool]

theorem RunWrites.of_isOk (h : RunWrites plan key writes o) (hok : o.isOk) :
    ∃ credential registration now, o = .ok registration ∧ writes =
      [(keyFile plan.keyLabel, key),
        (certificateFile plan.certificateLabel, credential.certificatePem),
        (identityFile, (plan.record credential registration now).toText)] := by
  cases h with
  | nothing e | key e | certificate pem e => cases hok
  | record credential registration now => exact ⟨credential, registration, now, rfl, rfl⟩

end Provision

namespace Provisioner

open Provision

variable {σ : Type}

/-- Runs one after the other over the same files, each with its own source of keys. -/
def runsOver (store : FileStore) (others : World σ) :
    List (String → KeyMaterial) → Provisioner → Disk × σ → List MadeRun × Disk × σ
  | [], _, w => ([], w)
  | keys :: sources, p, w =>
    let run := p.run.run (store.world keys others) w
    let later := runsOver store others sources run.1.1 run.2
    (⟨keys, p.run.trace (store.world keys others) w, run.1.2⟩ :: later.1, later.2)

theorem path_run {p p' : Provisioner} {t : List Event}
    {result : Except ProvisionError Registration} (h : Path p.run t (p', result)) :
    p'.plan = p.plan ∧ RunOrder p.plan p.policy p.codec (effects t) result := by
  obtain ⟨t₁, t₂, report, rfl, hrun, hrest⟩ := path_bind.1 h
  obtain ⟨rfl, hpure⟩ := path_pure.1 hrest
  cases hpure
  rw [List.append_nil]
  exact ⟨rfl, (Provision.path_run hrun).order⟩

/-- What is written by a number of runs, run by run, and what comes of it. -/
theorem puts_runsOver (store : FileStore) (others : World σ) (sources : List (String → KeyMaterial))
    (p : Provisioner) (w : Disk × σ) :
    store.Puts ((runsOver store others sources p w).1.flatMap (·.writes)) w.1
        (runsOver store others sources p w).2.1 ∧
      (∀ m ∈ (runsOver store others sources p w).1,
        RunWrites p.plan (m.key p.plan) m.writes m.result) ∧
      (runsOver store others sources p w).1.map (·.keys) = sources := by
  induction sources generalizing p w with
  | nil => exact ⟨.refl store w.1, nofun, rfl⟩
  | cons keys sources ih =>
    have hpath := path_trace (store.world keys others) p.run w
    obtain ⟨hplan, horder⟩ := path_run hpath
    have hwrites := horder.writes keys
    rw [flatMap_writes_effects] at hwrites
    obtain ⟨hputs, hall, hkeys⟩ := ih _ _
    refine ⟨(store.puts_run keys others p.run w).trans hputs, ?_, congrArg (keys :: ·) hkeys⟩
    exact List.forall_mem_cons.2 ⟨hwrites, hplan ▸ hall⟩

end Provisioner

/-! ## What is left -/

/-- The record that a run has left with its key and its certificate, and what stands beside it when
some runs have been made since. -/
structure LeftBy (store : FileStore) (plan : ProvisionPlan) (m : MadeRun) (after : List MadeRun)
    (credential : Credential) (record : Identity) (d : Disk) : Prop where
  writes : m.writes =
    [(keyFile record.keyLabel, m.key plan),
      (certificateFile record.certificateLabel, credential.certificatePem),
      (identityFile, record.toText)]
  certificateId : record.certificateId = credential.certificateId
  identity : d.read store.identityPath = .ok (utf8 record.toText)
  /-- The key is the one made last. -/
  key : d.read (store.keyPath record.keyLabel) =
    .ok (utf8 ((lastUnder (keyFile record.keyLabel) (after.flatMap (·.writes))).getD (m.key plan)))
  /-- The certificate is the one kept last. -/
  certificate : d.read (store.certificatePath record.certificateLabel) =
    .ok (utf8 ((lastUnder (certificateFile record.certificateLabel)
      (after.flatMap (·.writes))).getD credential.certificatePem))
  /-- The key is still that of the run if, and only if, no later one has made a key. -/
  intact_iff : d.read (store.keyPath record.keyLabel) = .ok (utf8 (m.key plan)) ↔
    ∀ later ∈ after, later.writes = []

/-- The files that some runs leave. Each run writes its key, its certificate and its record in this
order, as far as it gets. There is a record exactly if a run has succeeded, and it is that of the
last one that has. It names its own files; but the key and the certificate in them are those that
were written last. -/
structure FilesOf (store : FileStore) (plan : ProvisionPlan) (made : List MadeRun) (d : Disk) :
    Prop where
  runs : ∀ m ∈ made, Provision.RunWrites plan (m.key plan) m.writes m.result
  recorded_iff : (∃ content, d.read store.identityPath = .ok content) ↔ ∃ m ∈ made, m.result.isOk
  last : ∀ before m after, made = before ++ m :: after → m.result.isOk →
    (∀ later ∈ after, ¬ later.result.isOk) →
    ∃ credential registration now, m.result = .ok registration ∧
      LeftBy store plan m after credential (plan.record credential registration now) d

namespace Provision

variable {plan : ProvisionPlan} {store : FileStore} {d d' : Disk} {before after : List MadeRun}
  {m : MadeRun}

theorem lastUnder_writes {key pem text : String} {writes : List (String × String)}
    (h : writes = [(keyFile plan.keyLabel, key), (certificateFile plan.certificateLabel, pem),
      (identityFile, text)]) :
    lastUnder (keyFile plan.keyLabel) writes = some key ∧
      lastUnder (certificateFile plan.certificateLabel) writes = some pem ∧
      lastUnder identityFile writes = some text := by
  have hcertificate := keyFile_ne_certificateFile plan.keyLabel plan.certificateLabel
  have hidentity := keyFile_ne_identityFile plan.keyLabel
  have hidentity' := certificateFile_ne_identityFile plan.certificateLabel
  simp [h, lastUnder, valuesUnder, hcertificate, hcertificate.symm, hidentity, hidentity.symm,
    hidentity', hidentity'.symm]

/-- Runs that fail write no record. -/
theorem lastUnder_identityFile
    (hwrites : ∀ m ∈ after, RunWrites plan (m.key plan) m.writes m.result)
    (hfailed : ∀ m ∈ after, ¬ m.result.isOk) :
    lastUnder identityFile (after.flatMap (·.writes)) = none := by
  refine lastUnder_eq_none_iff.2 fun text hmem => ?_
  obtain ⟨m, hm, htext⟩ := List.mem_flatMap.1 hmem
  exact hfailed m hm ((hwrites m hm).identity_iff.1 ⟨text, htext⟩)

/-- The key that was made last is not another one, unless some run has made one. -/
theorem getD_lastUnder_keyFile {key : String}
    (hwrites : ∀ m ∈ after, RunWrites plan (m.key plan) m.writes m.result)
    (hfresh : key ∉ after.map (·.key plan)) :
    (lastUnder (keyFile plan.keyLabel) (after.flatMap (·.writes))).getD key = key ↔
      ∀ m ∈ after, m.writes = [] := by
  constructor
  · intro hkey m hm
    refine Classical.byContradiction fun hne => ?_
    have hmem : (keyFile plan.keyLabel, m.key plan) ∈ after.flatMap (·.writes) :=
      List.mem_flatMap.2 ⟨m, hm, ((hwrites m hm).key_iff _).2 ⟨hne, rfl⟩⟩
    cases hlast : lastUnder (keyFile plan.keyLabel) (after.flatMap (·.writes)) with
    | none => exact lastUnder_eq_none_iff.1 hlast _ hmem
    | some key' =>
      -- Whichever run wrote last, its key is its own.
      obtain ⟨m', hm', hkey'⟩ := List.mem_flatMap.1 (mem_of_lastUnder hlast)
      obtain ⟨-, rfl⟩ := ((hwrites m' hm').key_iff _).1 hkey'
      rw [hlast, Option.getD_some] at hkey
      exact hfresh (List.mem_map.2 ⟨m', hm', hkey⟩)
  · intro hnone
    rw [List.flatMap_eq_nil_iff.2 hnone]
    rfl

theorem leftBy_of_puts (hempty : store.IsEmpty d)
    (hputs : store.Puts ((before ++ m :: after).flatMap (·.writes)) d d')
    (hwrites : ∀ run ∈ before ++ m :: after, RunWrites plan (run.key plan) run.writes run.result)
    (hfresh : ((before ++ m :: after).map (·.key plan)).Nodup) (hok : m.result.isOk)
    (hfailed : ∀ later ∈ after, ¬ later.result.isOk) :
    ∃ credential registration now, m.result = .ok registration ∧
      LeftBy store plan m after credential (plan.record credential registration now) d' := by
  obtain ⟨credential, registration, now, hresult, hm⟩ := (hwrites m (by simp)).of_isOk hok
  rw [List.flatMap_append, List.flatMap_cons] at hputs
  obtain ⟨hkey, hcertificate, hidentity⟩ := lastUnder_writes hm
  have hafter : ∀ m ∈ after, RunWrites plan (m.key plan) m.writes m.result :=
    fun m hm => hwrites m (by simp [hm])
  have hnotin : m.key plan ∉ after.map (·.key plan) := by
    rw [List.map_append, List.map_cons] at hfresh
    exact (List.nodup_cons.1 (List.nodup_append.1 hfresh).2.1).1
  have hread := hputs.read hempty hkey
  refine ⟨credential, registration, now, hresult, hm, rfl, ?_, hread,
    hputs.read hempty hcertificate, ?_⟩
  · have hrecord := hputs.read hempty hidentity
    rwa [lastUnder_identityFile hafter hfailed] at hrecord
  · rw [← getD_lastUnder_keyFile hafter hnotin]
    refine ⟨fun h => ?_, fun h => ?_⟩
    · exact utf8_injective (Except.ok.inj (hread.symm.trans h))
    · rw [← h]
      exact hread

end Provision

namespace Provisioner

open Provision

variable {σ : Type} {store : FileStore} {others : World σ} {p : Provisioner}
  {sources : List (String → KeyMaterial)} {d : Disk} {s : σ}

/-- If the directory is empty before the first run, and no two runs make the same key, then its
files are those of the runs. -/
theorem files_of_runs (hempty : store.IsEmpty d)
    (hfresh : (sources.map fun keys => (keys p.plan.connect.clientId).privateKey).Nodup) :
    FilesOf store p.plan (p.runsOver store others sources (d, s)).1
      (p.runsOver store others sources (d, s)).2.1 := by
  obtain ⟨hputs, hwrites, hkeys⟩ := puts_runsOver store others sources p (d, s)
  rw [← hkeys, List.map_map] at hfresh
  generalize (p.runsOver store others sources (d, s)).1 = made at hputs hwrites hfresh ⊢
  refine ⟨hwrites, ⟨?_, ?_⟩, ?_⟩
  · rintro ⟨content, hread⟩
    obtain ⟨text, hlast, -⟩ := (hputs.read_iff hempty isName_identityFile).1 hread
    obtain ⟨m, hm, htext⟩ := List.mem_flatMap.1 (mem_of_lastUnder hlast)
    exact ⟨m, hm, (hwrites m hm).identity_iff.1 ⟨text, htext⟩⟩
  · rintro ⟨m, hm, hok⟩
    obtain ⟨text, htext⟩ := (hwrites m hm).identity_iff.2 hok
    cases hlast : lastUnder identityFile (made.flatMap (·.writes)) with
    | none => exact absurd (List.mem_flatMap.2 ⟨m, hm, htext⟩) (lastUnder_eq_none_iff.1 hlast text)
    | some text' =>
      exact ⟨utf8 text', (hputs.read_iff hempty isName_identityFile).2 ⟨text', hlast, rfl⟩⟩
  · rintro before m after rfl hok hfailed
    exact leftBy_of_puts hempty hputs hwrites hfresh hok hfailed

end Provisioner

/-! ## A run that fails after one that succeeded -/

def armoured (line : String) : String :=
  "-----BEGIN CERTIFICATE-----\n" ++ line ++ "\n-----END CERTIFICATE-----\n"

/-- A credential for the device, with the certificate `line`. -/
def issue (line : String) : Credential := ⟨armoured line, "id of " ++ line, "token"⟩

def issuing (c : Credential) : List Packet :=
  [.subAck true,
    .publish "$aws/certificates/create-from-csr/cbor/accepted"
      (Cbor.writeTextMap [(Payload.certificatePemField, c.certificatePem),
        (Payload.certificateIdField, c.certificateId),
        (Payload.ownershipTokenField, c.ownershipToken)]),
    .unsubAck, .unsubAck]

def registering : List Packet :=
  [.subAck true, Provision.registrationAnswer, .unsubAck, .unsubAck]

def deviceStore : FileStore := ⟨"ks"⟩

def emptyDisk : Disk := ⟨[(["ks"], .directory)], []⟩

def newKeys : List (String → KeyMaterial) :=
  [fun _ => ⟨"first key", "CSR"⟩, fun _ => ⟨"second key", "CSR"⟩]

def newDevice : Provisioner := .new Provision.devicePlan .standard (.standard .standard .cbor)

/-- Two runs. The link falls silent when the second one is about to register. -/
def twoRuns : List MadeRun × Disk × List (Except LinkFault (Option Packet)) :=
  newDevice.runsOver deviceStore polling newKeys
    (emptyDisk, (issuing (issue "AAEC") ++ registering ++ issuing (issue "AwQF")).map
      fun p => .ok (some p))

theorem isEmpty_emptyDisk : deviceStore.IsEmpty emptyDisk := fun _ => rfl

theorem isOk_twoRuns : twoRuns.1.map (·.result.isOk) = [true, false] := by decide +kernel

/-- What the link and the clock say in the first run makes this record. -/
def firstRecord : Identity :=
  newDevice.plan.record (issue "AAEC") ⟨"thing", .empty⟩ (quietReply .calendar)

/-- The record is that of the first run. The key and the certificate that it names are not. -/
theorem failed_run_leaves_mixture :
    deviceStore.IsEmpty emptyDisk ∧ twoRuns.1.map (·.result.isOk) = [true, false] ∧
      (twoRuns.2.1.read deviceStore.identityPath).toOption = some (utf8 firstRecord.toText) ∧
      (twoRuns.2.1.read (deviceStore.keyPath firstRecord.keyLabel)).toOption =
        some (utf8 "second key") ∧
      (twoRuns.2.1.read (deviceStore.certificatePath firstRecord.certificateLabel)).toOption =
        some (utf8 (issue "AwQF").certificatePem) :=
  ⟨isEmpty_emptyDisk, isOk_twoRuns, by decide +kernel⟩

/-- What the first of the two runs has left behind. -/
theorem files_of_twoRuns :
    deviceStore.IsEmpty emptyDisk ∧
      (newKeys.map fun keys => (keys newDevice.plan.connect.clientId).privateKey).Nodup ∧
      ∃ m later credential registration now, twoRuns.1 = [m, later] ∧
        m.result = .ok registration ∧
        LeftBy deviceStore newDevice.plan m [later] credential
          (newDevice.plan.record credential registration now) twoRuns.2.1 := by
  obtain ⟨m, rest, hruns, hm, hrest⟩ := List.map_eq_cons_iff.1 isOk_twoRuns
  obtain ⟨later, hlater, hfailed⟩ := List.map_eq_singleton_iff.1 hrest
  subst hlater
  have hfresh : (newKeys.map fun keys =>
      (keys newDevice.plan.connect.clientId).privateKey).Nodup := by decide
  have hfiles : FilesOf deviceStore newDevice.plan twoRuns.1 twoRuns.2.1 :=
    Provisioner.files_of_runs isEmpty_emptyDisk hfresh
  obtain ⟨credential, registration, now, hresult, hleft⟩ :=
    hfiles.last [] m [later] hruns hm (by simp [hfailed])
  exact ⟨isEmpty_emptyDisk, hfresh, m, later, credential, registration, now, hruns, hresult,
    hleft⟩

end Enrolment
