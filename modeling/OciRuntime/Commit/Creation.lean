import OciRuntime.Commit.Retained

/-!
# `OciRuntime.Commit.Creation` — create and restore

A creation allocates a generation, journals itself and only then brings the directory, the
configuration snapshot and the record into existence, each in a commit of its own. The record it
writes loads again (`creatingContainer_loadable`): this is where the checks made on the request meet
the checks made by every later load.
-/

namespace OciRuntime

open Durable Program

variable {sdk : Sdk} {s : Store} {o : OperationId} {op : StoredOperation} {id : ContainerId}
  {generation : Nat} {request : RestoreRequest} {driver : DriverKind} {rp : RestoreResponse}

/-! ## The record of a creation -/

/-- What the validation of a creation request establishes about its inputs. -/
structure CreationInputs.Valid (sdk : Sdk) (inputs : CreationInputs) : Prop where
  bundle : inputs.bundle.WellFormed sdk
  attachments : sdk.validateAttachments inputs.attachments inputs.bundle = .ok ()
  isolation : ∃ request : IsolationRequest, request.class = inputs.isolation ∧
    inputs.attachments.validateIsolation sdk request = .ok ()

theorem validateIsolation_guest {attachments : CreateAttachments} {request : IsolationRequest}
    (h : attachments.validateIsolation sdk request = .ok ()) :
    (∃ se, attachments.guestSession = some se ∧ request = .sharedGuestKernel se.trustDomain) ∨
      (attachments.guestSession = none ∧ request.class ≠ .sharedGuestKernel) := by
  unfold CreateAttachments.validateIsolation at h
  split at h
  · cases h
  · cases hss : attachments.guestSession with
    | some se =>
      rw [hss] at h
      dsimp only at h
      unfold GuestSessionAttachment.validateIsolation at h
      split at h
      · split at h
        · rename_i trustDomain hd
          exact .inl ⟨se, rfl, by rw [hd]⟩
        · cases h
      · cases h
    | none =>
      rw [hss] at h
      cases request with
      | sharedGuestKernel trustDomain => cases h
      | dedicatedVm => exact .inr ⟨rfl, by decide⟩
      | sharedHostKernel => exact .inr ⟨rfl, by decide⟩

/-- The isolation request that the record of a creation stands for is the one of its request. -/
theorem storedIsolationRequest_ok {request : IsolationRequest}
    (hc : stored.record.isolation = request.class)
    (h : attachments.validateIsolation sdk request = .ok ()) :
    storedIsolationRequest stored attachments = .ok request := by
  unfold storedIsolationRequest
  rw [hc]
  rcases validateIsolation_guest h with ⟨se, hss, rfl⟩ | ⟨hn, hg⟩
  · rw [hss]
    rfl
  · cases request with
    | sharedGuestKernel trustDomain => exact absurd rfl hg
    | dedicatedVm => rfl
    | sharedHostKernel => rfl

section Record

variable {inputs : CreationInputs}
  {networkEnforcement : Option NetworkEnforcementAttachment} {state : State}

theorem creatingContainer_attachments (hv : inputs.Valid sdk)
    (hn : sdk.networkEnforcement inputs.attachments inputs.bundle = .ok networkEnforcement) :
    validateStoredAttachments sdk
      (creatingContainer sdk inputs generation o networkEnforcement state) inputs.bundle =
        .ok () := by
  obtain ⟨request, hc, hi⟩ := hv.isolation
  unfold validateStoredAttachments creatingContainer
  simp only [bind_eq_ok, rejectIf_eq_ok, mapError_eq_ok]
  refine ⟨(), hv.attachments, request, storedIsolationRequest_ok hc.symm hi, (),
    hi, networkEnforcement, hn, (), ?_, by simp⟩
  rintro (⟨hss, hg⟩ | hss | hn')
  · rcases validateIsolation_guest hi with ⟨se, -, rfl⟩ | ⟨hnn, -⟩
    · exact hg hc.symm
    · rw [show inputs.attachments.guestSession = none from hnn] at hss
      cases hss
  · exact hss rfl
  · exact hn' rfl

/-- **The record of a creation loads.** -/
theorem creatingContainer_loadable {d : ContainerDirectory} (hv : inputs.Valid sdk)
    (hn : sdk.networkEnforcement inputs.attachments inputs.bundle = .ok networkEnforcement)
    (hstt : buildState inputs.id inputs.bundle .creating none = .ok state)
    (hg : generation ≠ 0) (hc : d.config = some inputs.bundle.configJson) :
    Loadable sdk inputs.id { d with
        record := some (creatingContainer sdk inputs generation o networkEnforcement state)
        recordTransaction := false }
      (creatingContainer sdk inputs generation o networkEnforcement state) := by
  obtain ⟨hi, hd, hst, hp⟩ := buildState_ok hstt
  refine ⟨rfl, rfl, rfl, hg, hi, ?_, inputs.bundle, ?_, rfl, creatingContainer_attachments hv hn⟩
  · refine validateState_ok_of_pidFits (?_ : PidFits state.status state.pid)
    rw [hst]
    exact hp
  · unfold loadBundleFromDirectory
    rw [hc]
    show OciBundle.fromJson sdk state.bundle inputs.bundle.configJson = _
    rw [hd]
    exact hv.bundle

end Record

theorem buildState_normal (h : buildState id bundle .creating none = .ok state) : state.Normal := by
  unfold buildState at h
  split at h
  · cases h
    refine ⟨rfl, by simp, ?_⟩
    intro value hv
    simp at hv
  · split at h
    · cases h
    · rename_i hr
      cases h
      refine ⟨rfl, nonEmptyAnnotations_ne _, ?_⟩
      intro value hv
      rw [nonEmptyAnnotations_getD] at hv
      exact absurd (Finmap.mem_of_lookup_eq_some hv) hr

/-! ## Bringing a generation into existence -/

section Prepared

variable {name : String}

theorem ensureContainerDirectory_spec (hc : PendingCreation s.operations id op) :
    Yields (Write sdk (some op.operationId)) (ensureContainerDirectory id) s fun _ t =>
      t.operations = s.operations ∧ ∃ d, t.containers.get? id = some d ∧
        (s.containers.get? id = none → d.record = none) := by
  refine .read_bind fun dr hdr => ?_
  cases Except.ok.inj hdr
  split
  · rename_i d hd
    refine .pure ⟨rfl, d, hd, ?_⟩
    intro hn
    rw [hn] at hd
    cases hd
  · rename_i ha
    have hw : Write sdk (some op.operationId) s (s.setDirectory id .empty) :=
      .directory (ha.symm ▸ .create hc rfl)
    refine .commit hw ⟨rfl, .empty, ?_, ?_⟩
    · exact Store.setDirectory_self s id .empty
    · intro _
      rfl

theorem ensureConfigSnapshot_spec (hcr : PendingCreation s.operations id op)
    (hd : s.containers.get? id = some d) :
    Yields (Write sdk (some op.operationId)) (ensureConfigSnapshot id bundle name) s fun _ t =>
      t.operations = s.operations ∧ ∃ d', t.containers.get? id = some d' ∧
        d'.config = some bundle.configJson ∧ d'.record = d.record := by
  refine .read_bind fun config hc => ?_
  have hc : d.config = config := by simpa [hd] using hc
  cases config with
  | some durable =>
    refine .rejectIf fun hsm => ?_
    exact ⟨rfl, d, hd, by rw [hc, not_not.mp hsm], rfl⟩
  | none =>
    have hw : Write sdk (some op.operationId) s (s.writeConfig id bundle.configJson) := by
      rw [Store.writeConfig_eq hd]
      exact .directory (hd ▸ .config hcr rfl hc)
    refine .commit hw ?_
    rw [Store.writeConfig_eq hd]
    exact ⟨rfl, _, Store.setDirectory_self _ _ _, rfl, rfl⟩

/-- What the preparation of a generation leaves behind. -/
structure Reconciled (sdk : Sdk) (s : Store) (id : ContainerId) (generation : Nat)
    (o : OperationId) (stored : StoredContainer) (t : Store) : Prop where
  operations : t.operations = s.operations
  live : Live sdk t id stored
  generation : stored.record.generation = generation
  claimed : s.containers.get? id = none → stored.activeOperation = some o

theorem reconcilePreparedContainer_spec {inputs : CreationInputs} (hs : Sound sdk s)
    (hcr : PendingCreation s.operations inputs.id op)
    (hg : op.generation = generation) (ho : op.operationId = o)
    (hv : inputs.Valid sdk) :
    Yields (Write sdk (some o)) (reconcilePreparedContainer sdk inputs generation o name) s
      (Reconciled sdk s inputs.id generation o) := by
  subst hg ho
  refine .check_bind fun networkEnforcement hn => ?_
  refine hs.bind (ensureContainerDirectory_spec hcr) ?_
  rintro _ t ht ⟨hos, d, hd, hf⟩
  refine ht.bind (ensureConfigSnapshot_spec (hos.symm ▸ hcr) hd) ?_
  rintro _ u hu ⟨hos', d', hd', hc, hr⟩
  have hos' : u.operations = s.operations := hos'.trans hos
  have hcr' : PendingCreation u.operations inputs.id op := hos'.symm ▸ hcr
  refine .read_bind fun record hrd => ?_
  have hrd : d'.record = record := by simpa [hd'] using hrd
  cases record with
  | some found =>
    refine .read_bind fun stored hso => ?_
    refine .rejectIf_bind fun _ => ?_
    obtain ⟨hlv, hg⟩ := loadStoredExact_ok.mp hso
    refine .pure ⟨hos', hlv, hg, ?_⟩
    intro ha
    rw [hr, hf ha] at hrd
    cases hrd
  | none =>
    refine .check_bind fun state hst => ?_
    have hp := (hu.operations _ _ hcr'.found).positive
    have hl := @creatingContainer_loadable sdk op.operationId op.generation inputs
      networkEnforcement state d' hv hn hst hp hc
    have hsp := DirectoryStep.record hcr' rfl hrd hl (buildState_normal hst)
      (buildState_ok hst).2.2.1 rfl rfl rfl
    have heq := Store.writeContainer_eq
      (show u.containers.get? (creatingContainer sdk inputs op.generation op.operationId
        networkEnforcement state).id = some d' from hd')
    refine .commit_bind ?_ (.pure ?_)
    · rw [heq]
      exact .directory (hd' ▸ hsp)
    · rw [heq]
      exact ⟨hos', ⟨_, Store.setDirectory_self _ _ _, hl⟩, rfl, fun _ => rfl⟩

/-- A new generation number is larger than that of every operation of the ID. -/
theorem nextGeneration_spec (hs : Sound sdk s) (ha : s.containers.get? id = none)
    (hfr : ∀ o, actor = some o → s.operations.get? o = none) :
    Yields (Write sdk actor) (nextGeneration id) s fun generation t =>
      t = s.writeGeneration ⟨generationSchemaVersion, id, generation⟩ ∧ generation ≠ 0 ∧
        ∀ o op, s.operations.get? o = some op → op.containerId = id →
          op.generation ≠ generation := by
  refine .read_bind fun last hl => ?_
  have hl : last = ((s.generations.get? id).map (·.lastGeneration)).getD 0 := by
    split at hl
    · rename_i hn
      rw [hn]
      exact (Except.ok.inj hl).symm
    · rename_i stored hst
      rw [hst]
      split at hl
      · cases hl
      · exact (Except.ok.inj hl).symm
  refine .rejectIf_bind fun hb => ?_
  refine .commit_bind (.generation hfr ha hl (Nat.lt_of_not_le hb))
    (.pure ⟨rfl, Nat.succ_ne_zero _, ?_⟩)
  intro o op ho hc hg
  obtain ⟨found, hf, hle⟩ := (hs.operations o op ho).allocated
  rw [hc] at hf
  rw [hf] at hl
  have : last = found.lastGeneration := hl
  omega

/-- The journal entry of a new creation. -/
structure NewCreation (sdk : Sdk) (o : OperationId) (id : ContainerId) (generation : Nat)
    (op : StoredOperation) : Prop where
  operationId : op.operationId = o
  kind : op.kind.isCreation = true
  schema : op.schemaVersion = operationSchemaVersion
  shape : op.shapeFault sdk = none
  prepared : op.outcome = .prepared
  container : op.containerId = id
  generation : op.generation = generation

/-- A new creation allocates its generation and is journaled with it, in this order. -/
theorem journalCreation_spec {α : Type} {e : Nat → StoredOperation} {rest : Nat → StoreM α}
    {P : α → Store → Prop} (hs : Sound sdk s) (hc : actor = some o)
    (ha : s.containers.get? id = none) (hfr : s.operations.get? o = none)
    (hen : ∀ generation, NewCreation sdk o id generation (e generation))
    (hr : ∀ generation t, Sound sdk t → t.containers.get? id = none →
      PendingCreation t.operations id (e generation) → Yields (Write sdk actor) (rest generation) t P) :
    Yields (Write sdk actor) (nextGeneration id >>= fun generation =>
      commit (·.writeOperation (e generation)) >>= fun _ => rest generation) s P := by
  subst hc
  refine hs.bind (nextGeneration_spec hs ha fun _ ho => Option.some.inj ho ▸ hfr) ?_
  rintro generation t ht ⟨rfl, hp, hfs⟩
  have hn := hen generation
  have hl : (s.writeGeneration ⟨generationSchemaVersion, id, generation⟩).generations.get?
      (e generation).containerId = some ⟨generationSchemaVersion, id, generation⟩ := by
    rw [hn.container]
    exact Directory.get?_write_self _ _ _
  have hsp : OperationStep sdk (s.writeGeneration ⟨generationSchemaVersion, id, generation⟩)
      (e generation) := by
    refine .create ?_ hn.kind hn.schema hn.shape hn.prepared ?_ hl hn.generation.symm ?_
    · rw [hn.operationId]
      exact hfr
    · rw [hn.container]
      exact ha
    · intro other found hf hcn
      rw [hn.generation]
      exact hfs other found hf (hcn.trans hn.container)
  refine .commit_bind (.operation (by rw [hn.operationId]) hsp)
    (hr generation _ (ht.operation hsp) ha ?_)
  exact ⟨⟨⟨Directory.get?_write_self _ _ _, hn.container, rfl⟩, hn.prepared⟩, hn.kind⟩

variable {α : Type} {P : α → Store → Prop} {answer : StoredContainer → α}
  {event : StoredContainer → StoreM Unit}

/-- A retry of a pending creation brings its generation into existence and takes its claim. -/
theorem resumeCreation_spec (hs : Sound sdk s) (hc : PendingCreation s.operations id op)
    (ho : op.operationId = o)
    (hk : op.kind.isProcessOperation = false ∧ op.kind.isFencing = false)
    (hrc : Yields (Write sdk (some o)) reconcile s (Reconciled sdk s id op.generation o))
    (hev : ∀ c t, Sound sdk t → JournaledAt t.operations id c.record.generation op →
      Emits sdk (some o) (event c) t)
    (hP : ∀ claimed t, Granted t o → P (answer claimed) t) :
    Yields (Write sdk (some o)) (reconcile >>= fun c =>
      claimActiveOperation sdk c o mutation name >>= fun claimed =>
        event claimed >>= fun _ => pure (answer claimed)) s P := by
  obtain rfl := hc.container
  subst ho
  refine hs.bind hrc fun c t ht hm => ?_
  have hp : Pending sdk t op := ⟨ht, by rw [hm.operations, hc.found], hc.prepared⟩
  have h := hp.on ⟨hm.live, hm.generation⟩
  refine ht.bind (claimActiveOperation_spec ht h.live h.pendingAt (isLifecycle_of_kind rfl hk.1)
    rfl rfl (unfenced rfl hk.2)) ?_
  rintro claimed u hu ⟨rfl, hr⟩
  have h : PendingOn sdk u op { c with activeOperation := some op.operationId } :=
    ⟨h.congr hu hr.operations, hr.live, h.generation⟩
  refine hu.bind (hev _ u hu h.pendingAt.toJournaledAt) fun _ v hv huv => ?_
  exact .pure (hP _ v ((h.onlyEvents hv huv).granted rfl))

/-- A new creation brings its generation into existence; the record is written with its claim. -/
theorem freshCreation_spec (hs : Sound sdk s) (hc : PendingCreation s.operations id op)
    (ho : op.operationId = o) (ha : s.containers.get? id = none)
    (hr : Yields (Write sdk (some o)) reconcile s (Reconciled sdk s id op.generation o))
    (hev : ∀ c t, Sound sdk t → JournaledAt t.operations id c.record.generation op →
      Emits sdk (some o) (event c) t)
    (hP : ∀ c t, Granted t o → P (answer c) t) :
    Yields (Write sdk (some o)) (reconcile >>= fun c =>
      event c >>= fun _ => pure (answer c)) s P := by
  obtain rfl := hc.container
  subst ho
  refine hs.bind hr fun c t ht hm => ?_
  have hp : Pending sdk t op := ⟨ht, by rw [hm.operations, hc.found], hc.prepared⟩
  have h := hp.on ⟨hm.live, hm.generation⟩
  refine ht.bind (hev _ t ht h.pendingAt.toJournaledAt) fun _ u hu htu => ?_
  exact .pure (hP _ u ((h.onlyEvents hu htu).granted (hm.claimed ha)))

end Prepared

/-! ## Failed creations -/

theorem reconcileFailedCreation_spec (ho : s.operations.get? op.operationId = some op) :
    Yields (Write sdk (some op.operationId)) (reconcileFailedCreation sdk op) s fun _ t =>
      t.operations = s.operations := by
  refine .rejectIf_bind fun hk => ?_
  refine .rejectIf_bind fun hf => ?_
  refine .read_bind fun source _ => ?_
  refine .read_bind fun quarantined hq => ?_
  split
  · refine .read_bind fun stored hst => ?_
    obtain ⟨⟨d, hd, hl⟩, hg⟩ := loadStoredExact_ok.mp hst
    refine .check_bind fun _ hac => ?_
    have ha : s.quarantine.get? (failedCreationTombstone op) = none := by
      simpa using hq
    have hw : Write sdk (some op.operationId) s _ := .quarantine ⟨ho, rfl, rfl⟩ rfl hd hl
      hg (ensureActiveOperation_ok.mp hac) ha
      (.failed (by simpa using hk) (by simpa using hf))
    rw [← Store.quarantineContainer_eq hd] at hw
    refine .commit hw ?_
    rw [Store.quarantineContainer_eq hd]
  · refine .read_bind fun live _ => ?_
    exact .rejectIf fun _ => rfl
  · exact .pure rfl

/-! ## Create -/

theorem CreateRequest.inputs_valid {request : CreateRequest}
    (hb : request.bundle.WellFormed sdk) (h : request.validate sdk = .ok ()) :
    (request.inputs driver).Valid sdk := by
  unfold CreateRequest.validate at h
  simp only [bind_eq_ok] at h
  obtain ⟨_, _, _, ha, _, hi, -⟩ := h
  exact ⟨hb, ha, request.isolation, rfl, hi⟩

section
variable (hs : Sound sdk s)
include hs

theorem reconcilePreparedCreate_spec {request : CreateRequest}
    (hc : PendingCreation s.operations request.id op)
    (hg : op.generation = generation) (ho : op.operationId = request.context.operationId)
    (hv : (request.inputs driver).Valid sdk) :
    Yields (Write sdk (some request.context.operationId))
      (reconcilePreparedCreate sdk request driver generation) s
      (Reconciled sdk s request.id generation request.context.operationId) :=
  reconcilePreparedContainer_spec hs hc hg ho hv

theorem appendCreatingEvent_spec
    (ho : JournaledAt s.operations id generation op) (hk : op.kind = .create) :
    Emits sdk actor (appendContainerEvent clock .creating id generation .containerCreating []) s :=
  appendContainerEvent_spec hs rfl fun _ hc hev =>
    .created hc (.inl ⟨rfl, hev⟩) ho hk

theorem reconcileSucceededCreate_spec {rp : ContainerRecord}
    (hop : s.operations.get? op.operationId = some op) (hk : op.kind = .create)
    (ho : op.outcome = .succeeded rp) :
    Prepares sdk op.operationId (reconcileSucceededCreate sdk op rp) s := by
  have hok := hs.operations _ _ hop
  have hd : Settled s op.operationId := ⟨op, hop, by simp [ho]⟩
  refine .read_bind fun live hl => ?_
  cases live with
  | none => exact .pure hd
  | some c =>
    dsimp only
    split
    · exact .pure hd
    · rename_i hc
      push Not at hc
      obtain ⟨-, -, hst, -⟩ := hc
      refine .read_bind fun allowed _ => ?_
      refine .rejectIf_bind fun ha => ?_
      push Not at ha
      refine .check_bind fun _ _ => ?_
      refine .rejectIf_bind fun _ => ?_
      have hf := (Live.normal hs (loadForReplay_some hl)).pid
      have hl : c.record.state.status = .created ∨ c.record.state.status = .running := by
        by_cases h : c.record.state.status = .created
        · exact .inl h
        · exact .inr (hst h)
      have hn := hok.response
      rw [ho] at hn
      rw [rebuildState_same hn ha.2 (by decide)]
      exact rebind_spec hop (.record ho (hf.of_live hl (.inl ha.2)))
        (hok.plain hk rfl rfl (by simp)) fun _ ht => ht

theorem prepareCreate_spec {request : CreateRequest} {inheritedDescriptors : Option String}
    (hb : request.bundle.WellFormed sdk) :
    Prepares sdk request.context.operationId
    (prepareCreate sdk clock request driver inheritedDescriptors) s := by
  refine .check_bind fun _ hv => ?_
  have hi : (request.inputs driver).Valid sdk := request.inputs_valid hb hv
  refine yields_lookup (fun op hop hid => ?_) fun hf => ?_
  · refine .check_bind fun _ hr => ?_
    obtain ⟨hk, hcn⟩ := validateRetry_ok hr
    split
    · rename_i hpr
      have hc : PendingCreation s.operations request.id op :=
        ⟨⟨⟨hop, hcn, rfl⟩, hpr⟩, by rw [hk]; rfl⟩
      exact resumeCreation_spec hs hc hid (by rw [hk]; decide)
        (reconcilePreparedCreate_spec hs hc rfl hid hi)
        (fun _ t ht hop => appendCreatingEvent_spec ht hop hk) fun _ _ ht => ht
    · rename_i rp ho
      rw [← hid]
      exact reconcileSucceededCreate_spec hs hop hk ho
    · rw [← hid]
      refine Yields.bind (P := fun _ _ => True) ?_ fun _ _ _ => .throw
      refine .rejectIf_bind fun _ => ?_
      exact (reconcileFailedCreation_spec hop).mono fun _ _ _ => trivial
    · exact .throw
  · refine .check_bind fun _ _ => ?_
    refine .read_bind fun dr hd => ?_
    cases Except.ok.inj hd
    refine .rejectIf_bind fun hp => ?_
    have ha : s.containers.get? request.id = none := by simpa using hp
    refine journalCreation_spec hs rfl ha hf
      (fun generation => ⟨rfl, rfl, rfl, rfl, rfl, rfl, rfl⟩) ?_
    intro generation t ht ha' hc
    exact freshCreation_spec ht hc rfl ha' (reconcilePreparedCreate_spec ht hc rfl rfl hi)
      (fun _ u hu hop => appendCreatingEvent_spec hu hop rfl) fun _ _ ht => ht

theorem completeCreate_spec : Settles sdk o (completeCreate sdk clock o pid) s := by
  refine .rejectIf_bind fun hp => ?_
  refine hs.completion recordOutcome_reads (fun _ _ => .pure rfl) ?_
  rintro op hpn rfl hk
  refine .read_bind fun c hso => ?_
  have h := hpn.on (loadForCompletion_ok hso)
  refine .check_bind fun state hst => ?_
  refine .check_bind fun _ ha => ?_
  obtain ⟨hsp, hc, -⟩ := createdState_step h.normal (by omega) hst
  have hf : JournaledAt s.operations c.id c.record.generation op :=
    ⟨h.found, h.live.id_eq.symm, h.generation.symm⟩
  refine complete_spec h (isLifecycle_of_kind hk rfl) (fun d => .advance hsp
    (fun _ _ => ⟨op, hf, .inl ⟨hk, hc⟩⟩) (ensureActiveOperation_ok.mp ha) rfl) rfl
    (h.ok.plain hk rfl rfl (by simp)) ?_ ?_ fun _ ht => ht
  · intro t hl
    exact .of_live (by rw [hk]; rfl) hl rfl h.generation (fun _ => hc) (by simp [hk])
  · intro t ht
    refine appendContainerEvent_spec ht.sound rfl fun _ hcn hev => ?_
    exact .created hcn (.inr ⟨rfl, hev⟩) ⟨ht.found, rfl, rfl⟩ hk

end

/-! ## Restore -/

theorem RestoreRequest.inputs_valid (hb : request.bundle.WellFormed sdk)
    (h : request.validate sdk = .ok ()) : (request.inputs driver).Valid sdk := by
  unfold RestoreRequest.validate at h
  simp only [bind_eq_ok] at h
  obtain ⟨_, _, _, ha, _, hi, -⟩ := h
  exact ⟨hb, ha, request.isolation, rfl, hi⟩

theorem reconcilePreparedRestore_spec (hs : Sound sdk s)
    (hc : PendingCreation s.operations request.id op)
    (hg : op.generation = generation) (ho : op.operationId = request.context.operationId)
    (hv : (request.inputs driver).Valid sdk) :
    Yields (Write sdk (some request.context.operationId))
      (reconcilePreparedRestore sdk request driver generation) s
      (Reconciled sdk s request.id generation request.context.operationId) :=
  Yields.check_bind fun _ _ => reconcilePreparedContainer_spec hs hc hg ho hv

theorem validateRestoreRetry_ok (h : validateRestoreRetry op request digest = .ok ()) :
    op.kind = .restore ∧ op.containerId = request.id ∧ op.request = some (.restore request) := by
  unfold validateRestoreRetry at h
  simp only [bind_eq_ok, rejectIf_eq_ok, ne_eq, not_not] at h
  obtain ⟨_, hrt, hr⟩ := h
  exact ⟨(validateRetry_ok hrt).1, (validateRetry_ok hrt).2, hr⟩

theorem appendRestoreEvent_spec (hs : Sound sdk s)
    (ho : s.operations.get? op.operationId = some op) (hr : op.kind = .restore)
    (ht : target = .exact op.containerId op.generation)
    (hsf : suffix = .restoring ∧ kind = .containerCreating ∨
      suffix = .restoreCreated ∧ kind = .containerCreated ∨
      suffix = .restoreStarted ∧ kind = .containerStarted) :
    Emits sdk actor (appendOperationEvent clock op.operationId suffix target kind attributes) s := by
  refine appendOperationEvent_spec hs fun event hc hk => ?_
  refine .restored (hc.trans ht) ?_ ho hr
  rw [hk]
  exact hsf

theorem appendRestoreCreatingEvent_spec (hs : Sound sdk s)
    (hop : JournaledAt s.operations request.id generation op)
    (ho : op.operationId = request.context.operationId) (hr : op.kind = .restore) :
    Emits sdk actor (appendRestoreCreatingEvent clock request generation) s := by
  unfold appendRestoreCreatingEvent
  rw [← ho]
  refine appendRestoreEvent_spec hs hop.found hr ?_ (.inl ⟨rfl, rfl⟩)
  rw [hop.container, hop.generation]

theorem appendRestoredEvents_spec (hs : Sound sdk s)
    (ho : s.operations.get? op.operationId = some op) (hr : op.kind = .restore) :
    Emits sdk actor (appendRestoredEvents clock op) s := by
  refine hs.bind (appendRestoreEvent_spec hs ho hr rfl (.inr (.inl ⟨rfl, rfl⟩))) ?_
  intro _ t ht hst
  have ho' : t.operations.get? op.operationId = some op := hst.operations.symm ▸ ho
  refine ht.bind (appendRestoreEvent_spec ht ho' hr rfl (.inr (.inr ⟨rfl, rfl⟩))) ?_
  intro _ u hu htu
  refine Yields.mono (appendOperationEvent_spec hu fun _ _ hev =>
    .other (by rw [hev]; rfl)) ?_
  intro _ v huv
  exact hst.trans (htu.trans huv)

theorem retainedRestoreRequest_ok (h : retainedRestoreRequest op = .ok request) :
    op.request = some (.restore request) := by
  unfold retainedRestoreRequest at h
  split at h
  · rename_i hr
    cases h
    exact hr
  · cases h

/-- A restore response names the reference of its request. -/
theorem RestoreResponse.new_ok {restored : ContainerRecord} {reference : CheckpointReference}
    (h : RestoreResponse.new sdk restored reference = .ok rp) :
    rp.restored = restored ∧ rp.reference = reference := by
  unfold RestoreResponse.new at h
  simp only [bind_eq_ok, pure_eq_ok] at h
  obtain ⟨_, _, _, _, _, _, _, _, _, _, _, _, _, _, rfl⟩ := h
  exact ⟨rfl, rfl⟩

theorem RestoreResponse.validateForRequest_reference
    (h : rp.validateForRequest sdk request = .ok ()) :
    request.requireReference = .ok rp.reference := by
  unfold RestoreResponse.validateForRequest at h
  simp only [bind_eq_ok, rejectIf_eq_ok, not_or, ne_eq, not_not] at h
  obtain ⟨_, _, reference, hr, heq, -⟩ := h
  rw [hr, heq]

theorem restoreResponse_ok : restoreResponse sdk request restored = .ok rp ↔
      ∃ reference, request.requireReference = .ok reference ∧
        RestoreResponse.new sdk restored reference = .ok rp ∧
        rp.validateForRequest sdk request = .ok () := by
  unfold restoreResponse
  simp only [bind_eq_ok, pure_eq_ok]
  constructor
  · rintro ⟨reference, hr, found, hf, _, hv, rfl⟩
    exact ⟨reference, hr, hf, hv⟩
  · rintro ⟨reference, hr, hf, hv⟩
    exact ⟨reference, hr, rp, hf, (), hv, rfl⟩

theorem reconcileSucceededRestore_spec (hs : Sound sdk s)
    (hop : s.operations.get? op.operationId = some op) (hk : op.kind = .restore)
    (ho : op.outcome = .succeededRestore rp) :
    Settles sdk op.operationId (reconcileSucceededRestore sdk op rp) s := by
  have hok := hs.operations _ _ hop
  have hd : Settled s op.operationId := ⟨op, hop, by simp [ho]⟩
  refine .read_bind fun live hl => ?_
  cases live with
  | none => exact .pure hd
  | some stored =>
    dsimp only
    split
    · exact .pure hd
    · rename_i hc
      push Not at hc
      obtain ⟨hg, -, hrn, -, hsa, hp⟩ := hc
      have hf := (Live.normal hs (loadForReplay_some hl)).pid
      rw [hrn, ← hsa] at hf
      have hnr := hok.response
      rw [ho] at hnr
      refine .read_bind fun allowed _ => ?_
      refine .check_bind fun state hst => ?_
      rw [rebuildState_same hnr hsa (by decide)] at hst
      -- the durable record is the response with another process ID
      have hp : isPaused rp.restored.state = true := by
        have : rp.restored.isPaused = true := by simpa using hp
        exact this
      rw [← hp] at hst
      obtain rfl := rebuildPausedState_same (hnr.withPid hf) hst
      refine .rejectIf_bind fun hsm => ?_
      push Not at hsm
      refine .check_bind fun rebound hrb => ?_
      refine .check_bind fun request hr => ?_
      refine .check_bind fun _ hv => ?_
      have hr := retainedRestoreRequest_ok hr
      obtain ⟨hrs, hrf⟩ := RestoreResponse.new_ok hrb
      have hn : restoreResponse sdk request rebound.restored = .ok rebound := by
        rw [restoreResponse_ok, RestoreResponse.validateForRequest_reference hv, hrs]
        exact ⟨_, rfl, hrf ▸ hrb, hv⟩
      obtain rfl : rebound = { rp with
          restored := rp.restored.withPid stored.record.state.pid } := by
        obtain ⟨restored, reference⟩ := rebound
        cases hrf
        exact congrArg (RestoreResponse.mk · rp.reference) (hrs.trans hsm.2.symm)
      refine rebind_spec hop (.restored ho hf hr hn) (hok.fits (by rw [hk]; rfl)
        ⟨hk, request, hr, ?_, hv⟩) fun _ ht => ht
      rw [hrs]
      exact hg

theorem lookupRestore_spec (hs : Sound sdk s) :
    Yields (Write sdk (some request.context.operationId)) (lookupRestore sdk request) s
      fun _ t => t = s ∨ Settled t request.context.operationId := by
  refine .check_bind fun _ hv => ?_
  refine .check_bind fun digest _ => ?_
  refine yields_lookup (fun op hop hi => ?_) fun _ => .pure (.inl rfl)
  rw [← hi]
  refine .check_bind fun _ hr => ?_
  obtain ⟨hk, -⟩ := validateRestoreRetry_ok hr
  split
  · exact .pure (.inl rfl)
  · rename_i rp ho
    refine Yields.bind (reconcileSucceededRestore_spec hs hop hk ho) ?_
    intro replayed t hst
    exact .pure (.inr hst)
  · refine Yields.bind (P := fun _ _ => True) ?_ fun _ _ _ => .throw
    refine .rejectIf_bind fun _ => ?_
    exact (reconcileFailedCreation_spec hop).mono fun _ _ _ => trivial
  · exact .throw

theorem prepareRestore_spec (hs : Sound sdk s) (hb : request.bundle.WellFormed sdk) :
    Prepares sdk request.context.operationId (prepareRestore sdk clock request driver) s := by
  refine .check_bind fun _ hv => ?_
  have hi : (request.inputs driver).Valid sdk := request.inputs_valid hb hv
  refine .check_bind fun digest hdg => ?_
  refine yields_lookup (fun op hop hid => ?_) fun hf => ?_
  · refine .check_bind fun _ hr => ?_
    obtain ⟨hk, hcn, -⟩ := validateRestoreRetry_ok hr
    split
    · rename_i hpr
      have hc : PendingCreation s.operations request.id op :=
        ⟨⟨⟨hop, hcn, rfl⟩, hpr⟩, by rw [hk]; rfl⟩
      exact resumeCreation_spec hs hc hid (by rw [hk]; decide)
        (reconcilePreparedRestore_spec hs hc rfl hid hi)
        (fun _ t ht hop => appendRestoreCreatingEvent_spec ht hop hid hk) fun _ _ ht => ht
    · rename_i rp ho
      rw [← hid]
      refine Yields.bind (reconcileSucceededRestore_spec hs hop hk ho) ?_
      intro replayed t hst
      exact .pure hst
    · rw [← hid]
      refine Yields.bind (P := fun _ _ => True) ?_ fun _ _ _ => .throw
      refine .rejectIf_bind fun _ => ?_
      exact (reconcileFailedCreation_spec hop).mono fun _ _ _ => trivial
    · exact .throw
  · refine .check_bind fun _ _ => ?_
    refine .read_bind fun dr hd => ?_
    cases Except.ok.inj hd
    refine .rejectIf_bind fun hp => ?_
    have ha : s.containers.get? request.id = none := by simpa using hp
    refine journalCreation_spec hs rfl ha hf
      (fun generation => ⟨rfl, rfl, rfl, ?_, rfl, rfl, rfl⟩) ?_
    · refine (if_neg ?_).trans rfl
      simp [preparedOperation, hv, hdg, Except.toOption]
    · intro generation t ht ha' hc
      exact freshCreation_spec ht hc rfl ha' (reconcilePreparedRestore_spec ht hc rfl rfl hi)
        (fun _ u hu hop => appendRestoreCreatingEvent_spec hu hop rfl rfl) fun _ _ ht => ht

theorem restoreOutcome_reads : ReadsOutcome restoreOutcome := by
  intro outcome invalid done h
  cases outcome <;> cases h <;> simp

theorem completeRestore_spec (hs : Sound sdk s) :
    Settles sdk o (completeRestore sdk clock o pid) s := by
  refine .rejectIf_bind fun hp => ?_
  refine hs.completion restoreOutcome_reads (fun _ _ => .pure rfl) ?_
  rintro op hpn rfl hk
  refine .check_bind fun request hr => ?_
  have hr := retainedRestoreRequest_ok hr
  refine .read_bind fun c hso => ?_
  have h := hpn.on (loadStoredExact_ok.mp hso)
  refine .check_bind fun state hstt => ?_
  refine .rejectIf_bind fun hwn => ?_
  have ho : c.activeOperation = none ∨ c.activeOperation = some op.operationId := by
    cases ha : c.activeOperation with
    | none => exact .inl rfl
    | some active =>
      rw [ha] at hwn
      exact .inr (by simpa using hwn)
  obtain ⟨hsp, hrn, -⟩ := restoredState_step h.normal (by omega) hstt
  have hf : JournaledAt s.operations c.id c.record.generation op :=
    ⟨h.found, h.live.id_eq.symm, h.generation.symm⟩
  obtain ⟨hw, ht⟩ := h.write fun d => .advance hsp (fun _ _ => ⟨op, hf, .inr ⟨hk, hrn⟩⟩) ho rfl
  refine .commit_bind hw ?_
  -- the response is checked after the record was committed
  refine ht.sound.bind (appendRestoredEvents_spec ht.sound ht.found hk) fun _ u hu htu => ?_
  have hu := ht.onlyEvents hu htu
  refine .check_bind fun rp hrp => ?_
  obtain ⟨reference, -, hn, hv⟩ := restoreResponse_ok.mp hrp
  refine Yields.bind (settle_free_spec hu (isLifecycle_of_kind hk rfl) rfl
    (h.ok.fits (by rw [hk]; rfl) ⟨hk, request, hr, ?_, hv⟩)
    (.restored hu.live hu.generation hr hrp)) ?_
  · rw [(RestoreResponse.new_ok hn).1]
    exact h.generation
  · intro _ v hst
    exact .pure hst

end OciRuntime
