import OciRuntime.Commit.Lifecycle

/-!
# `OciRuntime.Commit.Retained` — mutations that keep their request, checkpoints and attestations

The journal entries of these operations hold the whole request, and loading an entry checks it
against its name and its outcome. The first part says with which responses such an entry may be
settled; the second part verifies the calls.
-/

namespace OciRuntime

open Durable Program

variable {sdk : Sdk} {op : StoredOperation} {target : ContainerTarget}

/-! ## Shapes -/

/-- A response that fits the request which the entry keeps. -/
def StoredOperation.Fits (sdk : Sdk) (op : StoredOperation) : StoredOperationStatus → Prop
  | .failed _ => True
  | .succeededFilesystem (.file response) =>
    op.kind = .file ∧ op.responseTargetMatches response.target = true
  | .succeededFilesystem (.filesystem response) =>
    op.kind = .filesystem ∧ op.responseTargetMatches response.target = true
  | .succeededCheckpoint response => op.kind = .checkpoint ∧
    ∃ request, op.request = some (.checkpoint request) ∧
      response.validateForRequest request = .ok ()
  | .succeededAttestation response => op.kind = .attest ∧
    ∃ request, op.request = some (.attest request) ∧
      response.validateForRequest sdk request = .ok ()
  | .succeededRestore response => op.kind = .restore ∧
    ∃ request, op.request = some (.restore request) ∧ response.restored.generation = op.generation ∧
      response.validateForRequest sdk request = .ok ()
  | _ => False

/-- An entry that keeps its request may be settled with a response that fits the request. -/
theorem OperationOk.fits (ho : OperationOk sdk s o op) (hr : op.kind.retainsRequest = true)
    (hf : op.Fits sdk outcome) : Admissible sdk op outcome := by
  refine ⟨fun hp => ?_, ?_⟩
  · rw [hp] at hf
    exact hf
  have h := ho.shape
  unfold StoredOperation.shapeFault at h ⊢
  cases hk : op.kind <;> rw [hk] at h hr <;> try cases hr
  -- the checks on the request are those the entry has passed, whatever its outcome
  all_goals
    dsimp only at h ⊢
    split at h
    · cases h
    · rename_i hs
      rw [if_neg hs]
      split at h
      · split at h
        · cases h
        · rename_i hd
          refine (if_neg hd).trans ?_
          cases outcome with
          | succeededFilesystem response =>
            cases response <;> simp_all [StoredOperation.Fits, StoredOperation.responseTargetMatches]
          | _ => simp_all [StoredOperation.Fits, Except.toOption]
      · cases h

/-- A failure is an admissible outcome of every entry. -/
theorem OperationOk.failed (ho : OperationOk sdk s o op) : Admissible sdk op (.failed error) := by
  cases hr : op.kind.retainsRequest with
  | false => exact ho.plain rfl hr rfl (by simp)
  | true => exact ho.fits hr trivial

/-- A retained request is for the container it was loaded for. -/
theorem requestTargetMatches_of_loaded (h : loadRequested sdk target name s = .ok c)
    (hi : op.containerId = c.id) (hg : op.generation = c.record.generation) :
    op.requestTargetMatches target = true := by
  obtain ⟨hl, hm⟩ := loadRequested_ok h
  unfold StoredOperation.requestTargetMatches
  rw [hi, hg, hl.id_eq, hm]
  simp

theorem Live.own (h : Live sdk s target.id stored) : Live sdk s stored.id stored :=
  h.id_eq.symm ▸ h

/-! ## File and filesystem mutations -/

section Filesystem

variable {profile : FilesystemMutationProfile}

/-- The two profiles of mutations. -/
def FilesystemMutationProfile.Known (profile : FilesystemMutationProfile) : Prop :=
  profile = fileProfile ∨ profile = filesystemProfile

theorem FilesystemMutationProfile.Known.plain (h : profile.Known) :
    profile.kind.isProcessOperation = false ∧ profile.kind.isCreation = false ∧
      profile.kind.isFencing = false ∧ profile.kind ≠ .start ∧
      profile.kind.bindsResponse = false ∧ profile.kind ≠ .delete := by
  rcases h with rfl | rfl <;> decide

theorem prepareFilesystemMutationOperation_spec (hs : Sound sdk s) (hp : profile.Known)
    (hsh : ∀ c, loadRequested sdk target profile.name s = .ok c →
      (preparedOperation cx.operationId profile.kind c.id c.record.generation none
        (some kept) digest).shapeFault sdk = none) :
    Prepares sdk cx.operationId (prepareFilesystemMutationOperation sdk clock
      cx target digest kept profile) s := by
  obtain ⟨hpc, hc, hf, hst, -⟩ := hp.plain
  refine yields_lookup (fun op hop hi => ?_) fun hn => ?_
  · rw [← hi]
    refine .check_bind fun _ hr => ?_
    obtain ⟨hk, -⟩ := validateRetry_ok hr
    split
    · rename_i hpr
      refine .read_bind fun c hso => ?_
      have hpn : Pending sdk s op := ⟨hs, hop, hpr⟩
      refine .check_bind fun _ _ => ?_
      exact claim_spec (hpn.on (loadStoredExact_ok.mp hso))
        (isLifecycle_of_kind hk hpc) (unfenced hk hf) fun _ ht => ht
    · rename_i response ho
      exact .pure ⟨op, hop, by simp [ho]⟩
    · exact .throw
    · exact .throw
  · refine .check_bind fun _ _ => ?_
    refine .read_bind fun c hso => ?_
    refine .check_bind fun _ _ => ?_
    exact journal_spec hs hn (loadRequested_ok hso).1.own (hsh c hso)
      ⟨hpc, hc⟩ (fun h => absurd h hst)
      (fun h => nomatch hf.symm.trans h) fun _ ht => ht

theorem mapReplay_isGrant {α β γ : Type} {project : β → Result γ} {p : Preparation α β}
    {q : Preparation α γ} (h : p.mapReplay project = .ok q) : q.isGrant = p.isGrant := by
  cases p with
  | prepared value => cases h; rfl
  | resume value => cases h; rfl
  | replayed value =>
    obtain ⟨_, _, rfl⟩ := map_eq_ok.mp h
    rfl

end Filesystem

theorem prepareFileMutation_spec {rq : FileRequest} (hs : Sound sdk s)
    (ho : ∀ cx, rq.context = some cx → cx.operationId = o) :
    Prepares sdk o (prepareFileMutation sdk clock rq) s := by
  refine .check_bind fun _ hv => ?_
  refine .rejectIf_bind fun hu => ?_
  refine .check_bind fun cx hc => ?_
  rw [okOr_eq_ok] at hc
  obtain rfl := ho cx hc
  refine Yields.bind (prepareFilesystemMutationOperation_spec hs (.inl rfl) ?_) ?_
  · intro stored hst
    refine (if_neg ?_).trans rfl
    rintro (h | h | h | h)
    · exact hu h
    · rw [requestTargetMatches_of_loaded hst rfl rfl] at h
      cases h
    · exact h (by rw [hc]; rfl)
    · rw [hv] at h
      cases h
  · intro preparation t ha
    refine yields_read fun r hr => ?_
    rw [mapReplay_isGrant hr]
    exact ha

theorem prepareFilesystemMutation_spec {rq : FilesystemRequest} (hs : Sound sdk s)
    (ho : ∀ cx, rq.context = some cx → cx.operationId = o) :
    Prepares sdk o (prepareFilesystemMutation sdk clock rq) s := by
  refine .check_bind fun _ hv => ?_
  refine .rejectIf_bind fun hm => ?_
  refine .check_bind fun cx hc => ?_
  rw [okOr_eq_ok] at hc
  obtain rfl := ho cx hc
  refine Yields.bind (prepareFilesystemMutationOperation_spec hs (.inr rfl) ?_) ?_
  · intro stored hst
    refine (if_neg ?_).trans rfl
    rintro (h | h | h | h)
    · exact hm h
    · rw [requestTargetMatches_of_loaded hst rfl rfl] at h
      cases h
    · exact h (by rw [hc]; rfl)
    · rw [hv] at h
      cases h
  · intro preparation t ha
    refine yields_read fun r hr => ?_
    rw [mapReplay_isGrant hr]
    exact ha

theorem filesystemOutcome_reads : ReadsOutcome filesystemOutcome := by
  intro outcome invalid done h
  cases outcome <;> cases h <;> simp

theorem completeFilesystemMutationOperation_spec (hs : Sound sdk s) (hp : profile.Known)
    (hf : ∀ op : StoredOperation, op.kind = profile.kind → op.responseTargetMatches rp.target = true →
      op.kind.retainsRequest = true ∧ op.Fits sdk (.succeededFilesystem rp)) :
    Settles sdk o (completeFilesystemMutationOperation sdk o rp profile) s := by
  obtain ⟨hpc, -, -, -, hu⟩ := hp.plain
  refine hs.completion filesystemOutcome_reads (fun _ _ => .pure rfl) ?_
  rintro op hpn rfl hk
  refine .rejectIf_bind fun htg => ?_
  refine .read_bind fun stored hst => ?_
  have h := hpn.on (loadStoredExact_ok.mp hst)
  refine .check_bind fun _ _ => ?_
  refine .check_bind fun _ ha => ?_
  obtain ⟨hr, hf⟩ := hf op hk (by simpa using htg)
  exact complete_quiet_spec h (isLifecycle_of_kind hk hpc)
    (fun d => .release h.normal (ensureActiveOperation_ok.mp ha) rfl) rfl
    (h.ok.fits hr hf) (fun _ _ => .of_kind hk hu trivial) fun _ ht => ht

theorem completeFileMutation_spec (hs : Sound sdk s) :
    Settles sdk o (completeFileMutation sdk o response) s := by
  refine Yields.bind (completeFilesystemMutationOperation_spec hs (.inl rfl)
    fun op hk ht => ⟨by rw [hk]; rfl, hk, ht⟩) ?_
  intro done t hst
  split
  · exact .pure hst
  · exact .throw

theorem completeFilesystemMutation_spec (hs : Sound sdk s) :
    Settles sdk o (completeFilesystemMutation sdk o response) s := by
  refine Yields.bind (completeFilesystemMutationOperation_spec hs (.inr rfl)
    fun op hk ht => ⟨by rw [hk]; rfl, hk, ht⟩) ?_
  intro done t hst
  split
  · exact .pure hst
  · exact .throw

/-! ## The process fence -/

theorem ensureProcessUnclaimed_ok
    (h : ensureProcessUnclaimed stored name (processFileName p) s = .ok ())
    (hp : s.process? (exactProcessTarget stored p) = some pr) : pr.isClaimed = false := by
  rw [ensureProcessUnclaimed, parseProcessFileName_record, bind_of_ok rfl] at h
  obtain ⟨found, hf, h⟩ := bind_eq_ok.mp h
  simp only [loadStoredProcess, exactProcessTarget, ContainerTarget.exact] at hf hp
  rw [hp] at hf
  obtain ⟨rfl, -⟩ := loadProcess_ok.mp hf
  simpa using h

/-- The check that Delete and Checkpoint make before they take their claim. -/
theorem ensureNoActiveProcessOperations_ok {id : ContainerId} (hl : Live sdk s id stored)
    (h : ensureNoActiveProcessOperations sdk stored name s = .ok ()) :
    ∀ d, s.containers.get? id = some d → Unowned d stored := by
  intro d hd
  obtain ⟨_, hn, h⟩ := bind_eq_ok.mp h
  obtain ⟨_, hi, -⟩ := bind_eq_ok.mp hn
  refine ⟨by simpa using hi, ?_⟩
  intro ps p pr hps hp
  rw [hl.id_eq, hd] at h
  simp only [Option.bind_some, hps] at h
  have hm : processFileName p ∈ processListing sdk ps :=
    mem_processListing.mpr (.inl ⟨(p, pr), Directory.mem_entries.mpr hp, rfl⟩)
  refine ensureProcessUnclaimed_ok (forM_eq_ok.mp h _ hm) ?_
  simp [Store.process?, exactProcessTarget, ContainerTarget.exact, hl.id_eq, hd, hps, hp]

/-! ## Checkpoint -/

theorem loadCheckpointTarget_ok (h : loadCheckpointTarget sdk target s = .ok c) :
    Live sdk s target.id c ∧ target.generation = some c.record.generation := by
  unfold loadCheckpointTarget at h
  simp only [bind_eq_ok, okOr_eq_ok, rejectIf_eq_ok, pure_eq_ok, ne_eq, not_not] at h
  obtain ⟨found, hf, expected, hx, _, hs, rfl⟩ := h
  exact ⟨loadStoredContainer_ok.mp hf, hx.trans (by rw [hs])⟩

theorem prepareCheckpoint_spec (hs : Sound sdk s) :
    Prepares sdk request.context.operationId (prepareCheckpoint sdk clock request) s := by
  refine .check_bind fun _ hv => ?_
  refine yields_lookup (fun op hop hi => ?_) fun hn => ?_
  · rw [← hi]
    refine .check_bind fun _ hr => ?_
    have hlf := isLifecycle_of_kind (validateRetry_ok hr).1 rfl
    refine .rejectIf_bind fun _ => ?_
    split
    · rename_i hp
      refine .read_bind fun stored hst => ?_
      have hpn : Pending sdk s op := ⟨hs, hop, hp⟩
      have h := hpn.on (loadStoredExact_ok.mp hst)
      refine .check_bind fun _ _ => ?_
      refine .read_bind fun _ hf => ?_
      exact claim_spec h hlf (fun _ => ensureNoActiveProcessOperations_ok h.live hf) fun _ ht => ht
    · rename_i response ho
      exact .pure ⟨op, hop, by simp [ho]⟩
    · exact .throw
    · exact .throw
  · refine .check_bind fun _ _ => ?_
    refine .read_bind fun stored hst => ?_
    obtain ⟨hl, hg⟩ := loadCheckpointTarget_ok hst
    refine .check_bind fun _ _ => ?_
    refine .read_bind fun _ hf => ?_
    refine journal_spec hs hn hl.own ?_ ⟨rfl, rfl⟩ nofun
      (fun _ => ensureNoActiveProcessOperations_ok hl.own hf) fun _ ht => ht
    refine (if_neg ?_).trans rfl
    simp [StoredOperation.requestTargetMatches, preparedOperation, hl.id_eq, hg, hv,
      Except.toOption]

theorem checkpointOutcome_reads : ReadsOutcome checkpointOutcome := by
  intro outcome invalid done h
  cases outcome <;> cases h <;> simp

theorem retainedCheckpointRequest_ok (h : retainedCheckpointRequest op = .ok request) :
    op.request = some (.checkpoint request) := by
  unfold retainedCheckpointRequest at h
  split at h
  · rename_i hr
    cases h
    exact hr
  · cases h

theorem completeCheckpoint_spec (hs : Sound sdk s) :
    Settles sdk o (completeCheckpoint sdk o response) s := by
  refine hs.completion checkpointOutcome_reads (fun _ _ => .pure rfl) ?_
  rintro op hp rfl hk
  refine .check_bind fun request hr => ?_
  refine .check_bind fun _ hv => ?_
  refine .read_bind fun stored hst => ?_
  have h := hp.on (loadStoredExact_ok.mp hst)
  refine .check_bind fun _ _ => ?_
  refine .rejectIf_bind fun _ => ?_
  refine .check_bind fun _ ha => ?_
  exact complete_quiet_spec h (isLifecycle_of_kind hk rfl)
    (fun d => .release h.normal (ensureActiveOperation_ok.mp ha) rfl) rfl
    (h.ok.fits (by rw [hk]; rfl) ⟨hk, request, retainedCheckpointRequest_ok hr, hv⟩)
    (fun _ _ => .of_kind hk (by decide) trivial) fun _ ht => ht

/-! ## Attestation -/

theorem loadAttestationTarget_ok (h : loadAttestationTarget sdk target s = .ok c) :
    Live sdk s target.id c ∧ target.generation = some c.record.generation := by
  unfold loadAttestationTarget at h
  simp only [bind_eq_ok, okOr_eq_ok, rejectIf_eq_ok, pure_eq_ok, ne_eq, not_not] at h
  obtain ⟨expected, hx, found, hf, _, hs, rfl⟩ := h
  exact ⟨loadStoredContainer_ok.mp hf, hx.trans (by rw [hs])⟩

theorem prepareAttestation_spec (hs : Sound sdk s) :
    Prepares sdk request.context.operationId (prepareAttestation sdk clock request) s := by
  refine .check_bind fun _ hv => ?_
  refine yields_lookup (fun op hop hi => ?_) fun hn => ?_
  · rw [← hi]
    refine .check_bind fun _ hr => ?_
    obtain ⟨_, hr, -⟩ := bind_eq_ok.mp hr
    obtain ⟨hk, -⟩ := validateRetry_ok hr
    split
    · rename_i hp
      refine .read_bind fun stored hst => ?_
      have hpn : Pending sdk s op := ⟨hs, hop, hp⟩
      refine .read_bind fun source _ => ?_
      exact claim_spec (hpn.on (loadStoredExact_ok.mp hst)) (isLifecycle_of_kind hk rfl)
        (unfenced hk rfl) fun _ ht => ht
    · rename_i response ho
      exact .pure ⟨op, hop, by simp [ho]⟩
    · exact .throw
    · exact .throw
  · refine .check_bind fun _ _ => ?_
    refine .read_bind fun stored hst => ?_
    obtain ⟨hl, hg⟩ := loadAttestationTarget_ok hst
    refine .read_bind fun source _ => ?_
    refine journal_spec hs hn hl.own ?_ ⟨rfl, rfl⟩ nofun nofun fun _ ht => ht
    refine (if_neg ?_).trans rfl
    simp [StoredOperation.responseTargetMatches, preparedOperation, hl.id_eq, hg, hv,
      Except.toOption]

theorem attestationOutcome_reads : ReadsOutcome attestationOutcome := by
  intro outcome invalid done h
  cases outcome <;> cases h <;> simp

theorem retainedAttestationRequest_ok (h : retainedAttestationRequest op = .ok request) :
    op.request = some (.attest request) := by
  unfold retainedAttestationRequest at h
  split at h
  · rename_i hr
    cases h
    exact hr
  · cases h

/-- The source of an attestation is bound by the directory of the live container. -/
theorem attestationSource_live {id : ContainerId} (hlv : Live sdk s id c)
    (h : validateAttestationSource sdk c s = .ok source) :
    ∃ d, s.containers.get? id = some d ∧ Loadable sdk id d c ∧
      validateAttestationBindings sdk c d = .ok source := by
  obtain ⟨d, hd, hl⟩ := hlv
  obtain ⟨_, -, h⟩ := bind_eq_ok.mp h
  refine ⟨d, hd, hl, ?_⟩
  rw [Store.directory, hl.id_eq, hd] at h
  exact h

theorem completeAttestation_spec (hs : Sound sdk s) :
    Settles sdk o (completeAttestation sdk clock o response) s := by
  refine hs.completion attestationOutcome_reads (fun _ _ => .pure rfl) ?_
  rintro op hp rfl hk
  refine .check_bind fun request hr => ?_
  refine .read_bind fun stored hso => ?_
  have h := hp.on (loadStoredExact_ok.mp hso)
  refine .read_bind fun source hsr => ?_
  refine .check_bind fun _ hbd => ?_
  obtain ⟨_, hv, -⟩ := bind_eq_ok.mp hbd
  refine .check_bind fun _ ha => ?_
  obtain ⟨hw, ht⟩ := h.write fun d =>
    .release h.normal (ensureActiveOperation_ok.mp ha) rfl
  refine .commit_bind hw ?_
  refine ht.sound.bind
    (appendOperationEvent_spec ht.sound fun _ _ hev => .other (by rw [hev]; rfl)) ?_
  intro _ u hu htu
  have hu := ht.onlyEvents hu htu
  -- the bindings are read from the configuration snapshot, which the release does not touch
  obtain ⟨d, hd, hl, hb⟩ := attestationSource_live h.live hsr
  have hr := retainedAttestationRequest_ok hr
  have hrs : ResponseBasis sdk u op (.succeededAttestation response) := by
    obtain ⟨d', hd', hl'⟩ := hu.live
    refine .attested hd' hl' h.generation hr ?_ hbd
    rw [htu.containers, Store.writeContainer_eq (hl.id_eq.symm ▸ hd), hl.id_eq,
      Store.setDirectory_self] at hd'
    cases hd'
    exact hb
  refine Yields.bind (settle_free_spec hu (isLifecycle_of_kind hk rfl) rfl
    (h.ok.fits (by rw [hk]; rfl) ⟨hk, request, hr, hv⟩) hrs) ?_
  intro _ v hst
  exact .pure hst

end OciRuntime
