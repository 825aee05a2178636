import OciRuntime.Shim.Takeover

/-!
# `OciRuntime.Shim.Rules` — the rules of the metadata file

What `ShimMetadata.validate` accepts, said about the value and not as a sequence of checks. For the
value of a task in memory the rules come in two parts: those that every change of the task keeps,
and the one that forbids a restored task an exit before its Start barrier.

## Contents
- **Journals.** `ProcessJournal.Consistent`: what `ProcessJournal.validate` accepts; every change of a
  journal keeps it (`ProcessJournal.Change.consistent`).
- **Files.** `ShimMetadata.validate_eq_ok`.
- **Tasks.** `TaskState.Valid`, `TaskState.Valid.validate_eq_ok_iff`, `rehydrateTask_valid`.
-/

namespace OciRuntime

open Durable Program

variable {context : String} {operation : PendingControlOperation}
  {ids : ShimIdentities} {metadata : ShimMetadata} {task : TaskState}

/-! ## Journals -/

/-- The rules for the journal of a process. -/
structure ProcessJournal.Consistent (journal : ProcessJournal) (allowAll : Bool) : Prop where
  closing : journal.stdinCloseState ≠ .opened → journal.pendingStdinWrite = none
  write : ∀ pending, journal.pendingStdinWrite = some pending →
    pending.validate = .ok () ∧ IsNext journal.stdinSequence pending.sequence
  plain : journal.terminal = false → journal.resizeSequence = 0 ∧ journal.pendingResize = none ∧
    journal.terminalSize = none
  size : ∀ size, journal.terminalSize = some size →
    ¬(size.width = 0 ∨ size.height = 0) ∧ journal.resizeSequence ≠ 0
  resize : ∀ pending, journal.pendingResize = some pending → pending.validate = .ok () ∧
    IsNext journal.resizeSequence pending.sequence ∧ journal.terminalSize ≠ some pending.size
  signal : ∀ pending, journal.pendingSignal = some pending → pending.validate = .ok () ∧
    IsNext journal.signalSequence pending.sequence ∧ ¬(pending.all = true ∧ allowAll = false)
  detached : journal.stdin = "" → journal.stdinSequence = 0 ∧ journal.pendingStdinWrite = none ∧
    journal.stdinCloseState = .opened

theorem validateStdinState_eq_ok :
    validateStdinState completed pending closeState context = .ok () ↔
      (closeState ≠ .opened → pending = none) ∧ ∀ write, pending = some write →
        write.validate = .ok () ∧ IsNext completed write.sequence := by
  cases pending with
  | none => simp [validateStdinState, rejectIf]
  | some write => simp [validateStdinState, unit_bind_eq_ok]

theorem validateResizeState_eq_ok :
    validateResizeState completed pending terminalSize terminal context = .ok () ↔
      (terminal = false → completed = 0 ∧ pending = none ∧ terminalSize = none) ∧
      (∀ size, terminalSize = some size → ¬(size.width = 0 ∨ size.height = 0) ∧ completed ≠ 0) ∧
      ∀ resize, pending = some resize → resize.validate = .ok () ∧
        IsNext completed resize.sequence ∧ terminalSize ≠ some resize.size := by
  cases pending <;> cases terminalSize <;>
    simp [validateResizeState, validateTerminalSize, unit_bind_eq_ok, and_assoc]

theorem validateSignalState_eq_ok :
    validateSignalState completed pending allowAll context = .ok () ↔
      ∀ signal, pending = some signal → signal.validate = .ok () ∧
        IsNext completed signal.sequence ∧ ¬(signal.all = true ∧ allowAll = false) := by
  cases pending <;> simp [validateSignalState, unit_bind_eq_ok]

namespace ProcessJournal

theorem validate_eq_ok_iff {journal : ProcessJournal} :
    journal.validate allowAll context = .ok () ↔ journal.Consistent allowAll := by
  simp only [ProcessJournal.validate, unit_bind_eq_ok, validateStdinState_eq_ok,
    validateResizeState_eq_ok, validateSignalState_eq_ok, rejectIf_eq_ok]
  have hd : (¬(journal.stdin = "" ∧ (journal.stdinSequence ≠ 0 ∨
      journal.pendingStdinWrite.isSome = true ∨ journal.stdinCloseState ≠ .opened))) ↔
      (journal.stdin = "" → journal.stdinSequence = 0 ∧ journal.pendingStdinWrite = none ∧
        journal.stdinCloseState = .opened) := by
    simp [not_or]
  rw [hd]
  constructor
  · rintro ⟨⟨hc, hw⟩, ⟨hp, hsz, hr⟩, hs, hd⟩
    exact ⟨hc, hw, hp, hsz, hr, hs, hd⟩
  · rintro ⟨hc, hw, hp, hsz, hr, hs, hd⟩
    exact ⟨⟨hc, hw⟩, ⟨hp, hsz, hr⟩, hs, hd⟩

theorem consistent_new (stdin stdout stderr : String) (terminal allowAll : Bool) :
    (ProcessJournal.new stdin stdout stderr terminal).Consistent allowAll where
  closing := fun _ => rfl
  write := by rintro _ ⟨⟩
  plain := fun _ => ⟨rfl, rfl, rfl⟩
  size := by rintro _ ⟨⟩
  resize := by rintro _ ⟨⟩
  signal := by rintro _ ⟨⟩
  detached := fun _ => ⟨rfl, rfl, rfl⟩

variable {journal changed : ProcessJournal}

/-- The exit and the output cursor are in no rule. -/
theorem Consistent.congr (h : journal.Consistent allowAll) (cursor : Nat)
    (exit : Option ExitStatus) (exitedAt : Option Nat) :
    { journal with outputCursor := cursor, exit, exitedAt }.Consistent allowAll :=
  ⟨h.closing, h.write, h.plain, h.size, h.resize, h.signal, h.detached⟩

/-- What is pending does not say anything about the size; what is settled sets it. -/
theorem Consistent.resized (h : journal.Consistent allowAll) {operation : PendingResize}
    (hp : journal.pendingResize = some operation)
    (hnx : IsNext journal.resizeSequence operation.sequence) (applied : Bool) :
    { journal with
      resizeSequence := operation.sequence
      pendingResize := none
      terminalSize := if applied then some operation.size else
        journal.terminalSize }.Consistent allowAll := by
  obtain ⟨hv, -, -⟩ := h.resize operation hp
  have hs : ¬(operation.size.width = 0 ∨ operation.size.height = 0) := by
    simp only [PendingResize.validate, validateTerminalSize, unit_bind_eq_ok, rejectIf_eq_ok] at hv
    exact hv.2
  have hnn : operation.sequence ≠ 0 := by
    have := hnx.1
    omega
  refine ⟨h.closing, h.write, fun hpl => ?_, fun size hn => ?_,
    (by rintro _ ⟨⟩), h.signal, h.detached⟩
  · -- a process without a terminal has no pending resize
    rw [(h.plain hpl).2.1] at hp
    cases hp
  · by_cases ha : applied = true
    · rw [if_pos ha] at hn
      cases hn
      exact ⟨hs, hnn⟩
    · rw [if_neg ha] at hn
      exact ⟨(h.size size hn).1, hnn⟩

theorem Change.consistent (h : journal.Change allowAll changed)
    (hj : journal.Consistent allowAll) : changed.Consistent allowAll := by
  cases h with
  | output cursor => exact hj.congr cursor journal.exit journal.exitedAt
  | stdin sequence pending closeState hs hc hw =>
    exact ⟨hc, hw, hj.plain, hj.size, hj.resize, hj.signal, fun he => absurd he hs⟩
  | signalPrepared operation _ hv hn ho =>
    refine ⟨hj.closing, hj.write, hj.plain, hj.size, hj.resize, fun pending hp => ?_, hj.detached⟩
    cases hp
    exact ⟨hv, hn, ho⟩
  | signalSettled operation =>
    exact ⟨hj.closing, hj.write, hj.plain, hj.size, hj.resize, (by rintro _ ⟨⟩), hj.detached⟩
  | resizePrepared operation _ ht hth hv hn =>
    refine ⟨hj.closing, hj.write, fun hpl => ?_, hj.size,
      fun pending hp => ?_, hj.signal, hj.detached⟩
    · rw [ht] at hpl
      cases hpl
    · cases hp
      exact ⟨hv, hn, hth⟩
  | resizeSettled operation applied hp hn => exact hj.resized hp hn applied

end ProcessJournal

/-! ## Tasks -/

/-- `sha256:` and 64 lowercase hexadecimal digits. -/
def IsSha256Digest (digest : String) : Prop := validateSha256Digest digest "" = .ok ()

theorem validateSha256Digest_eq_ok :
    validateSha256Digest digest context = .ok () ↔ IsSha256Digest digest := by
  unfold IsSha256Digest validateSha256Digest
  split <;> simp

/-- The rules for an exec. -/
structure ExecMetadata.Valid (execSequence : Nat) (exec : ExecMetadata) : Prop where
  named : exec.execId ≠ ""
  numbered : exec.incarnation ≤ execSequence
  journal : exec.toProcessJournal.Consistent false

/-- Execs are ordered by their IDs, and only execs of older schemas have no incarnation. -/
def ExecMetadata.Precedes (first second : ExecMetadata) : Prop :=
  first.execId < second.execId ∧ (second.incarnation ≠ 0 → second.incarnation ≠ first.incarnation)

theorem validateExecs_eq_ok : validateExecs execSequence previous seen execs = .ok () ↔
      (∀ exec ∈ execs, exec.Valid execSequence) ∧ execs.Pairwise ExecMetadata.Precedes ∧
      (∀ exec ∈ execs, (∀ id, previous = some id → id < exec.execId) ∧
        (exec.incarnation ≠ 0 → exec.incarnation ∉ seen)) := by
  induction execs generalizing previous seen with
  | nil => simp [validateExecs]
  | cons exec rest ih =>
    simp only [validateExecs, unit_bind_eq_ok, rejectIf_eq_ok, ih,
      ProcessJournal.validate_eq_ok_iff, List.forall_mem_cons, List.pairwise_cons,
      Option.some.injEq, forall_eq', not_lt, not_and]
    have hpr : (¬(previous.any fun value => decide (exec.execId ≤ value)) = true) ↔
        ∀ id, previous = some id → id < exec.execId := by
      cases previous <;> simp
    have hs : ∀ other : ExecMetadata, other.incarnation ≠ 0 → (other.incarnation ∉
        (if exec.incarnation ≠ 0 then exec.incarnation :: seen else seen) ↔
        other.incarnation ≠ exec.incarnation ∧ other.incarnation ∉ seen) := by
      intro other ht
      split
      · rw [List.mem_cons, not_or]
      · rename_i hz
        rw [not_not] at hz
        rw [hz]
        exact ⟨fun h => ⟨ht, h⟩, fun h => h.2⟩
    rw [hpr]
    constructor
    · rintro ⟨hnm, ha, hn, hf, hj, hv, ho, hr⟩
      refine ⟨⟨⟨hnm, hn, hj⟩, hv⟩, ⟨fun other ht => ?_, ho⟩,
        ⟨ha, hf⟩, fun other ht => ⟨fun id hi => ?_, fun hz => ?_⟩⟩
      · exact ⟨(hr other ht).1, fun hz =>
          ((hs other hz).mp ((hr other ht).2 hz)).1⟩
      · exact (ha id hi).trans (hr other ht).1
      · exact ((hs other hz).mp ((hr other ht).2 hz)).2
    · rintro ⟨⟨⟨hnm, hn, hj⟩, hv⟩, ⟨hp, ho⟩, ⟨ha, hf⟩, hr⟩
      refine ⟨hnm, ha, hn, hf, hj, hv, ho, fun other ht => ⟨(hp other ht).1, fun hz => ?_⟩⟩
      exact (hs other hz).mpr ⟨(hp other ht).2 hz, (hr other ht).2 hz⟩

/-- The schema that a pending operation is written under. -/
def PendingControlOperation.schema (operation : PendingControlOperation) : Nat :=
  if operation.isLegacyUpdate then controlResourcesSchemaVersion - 1 else metadataSchemaVersion

/-- The rules of the file for a task, but for the one that forbids an exit before the Start barrier
    of a restored task. -/
structure TaskState.Valid (ids : ShimIdentities) (task : TaskState) : Prop where
  generation : task.record.generation ≠ 0
  barrier : task.restoreState = .pendingStart → task.controlSequence = 0 ∧
    task.pendingControl = none ∧ task.lastUpdateDigest = none ∧ task.execSequence = 0 ∧
    task.execs = [] ∧ (task.exit = none → task.exitedAt = none)
  schema : task.restoreState ≠ .none → ∀ operation, task.pendingControl = some operation →
    operation.isLegacyUpdate = false
  journal : task.toProcessJournal.Consistent true
  control : ∀ operation, task.pendingControl = some operation →
    operation.validateForSchema ids operation.schema = .ok () ∧
      IsNext task.controlSequence operation.sequence
  updated : ∀ digest, task.lastUpdateDigest = some digest →
    task.controlSequence ≠ 0 ∧ IsSha256Digest digest
  bundle : task.bundle.startsWith "/" = true
  identity : TaskIdentity.withOptionalIncarnation ids task.identity.namespace_ task.identity.taskId
    task.identity.incarnation = .ok task.identity
  execs : ∀ exec ∈ task.execs, exec.Valid task.execSequence
  ordered : task.execs.Pairwise ExecMetadata.Precedes

theorem ShimMetadata.validateControl_eq_ok : metadata.validateControl ids = .ok () ↔
      (∀ operation, metadata.pendingControl = some operation →
        operation.validateForSchema ids metadata.schemaVersion = .ok () ∧
          IsNext metadata.controlSequence operation.sequence) ∧
      ∀ digest, metadata.lastUpdateDigest = some digest →
        metadata.controlSequence ≠ 0 ∧ IsSha256Digest digest := by
  unfold ShimMetadata.validateControl
  cases metadata.pendingControl <;> cases metadata.lastUpdateDigest <;>
    simp [unit_bind_eq_ok, validateSha256Digest_eq_ok, and_assoc]

theorem ShimMetadata.validate_eq_ok {directory : String} :
    metadata.validate ids directory = .ok () ↔ ¬(metadata.schemaVersion < minMetadataSchemaVersion ∨
        metadataSchemaVersion < metadata.schemaVersion) ∧
      metadata.generation ≠ 0 ∧ metadata.validateSchema = .ok () ∧
      (metadata.restoreState = .pendingStart → metadata.controlSequence = 0 ∧
        metadata.pendingControl = none ∧ metadata.lastUpdateDigest = none ∧ metadata.exit = none ∧
        metadata.exitedAt = none ∧ metadata.execSequence = 0 ∧ metadata.execs = []) ∧
      metadata.toProcessJournal.Consistent true ∧ metadata.validateControl ids = .ok () ∧
      metadata.bundle.startsWith "/" = true ∧ metadata.bundle = directory ∧
      (∃ identity, metadata.identity ids = .ok identity) ∧
      (∀ exec ∈ metadata.execs, exec.Valid metadata.execSequence) ∧
      metadata.execs.Pairwise ExecMetadata.Precedes := by
  have hb : (¬(metadata.restoreState = .pendingStart ∧ (metadata.controlSequence ≠ 0 ∨
      metadata.pendingControl.isSome = true ∨ metadata.lastUpdateDigest.isSome = true ∨
      metadata.exit.isSome = true ∨ metadata.exitedAt.isSome = true ∨
      metadata.execSequence ≠ 0 ∨ metadata.execs ≠ []))) ↔
      (metadata.restoreState = .pendingStart → metadata.controlSequence = 0 ∧
        metadata.pendingControl = none ∧ metadata.lastUpdateDigest = none ∧ metadata.exit = none ∧
        metadata.exitedAt = none ∧ metadata.execSequence = 0 ∧ metadata.execs = []) := by
    simp [not_or]
  have hx : validateExecs metadata.execSequence none [] metadata.execs = .ok () ↔
      (∀ exec ∈ metadata.execs, exec.Valid metadata.execSequence) ∧
        metadata.execs.Pairwise ExecMetadata.Precedes := by
    rw [validateExecs_eq_ok]
    simp
  have hd : ∀ f : TaskIdentity → Result Unit, (∀ identity, f identity =
      validateExecs metadata.execSequence none [] metadata.execs) →
      ((metadata.identity ids >>= f) = .ok () ↔ (∃ identity, metadata.identity ids = .ok identity) ∧
        validateExecs metadata.execSequence none [] metadata.execs = .ok ()) := by
    intro f hf
    simp only [bind_eq_ok, hf]
    exact ⟨fun ⟨identity, ho, hr⟩ => ⟨⟨identity, ho⟩, hr⟩,
      fun ⟨⟨identity, ho⟩, hr⟩ => ⟨identity, ho, hr⟩⟩
  simp only [ShimMetadata.validate, unit_bind_eq_ok, rejectIf_eq_ok, hb,
    ProcessJournal.validate_eq_ok_iff, Bool.not_eq_false, not_not,
    hd _ (fun _ => rfl), hx]

/-- The schema matters only to the resources of an Update. -/
theorem PendingControlOperation.validateForSchema_eq_ok :
    operation.validateForSchema ids version = .ok () ↔
      operation.sequence ≠ 0 ∧ operation.validateRequest ids = .ok () ∧
      (operation.resources.isSome = true → controlResourcesSchemaVersion ≤ version) ∧
      (controlResourcesSchemaVersion ≤ version → operation.isLegacyUpdate = false) := by
  simp only [PendingControlOperation.validateForSchema, unit_bind_eq_ok, rejectIf_eq_ok,
    PendingControlOperation.isLegacyUpdate]
  have hr : (¬(version < controlResourcesSchemaVersion ∧ operation.resources.isSome = true)) ↔
      (operation.resources.isSome = true → controlResourcesSchemaVersion ≤ version) := by
    rw [not_and, ← not_lt]
    exact ⟨fun h hs hlt => h hlt hs, fun h hlt hs => h hs hlt⟩
  have hl : (¬(controlResourcesSchemaVersion ≤ version ∧ operation.kind = .update ∧
      operation.resources = none)) ↔ (controlResourcesSchemaVersion ≤ version →
        (operation.kind == .update && operation.resources.isNone) = false) := by
    simp [Option.isSome_iff_ne_none]
  rw [hr, hl]

/-- What is valid under some schema is valid under the one it is written under. -/
theorem PendingControlOperation.validateForSchema_schema
    (h : operation.validateForSchema ids version = .ok ()) :
    operation.validateForSchema ids operation.schema = .ok () := by
  rw [validateForSchema_eq_ok] at h ⊢
  obtain ⟨hs, hr, -, -⟩ := h
  refine ⟨hs, hr, fun hsm => ?_, fun hv => ?_⟩
  · -- an operation with resources is no legacy Update
    have hl : operation.isLegacyUpdate = false := by
      rw [isLegacyUpdate, ← Option.not_isSome, hsm]
      simp
    rw [schema, hl]
    decide
  · by_contra hl
    rw [schema, Bool.not_eq_false _ |>.mp hl] at hv
    revert hv
    decide

/-- A schema that knows restores accepts only operations with their resources. -/
theorem PendingControlOperation.not_isLegacyUpdate (hv : controlResourcesSchemaVersion ≤ version)
    (h : operation.validateForSchema ids version = .ok ()) : operation.isLegacyUpdate = false :=
  (validateForSchema_eq_ok.mp h).2.2.2 hv

theorem TaskIdentity.withOptionalIncarnation_eq_ok {namespace_ taskId : String}
    {incarnation : Option IncarnationId} {identity : TaskIdentity} :
    TaskIdentity.withOptionalIncarnation ids namespace_ taskId incarnation = .ok identity ↔
      ¬(namespace_ = "" ∨ taskId = "") ∧
      identity = ⟨namespace_, taskId, incarnation, ids.containerId namespace_ taskId⟩ := by
  rw [TaskIdentity.withOptionalIncarnation, unit_bind_eq_ok, rejectIf_eq_ok, Except.ok.injEq,
    eq_comm (a := identity)]

theorem ShimMetadata.identity_eq_ok {identity : TaskIdentity} :
    metadata.identity ids = .ok identity ↔
      identity.incarnation.map (·.value) = metadata.incarnation ∧
      identity.namespace_ = metadata.namespace_ ∧ identity.taskId = metadata.taskId ∧
      identity.containerId = metadata.containerId ∧
      TaskIdentity.withOptionalIncarnation ids identity.namespace_ identity.taskId
        identity.incarnation = .ok identity := by
  -- the recorded incarnation, once it is read
  have hr : ∀ incarnation : Option IncarnationId,
      ((TaskIdentity.withOptionalIncarnation ids metadata.namespace_ metadata.taskId
          incarnation >>= fun identity => do
        rejectIf (identity.containerId ≠ metadata.containerId) (metadataError
          (s!"shim metadata identity resolves to {identity.containerId.value}, " ++
            s!"but records {metadata.containerId.value}"))
        .ok identity) = .ok identity) ↔
      identity.incarnation = incarnation ∧
        identity.namespace_ = metadata.namespace_ ∧ identity.taskId = metadata.taskId ∧
        identity.containerId = metadata.containerId ∧
        TaskIdentity.withOptionalIncarnation ids identity.namespace_ identity.taskId
          identity.incarnation = .ok identity := by
    intro incarnation
    simp only [bind_eq_ok, rejectIf_eq_ok, not_not]
    constructor
    · rintro ⟨read, hr, _, hc, h⟩
      cases h
      obtain ⟨hnm, rfl⟩ := TaskIdentity.withOptionalIncarnation_eq_ok.mp hr
      exact ⟨rfl, rfl, rfl, hc, hr⟩
    · rintro ⟨rfl, hns, ht, hc, h⟩
      rw [hns, ht] at h
      exact ⟨identity, h, (), hc, rfl⟩
  unfold ShimMetadata.identity
  cases hi : metadata.incarnation with
  | none =>
    refine (hr none).trans ?_
    rw [Option.map_eq_none_iff]
  | some value =>
    by_cases hv : isIncarnation value = true
    · have hn : IncarnationId.new value = .ok ⟨value, hv⟩ := dif_pos hv
      simp only [hn]
      refine (hr (some ⟨value, hv⟩)).trans ?_
      refine and_congr_left fun _ => ?_
      rw [Option.map_eq_some_iff]
      constructor
      · intro h
        exact ⟨_, h, rfl⟩
      · rintro ⟨incarnation, h, rfl⟩
        exact h
    · have hn : ∃ error, IncarnationId.new value = .error error := ⟨_, dif_neg hv⟩
      obtain ⟨error, hn⟩ := hn
      simp only [hn]
      constructor
      · intro h
        cases h
      · rintro ⟨h, -⟩
        obtain ⟨incarnation, -, rfl⟩ := Option.map_eq_some_iff.mp h
        exact absurd incarnation.valid hv

theorem IncarnationId.value_injective :
    Function.Injective (fun incarnation : IncarnationId => incarnation.value) := by
  intro first second h
  cases first
  cases second
  cases h
  rfl

theorem metadataFromTask_identity :
    (∃ identity, (metadataFromTask task).identity ids = .ok identity) ↔
      TaskIdentity.withOptionalIncarnation ids task.identity.namespace_ task.identity.taskId
        task.identity.incarnation = .ok task.identity := by
  constructor
  · rintro ⟨⟨namespace_, taskId, incarnation, containerId⟩, h⟩
    obtain ⟨hi, rfl, rfl, rfl, h⟩ := ShimMetadata.identity_eq_ok.mp h
    cases Option.map_injective IncarnationId.value_injective hi
    exact h
  · intro h
    exact ⟨task.identity, ShimMetadata.identity_eq_ok.mpr ⟨rfl, rfl, rfl, rfl, h⟩⟩

/-- A task is written under one of the two last schemas. -/
theorem metadataFromTask_schema (task : TaskState) :
    (metadataFromTask task).schemaVersion = controlResourcesSchemaVersion - 1 ∨
      (metadataFromTask task).schemaVersion = metadataSchemaVersion := by
  simp only [metadataFromTask]
  split
  · exact .inl rfl
  · exact .inr rfl

theorem metadataFromTask_validateSchema :
    (metadataFromTask task).validateSchema = .ok () ↔
      (task.restoreState ≠ .none → ∀ operation, task.pendingControl = some operation →
        operation.isLegacyUpdate = false) := by
  -- both schemas know everything but the state of a restore, which only the last one knows
  have hs : (metadataFromTask task).validateSchema = .ok () ↔
      ¬((metadataFromTask task).schemaVersion < 10 ∧ task.restoreState ≠ .none) := by
    simp only [ShimMetadata.validateSchema, unit_bind_eq_ok, rejectIf_eq_ok]
    rcases metadataFromTask_schema task with h | h
    all_goals
      rw [h]
      simp [controlResourcesSchemaVersion, metadataSchemaVersion, metadataFromTask]
  rw [hs, not_and']
  refine forall_congr' fun _ => ?_
  cases hp : task.pendingControl with
  | none => simp [metadataFromTask, hp, metadataSchemaVersion]
  | some operation =>
    cases hl : operation.isLegacyUpdate <;>
      simp [metadataFromTask, hp, hl, metadataSchemaVersion,
        controlResourcesSchemaVersion]

/-- **The rules of a valid task.** The file refuses a valid task only for an exit before the Start
    barrier. -/
theorem TaskState.Valid.validate_eq_ok_iff (h : task.Valid ids) :
    (metadataFromTask task).validate ids task.bundle = .ok () ↔
      ¬(task.restoreState = .pendingStart ∧ task.exit.isSome = true) := by
  have hc : (metadataFromTask task).validateControl ids = .ok () := by
    rw [ShimMetadata.validateControl_eq_ok]
    refine ⟨fun operation hpr => ?_, h.updated⟩
    have hs : (metadataFromTask task).schemaVersion = operation.schema := by
      have hp : task.pendingControl = some operation := hpr
      simp [metadataFromTask, hp, PendingControlOperation.schema]
    rw [hs]
    exact h.control operation hpr
  have hv : ¬((metadataFromTask task).schemaVersion < minMetadataSchemaVersion ∨
      metadataSchemaVersion < (metadataFromTask task).schemaVersion) := by
    rcases metadataFromTask_schema task with hs | hs
    all_goals
      rw [hs]
      decide
  rw [ShimMetadata.validate_eq_ok]
  constructor
  · rintro ⟨-, -, -, hb, -⟩ ⟨hp, hx⟩
    have hnn : task.exit = none := (hb hp).2.2.2.1
    rw [hnn] at hx
    cases hx
  · intro hx
    refine ⟨hv, h.generation, metadataFromTask_validateSchema.mpr h.schema,
      fun hp => ?_, h.journal, hc, h.bundle, rfl,
      metadataFromTask_identity.mpr h.identity, h.execs, h.ordered⟩
    obtain ⟨hsq, hnn, hd, hxc, he, ht⟩ := h.barrier hp
    have hn : task.exit = none := by
      rw [← Option.not_isSome_iff_eq_none]
      exact fun hsm => hx ⟨hp, hsm⟩
    exact ⟨hsq, hnn, hd, hn, ht hn, hxc, he⟩

/-- A task that is rebuilt from an accepted file is valid. -/
theorem rehydrateTask_valid (hv : metadata.validate ids directory = .ok ())
    (h : rehydrateTask ids answers namespace_ taskId metadata = .ok task) : task.Valid ids := by
  obtain ⟨hvr, hg, hs, hb, hj, hc, hbn, -, -, hxc, hor⟩ := ShimMetadata.validate_eq_ok.mp hv
  obtain ⟨hpn, hu⟩ := ShimMetadata.validateControl_eq_ok.mp hc
  simp only [rehydrateTask, bind_eq_ok, rejectIf_eq_ok, not_or, not_not] at h
  obtain ⟨identity, hdn, -, -, record, -, -, hsa, restoreState, hr, h⟩ := h
  cases h
  -- the barrier of the file is at least as strict as the one in memory
  have hbr : (restoreState = .pendingStart → metadata.restoreState = .pendingStart) ∧
      (restoreState ≠ .none → metadata.restoreState ≠ .none) := by
    unfold restoredStartBarrier at hr
    split at hr
    · rename_i hst
      rw [hst]
      exact ⟨fun _ => rfl, fun _ => by decide⟩
    · cases hr
      exact ⟨id, id⟩
  refine ⟨hsa.1 ▸ hg, fun hp => ?_, fun hn operation hpr => ?_,
    hj, fun operation hpr => ?_, hu, hbn,
    (ShimMetadata.identity_eq_ok.mp hdn).2.2.2.2, hxc, hor⟩
  · obtain ⟨hsq, hnn, hd, -, ht, hx, he⟩ :=
      hb (hbr.1 hp)
    exact ⟨hsq, hnn, hd, hx, he, fun _ => ht⟩
  · -- only the last schema knows a restore
    simp only [ShimMetadata.validateSchema, unit_bind_eq_ok, rejectIf_eq_ok] at hs
    have hnw : ¬metadata.schemaVersion < 10 := fun hold =>
      hs.2.2.2.2.2.2 ⟨hold, hbr.2 hn⟩
    refine PendingControlOperation.not_isLegacyUpdate ?_ (hpn operation hpr).1
    rw [controlResourcesSchemaVersion]
    omega
  · obtain ⟨ho, hnx⟩ := hpn operation hpr
    exact ⟨PendingControlOperation.validateForSchema_schema ho, hnx⟩

end OciRuntime
