import OciRuntime.State.Event

/-!
# `OciRuntime.State.Creation` — bringing a container generation into existence

What Create and Restore share: the pieces every preparation is made of, the reconciliation of a
prepared generation with what is already on disk (`state/creation.rs`) and the quarantine of a
generation whose creation failed (`state/failure.rs`).
-/

namespace OciRuntime

open Durable Program

variable (sdk : Sdk)

/-! ## Preparations -/

/-- Answer of a prepare call: the operation is new, it is resumed, or its outcome is replayed. -/
inductive Preparation (α β : Type)
  | prepared (value : α)
  | resume (value : α)
  | replayed (value : β)

/-- The caller may now drive the operation. -/
def Preparation.isGrant {α β : Type} : Preparation α β → Bool
  | .prepared _ | .resume _ => true
  | .replayed _ => false

abbrev RecordOperationPreparation := Preparation ContainerRecord ContainerRecord

/-- A new journal entry. -/
def preparedOperation (operationId : OperationId) (kind : StoredOperationKind)
    (containerId : ContainerId) (generation : Nat) (processId : Option ProcessId)
    (request : Option StoredOperationRequest) (digest : RequestDigests) : StoredOperation :=
  { schemaVersion := operationSchemaVersion, operationId, kind, containerId, generation, processId,
    request, requestDigest := digest.current, outcome := .prepared }

/-- Journal the outcome of an operation. -/
def settle (operation : StoredOperation) (outcome : StoredOperationStatus) : StoreM Unit :=
  commit (·.writeOperation { operation with outcome })

/-- Load the container a request names and enforce its optional generation fence. -/
def loadRequested (target : ContainerTarget) (operation : String) (s : Store) :
    Result StoredContainer := do
  let stored ← loadStoredContainer sdk target.id s
  match target.generation with
  | none => .ok stored
  | some expected =>
    if stored.record.generation ≠ expected then
      .error (generationConflict target.id expected stored.record.generation operation)
    else .ok stored

/-! ## Prepared generations -/

def Store.createContainerDirectory (s : Store) (id : ContainerId) : Store :=
  { s with containers := s.containers.write id .empty }

def Store.writeConfig (s : Store) (id : ContainerId) (configJson : String) : Store :=
  s.modifyContainer id fun d => { d with config := some configJson, configTransaction := false }

/-- The immutable inputs of a creation. -/
structure CreationInputs where
  id : ContainerId
  bundle : OciBundle
  isolation : IsolationClass
  attachments : CreateAttachments
  driver : DriverKind

/-- The record a creation starts with: `Creating` and claimed by its operation. -/
def creatingContainer (inputs : CreationInputs) (generation : Nat)
    (operationId : OperationId) (networkEnforcement : Option NetworkEnforcementAttachment)
    (state : State) : StoredContainer :=
  { schemaVersion := containerSchemaVersion
    id := inputs.id
    record :=
      { state, generation, driver := inputs.driver, isolation := inputs.isolation
        guestSession := inputs.attachments.guestSession
        networkEnforcement
        configDigest := inputs.bundle.configDigest
        attachmentsDigest := some (sdk.attachmentsDigest inputs.attachments) }
    attachments := some inputs.attachments
    activeOperation := some operationId
    initIoOperations := ∅
    initExitStatus := none }

/-- The stored record still describes the creation's inputs. -/
def matchesCreation (inputs : CreationInputs)
    (networkEnforcement : Option NetworkEnforcementAttachment) (stored : StoredContainer) : Bool :=
  stored.record.driver = inputs.driver ∧ stored.record.isolation = inputs.isolation ∧
    stored.record.guestSession = inputs.attachments.guestSession ∧
    stored.record.networkEnforcement = networkEnforcement ∧
    stored.record.configDigest = inputs.bundle.configDigest ∧
    stored.record.attachmentsDigest = some (sdk.attachmentsDigest inputs.attachments) ∧
    stored.attachments = some inputs.attachments

/-- Make sure the container directory exists. -/
def ensureContainerDirectory (id : ContainerId) : StoreM Unit := do
  let directory ← read fun s => .ok (s.containers.get? id)
  match directory with
  | some _ => pure ()
  | none => commit (·.createContainerDirectory id)

/-- Make sure the configuration snapshot exists and is the one of the request. -/
def ensureConfigSnapshot (id : ContainerId) (bundle : OciBundle) (operation : String) :
    StoreM Unit := do
  let config ← read fun s => .ok ((s.containers.get? id).bind (·.config))
  match config with
  | some durableConfig =>
    rejectIf (durableConfig ≠ bundle.configJson) (stateError .conflict operation
      s!"container {id.value} configuration snapshot differs from its creation request")
  | none => commit (·.writeConfig id bundle.configJson)

/-- Bring the directory, the snapshot and the record of a prepared creation into existence, keeping
    what an earlier attempt already wrote. -/
def reconcilePreparedContainer (inputs : CreationInputs) (generation : Nat)
    (operationId : OperationId) (operation : String) : StoreM StoredContainer := do
  let networkEnforcement ← check (sdk.networkEnforcement inputs.attachments inputs.bundle)
  ensureContainerDirectory inputs.id
  ensureConfigSnapshot inputs.id inputs.bundle operation
  let record ← read fun s => .ok ((s.containers.get? inputs.id).bind (·.record))
  match record with
  | some _ => do
    let stored ← read (loadStoredExact sdk inputs.id generation)
    rejectIf (!matchesCreation sdk inputs networkEnforcement stored) (stateError .conflict operation
        s!"container {inputs.id.value} durable record differs from its creation request")
    return stored
  | none => do
    let state ← check (buildState inputs.id inputs.bundle .creating none)
    let stored := creatingContainer sdk inputs generation operationId networkEnforcement state
    commit (·.writeContainer stored)
    return stored

/-! ## Failed generations -/

/-- Move a container directory into quarantine. -/
def Store.quarantineContainer (s : Store) (id : ContainerId) (tombstone : Tombstone) : Store :=
  match s.containers.get? id with
  | some directory =>
    { s with
      containers := s.containers.remove id
      quarantine := s.quarantine.write tombstone directory }
  | none => s

def StoredOperationKind.isCreation : StoredOperationKind → Bool
  | .create | .restore => true
  | _ => false

def StoredOperationStatus.isFailed : StoredOperationStatus → Bool
  | .failed _ => true
  | _ => false

/-- The tombstone a failed creation is moved to. -/
def failedCreationTombstone (operation : StoredOperation) : Tombstone :=
  ⟨operation.operationId, if operation.kind = .restore then .failedRestore else .failedCreate⟩

/-- Quarantine the generation of a failed creation, if it is still live. -/
def reconcileFailedCreation (operation : StoredOperation) : StoreM Unit := do
  let name := "reconcile-failed-creation"
  rejectIf (!operation.kind.isCreation) (stateError .failedPrecondition name
    s!"operation {operation.operationId.value} is not an OCI creation operation")
  rejectIf (!operation.outcome.isFailed) (stateError .failedPrecondition name
      s!"creation operation {operation.operationId.value} has not failed")
  let tombstone := failedCreationTombstone operation
  let source ← read fun s => .ok (s.containers.get? operation.containerId).isSome
  let quarantined ← read fun s => .ok (s.quarantine.get? tombstone).isSome
  match source, quarantined with
  | true, false => do
    let stored ← read (loadStoredExact sdk operation.containerId operation.generation)
    check (ensureActiveOperation stored operation.operationId name)
    commit (·.quarantineContainer operation.containerId tombstone)
  | true, true => do
    let live ← read (loadStoredContainer sdk operation.containerId)
    -- a different generation means that the container ID has legitimately been reused
    rejectIf (live.record.generation = operation.generation) (stateError .conflict name
      (s!"failed creation operation {operation.operationId.value} has both live state and a " ++
        "tombstone"))
  | false, _ => pure ()

def reconcileFailedCreate (operation : StoredOperation) : StoreM Unit := do
  rejectIf (operation.kind ≠ .create) (stateError .failedPrecondition "reconcile-failed-create"
    s!"operation {operation.operationId.value} is not an OCI create")
  reconcileFailedCreation sdk operation

def reconcileFailedRestore (operation : StoredOperation) : StoreM Unit := do
  rejectIf (operation.kind ≠ .restore) (stateError .failedPrecondition "reconcile-failed-restore"
    s!"operation {operation.operationId.value} is not an OCI restore")
  reconcileFailedCreation sdk operation

end OciRuntime
