import OciRuntime.State.Checkpoint

/-!
# `OciRuntime.State.Restore` — restoring a checkpoint into a new generation

`state/restore.rs`. A restore is a creation: it allocates a generation, journals itself with its
whole request and brings the record into existence; its completion commits a paused running
container.
-/

namespace OciRuntime

open Durable Program

variable (sdk : Sdk) (clock : Clock)

abbrev RestoreOperationPreparation := Preparation ContainerRecord RestoreResponse

def invalidRestoreOutcome (operationId : OperationId) : Error :=
  stateError .failedPrecondition "restore"
    s!"restore operation {operationId.value} has an invalid durable outcome"

def retainedRestoreRequest (operation : StoredOperation) : Result RestoreRequest :=
  match operation.request with
  | some (.restore request) => .ok request
  | _ => .error (stateError .failedPrecondition "restore"
      s!"restore operation {operation.operationId.value} has no retained request")

def validateRestoreRetry (operation : StoredOperation) (request : RestoreRequest)
    (digest : RequestDigests) : Result Unit := do
  let operationId := request.context.operationId
  validateRetry operation operationId .restore request.id digest "restore"
  rejectIf (operation.request ≠ some (.restore request)) (stateError .failedPrecondition "restore"
    s!"operation ID {operationId.value} was already used for a different restore request")

def RestoreRequest.inputs (request : RestoreRequest) (driver : DriverKind) : CreationInputs :=
  { id := request.id, bundle := request.bundle, isolation := request.isolation.class,
    attachments := request.attachments, driver }

/-- The driver must be the one the reference was taken with. -/
def validateRestoreDriver (request : RestoreRequest) (driver : DriverKind) : Result Unit := do
  let reference ← request.requireReference
  rejectIf (reference.driver ≠ driver) (stateError .failedPrecondition "reconcile-restore"
    "selected restore driver does not match the immutable checkpoint reference")

def reconcilePreparedRestore (request : RestoreRequest) (driver : DriverKind)
    (generation : Nat) : StoreM StoredContainer := do
  check (validateRestoreDriver request driver)
  reconcilePreparedContainer sdk (request.inputs driver) generation request.context.operationId
    "reconcile-restore"

def appendRestoreCreatingEvent (clock : Clock) (request : RestoreRequest) (generation : Nat) :
    StoreM Unit :=
  let operationId := request.context.operationId
  appendOperationEvent clock operationId .restoring (.exact request.id generation)
    .containerCreating (operationAttributes operationId)

/-- Active operations under which a replayed restore accepts a replaced process ID. -/
def restoreRebindAllowed : StoredOperationKind → Bool
  | .kill | .pause | .resume | .update | .file | .filesystem | .checkpoint => true
  | _ => false

/-- Replay a completed restore, following a process ID that recovery has replaced since. -/
def reconcileSucceededRestore (operation : StoredOperation)
    (response : RestoreResponse) : StoreM RestoreResponse := do
  let name := "reconcile-succeeded-restore"
  let live ← read (loadForReplay sdk operation)
  match live with
  | none => pure response
  | some stored =>
    let restored := response.restored
    if stored.record.generation ≠ operation.generation ∨ restored = stored.record ∨
        stored.record.state.status ≠ .running ∨ !isPaused stored.record.state ∨
        restored.state.status ≠ .running ∨ !restored.isPaused then
      pure response
    else do
      let allowed ← read (activeAllowsRebind sdk stored restoreRebindAllowed)
      let expectedState ← check (rebuildPausedState
        (rebuildState restored.state .running stored.record.state.pid) true)
      rejectIf (!allowed ∨ { restored with state := expectedState } ≠ stored.record)
        (stateError .conflict name
          (s!"completed restore operation {operation.operationId.value} changed beyond its " ++
            "recovered process identity"))
      let rebound ← check (RestoreResponse.new sdk stored.record response.reference)
      let request ← check (retainedRestoreRequest operation)
      check (rebound.validateForRequest sdk request)
      settle operation (.succeededRestore rebound)
      return rebound

/-- Check durable restore replay before touching the caller-owned artifact; `none` is pending. -/
def lookupRestore (request : RestoreRequest) : StoreM (Option RestoreResponse) := do
  let operationId := request.context.operationId
  check (request.validate sdk)
  let digest ← check (restoreRequestDigest sdk request)
  let journaled ← read (loadOperationIfPresent sdk operationId)
  match journaled with
  | none => pure none
  | some operation => do
    check (validateRestoreRetry operation request digest)
    match operation.outcome with
    | .prepared => pure none
    | .succeededRestore response => do
      let replayed ← reconcileSucceededRestore sdk operation response
      return some replayed
    | .failed error => do
      reconcileFailedRestore sdk operation
      throw error
    | _ => throw (invalidRestoreOutcome operationId)

/-- Reserve a new restoring generation. -/
def prepareRestore (request : RestoreRequest) (driver : DriverKind) :
    StoreM RestoreOperationPreparation := do
  let operationId := request.context.operationId
  check (request.validate sdk)
  let digest ← check (restoreRequestDigest sdk request)
  let journaled ← read (loadOperationIfPresent sdk operationId)
  match journaled with
  | some operation => do
    check (validateRestoreRetry operation request digest)
    match operation.outcome with
    | .prepared => do
      let stored ← reconcilePreparedRestore sdk request driver operation.generation
      let claimed ← claimActiveOperation sdk stored operationId .restore "restore"
      appendRestoreCreatingEvent clock request claimed.record.generation
      return .resume claimed.record
    | .succeededRestore response => do
      let replayed ← reconcileSucceededRestore sdk operation response
      return .replayed replayed
    | .failed error => do
      reconcileFailedRestore sdk operation
      throw error
    | _ => throw (invalidRestoreOutcome operationId)
  | none => do
    check (validateDeadline clock request.context "restore")
    let directory ← read fun s => .ok (s.containers.get? request.id)
    rejectIf directory.isSome (stateError .alreadyExists "restore"
      s!"container {request.id.value} already exists")
    let generation ← nextGeneration request.id
    commit (·.writeOperation (preparedOperation operationId .restore request.id generation none
      (some (.restore request)) digest))
    let stored ← reconcilePreparedRestore sdk request driver generation
    appendRestoreCreatingEvent clock request stored.record.generation
    return .prepared stored.record

/-! ## Completion -/

/-- Outcome of a restore: `none` while it is prepared. -/
def restoreOutcome (outcome : StoredOperationStatus) (invalid : Error) :
    Result (Option RestoreResponse) :=
  match outcome with
  | .prepared => .ok none
  | .succeededRestore response => .ok (some response)
  | .failed error => .error error
  | _ => .error invalid

/-- The state a completed restore commits: paused and running. -/
def restoredState (operation : StoredOperation) (stored : StoredContainer) (pid : Int) :
    Result State :=
  let name := "complete-restore"
  let state := stored.record.state
  match state.status with
  | .creating => do
    rejectIf (stored.activeOperation ≠ some operation.operationId) (stateError .conflict name
      (s!"restoring container {operation.containerId.value} is not owned by operation " ++
        operation.operationId.value))
    let rebuilt ← rebuildPausedState (rebuildState state .running (some pid)) true
    validateState rebuilt
    return rebuilt
  | status =>
    if status = .running ∧ state.pid = some pid ∧ isPaused state then .ok state
    else .error (stateError .conflict name
      (s!"container {operation.containerId.value} cannot complete restore as PID {pid} while " ++
        s!"{status.text} with PID {debugPid state.pid} and paused={isPaused state}"))

def appendRestoredEvents (clock : Clock) (operation : StoredOperation) : StoreM Unit := do
  let operationId := operation.operationId
  let target := ContainerTarget.exact operation.containerId operation.generation
  let attributes := operationAttributes operationId
  appendOperationEvent clock operationId .restoreCreated target .containerCreated attributes
  appendOperationEvent clock operationId .restoreStarted target .containerStarted attributes
  appendOperationEvent clock operationId .restorePaused target .containerPaused attributes

/-- The response of a completed restore; it is checked only after the record was committed. -/
def restoreResponse (request : RestoreRequest) (restored : ContainerRecord) :
    Result RestoreResponse := do
  let reference ← request.requireReference
  let response ← RestoreResponse.new sdk restored reference
  response.validateForRequest sdk request
  return response

def completeRestore (operationId : OperationId) (pid : Int) : StoreM RestoreResponse := do
  let name := "complete-restore"
  rejectIf (pid ≤ 0) (stateError .invalidArgument name
    s!"restored container PID must be positive; received {pid}")
  let operation ← read (loadOperation sdk operationId)
  rejectIf (operation.kind ≠ .restore) (invalidRestoreOutcome operationId)
  let done ← check (restoreOutcome operation.outcome (invalidRestoreOutcome operationId))
  match done with
  | some response => pure response
  | none => do
    let request ← check (retainedRestoreRequest operation)
    let stored ← read (loadStoredExact sdk operation.containerId operation.generation)
    let state ← check (restoredState operation stored pid)
    rejectIf (stored.activeOperation.any (· ≠ operationId)) (stateError .conflict name
      s!"container {operation.containerId.value} is owned by another active operation")
    let restored := { stored.record with state }
    commit (·.writeContainer { stored with record := restored, activeOperation := none })
    appendRestoredEvents clock operation
    let response ← check (restoreResponse sdk request restored)
    settle operation (.succeededRestore response)
    return response

end OciRuntime
