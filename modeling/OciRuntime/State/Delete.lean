import OciRuntime.State.Process

/-!
# `OciRuntime.State.Delete` — the OCI delete operation

`state/delete.rs`. Completing a delete moves the container directory to
`quarantine/<operation>.deleted`; a retry decides from the presence of the live directory and of the
tombstone how far an earlier attempt came.
-/

namespace OciRuntime

open Durable Program

variable (sdk : Sdk) (clock : Clock)

abbrev DeletePreparation := Preparation ContainerRecord Unit

def deleteTombstone (operationId : OperationId) : Tombstone := ⟨operationId, .deleted⟩

def appendDeleteEvent (clock : Clock) (operation : StoredOperation) : StoreM Unit := do
  appendStoppedEvent clock operation.containerId operation.generation
  appendContainerEvent clock .deleted operation.containerId operation.generation
    .containerDeleted []

def deleteInvalidState (target : ContainerTarget) (status : ContainerState) : Error :=
  stateError .failedPrecondition "prepare-delete"
    (s!"container {target.id.value} generation {debugGeneration target.generation} cannot be " ++
      s!"deleted without force while {status.text}")

/-- Whether the container directory and the tombstone of a delete exist. -/
def deletePresence (operation : StoredOperation) (s : Store) : Bool × Bool :=
  ((s.containers.get? operation.containerId).isSome,
    (s.quarantine.get? (deleteTombstone operation.operationId)).isSome)

/-- The ID of a moved container may have been reused, but not by the deleted generation. -/
def ensureLiveGenerationReplaced (operation : StoredOperation) (name : String)
    (s : Store) : Result Unit := do
  let live ← loadStoredContainer sdk operation.containerId s
  rejectIf (live.record.generation = operation.generation) (stateError .conflict name
    (s!"delete operation {operation.operationId.value} has both a live record and tombstone"))

def deleteLost (operation : StoredOperation) (name : String) : Error :=
  (stateError .unavailable name
    (s!"delete operation {operation.operationId.value} has neither a live record nor " ++
      "tombstone")).retryable true

/-- Journal a delete whose directory has been moved. -/
def settleDelete (clock : Clock) (operation : StoredOperation) : StoreM Unit := do
  appendDeleteEvent clock operation
  settle operation .succeededEmpty

/-- Retry of a prepared delete. -/
def resumeDelete (request : DeleteRequest)
    (operation : StoredOperation) : StoreM DeletePreparation := do
  let name := "prepare-delete"
  let presence ← read fun s => .ok (deletePresence operation s)
  match presence with
  | (true, false) => do
    let stored ← read (loadStoredExact sdk operation.containerId operation.generation)
    read (ensureNoActiveProcessOperations sdk stored name)
    let claimed ← claimActiveOperation sdk stored request.context.operationId .delete name
    return .resume claimed.record
  | (false, true) => do
    settleDelete clock operation
    return .replayed ()
  | (true, true) => do
    read (ensureLiveGenerationReplaced sdk operation name)
    settleDelete clock operation
    return .replayed ()
  | (false, false) => throw (deleteLost operation name)

/-- The status a delete of the requested mode accepts. -/
def validateDeleteMode (request : DeleteRequest) (status : ContainerState) : Result Unit :=
  match request.mode with
  | .stoppedOnly =>
    if status ≠ .stopped then .error (deleteInvalidState request.target status) else .ok ()
  | .force =>
    if status = .creating then
      .error (stateError .conflict "prepare-delete"
        s!"container {request.target.id.value} create operation is still in progress")
    else .ok ()

/-- Durably reserve an OCI delete before invoking a driver. -/
def prepareDelete (request : DeleteRequest) : StoreM DeletePreparation := do
  let name := "prepare-delete"
  let operationId := request.context.operationId
  let digest := sdk.requestDigest (.delete request.target request.mode)
  let journaled ← read (loadOperationIfPresent sdk operationId)
  match journaled with
  | some operation => do
    check (validateRetry operation operationId .delete request.target.id digest name)
    match operation.outcome with
    | .prepared => resumeDelete sdk clock request operation
    | .succeededEmpty => pure (.replayed ())
    | .failed error => throw error
    | _ => throw (stateError .failedPrecondition name
        s!"delete operation {operationId.value} has an invalid state response")
  | none => do
    check (validateDeadline clock request.context name)
    let stored ← read (loadRequested sdk request.target name)
    check (validateDeleteMode request stored.record.state.status)
    read (ensureNoActiveProcessOperations sdk stored name)
    commit (·.writeOperation (preparedOperation operationId .delete request.target.id
      stored.record.generation none none digest))
    let claimed ← claimActiveOperation sdk stored operationId .delete name
    return .prepared claimed.record

/-- Move the container directory of a prepared delete unless that was done before. -/
def moveDeleted (operation : StoredOperation) : StoreM Unit := do
  let name := "complete-delete"
  let presence ← read fun s => .ok (deletePresence operation s)
  match presence with
  | (true, false) => do
    let stored ← read (loadStoredExact sdk operation.containerId operation.generation)
    check (ensureActiveOperation stored operation.operationId name)
    commit (·.quarantineContainer operation.containerId (deleteTombstone operation.operationId))
  | (false, true) => pure ()
  | (true, true) => read (ensureLiveGenerationReplaced sdk operation name)
  | (false, false) => throw (deleteLost operation name)

def completeDelete (operationId : OperationId) : StoreM Unit := do
  let name := "complete-delete"
  let operation ← read (loadOperation sdk operationId)
  rejectIf (operation.kind ≠ .delete) (stateError .failedPrecondition name
    s!"operation {operationId.value} is not an OCI delete")
  let done ← check (emptyOutcome operation.outcome (stateError .failedPrecondition name
    s!"delete operation {operationId.value} has an invalid state response"))
  if done then pure ()
  else do
    moveDeleted sdk operation
    settleDelete clock operation

end OciRuntime
