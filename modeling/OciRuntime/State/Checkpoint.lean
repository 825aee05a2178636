import OciRuntime.State.FilesystemMutation

/-!
# `OciRuntime.State.Checkpoint` — checkpoints

`state/checkpoint.rs`. A checkpoint runs on a paused, running container whose processes are not
owned by any operation, and leaves the container as it was.
-/

namespace OciRuntime

open Durable Program

variable (sdk : Sdk) (clock : Clock)

abbrev CheckpointOperationPreparation := Preparation ContainerRecord CheckpointResponse

def ensureCheckpointSource (record : ContainerRecord) : Result Unit := do
  let invalid := stateError .failedPrecondition "checkpoint"
  rejectIf (record.state.status ≠ .running ∨ !record.isPaused)
    (invalid (s!"container {record.state.id} generation {record.generation} must be running and " ++
      "paused before checkpoint"))
  let _ ← (checkpointDigest record.configDigest).mapError fun error =>
    invalid s!"checkpoint source has an invalid configuration digest: {error.message}"
  let attachments ← okOr record.attachmentsDigest
    (invalid "checkpoint source has no attachment-manifest digest")
  let _ ← (checkpointDigest attachments).mapError fun error =>
    invalid s!"checkpoint source has an invalid attachment digest: {error.message}"
  return ()

def invalidCheckpointOutcome (operationId : OperationId) : Error :=
  stateError .failedPrecondition "checkpoint"
    s!"checkpoint operation {operationId.value} has an invalid durable outcome"

/-- Load the container of a checkpoint request, which always names a generation. -/
def loadCheckpointTarget (target : ContainerTarget) (s : Store) : Result StoredContainer := do
  let stored ← loadStoredContainer sdk target.id s
  let expected ← okOr target.generation (stateError .invalidArgument "checkpoint"
    "checkpoint request does not contain an exact generation")
  rejectIf (stored.record.generation ≠ expected)
    (generationConflict target.id expected stored.record.generation "checkpoint")
  return stored

def prepareCheckpoint (request : CheckpointRequest) : StoreM CheckpointOperationPreparation := do
  let name := "checkpoint"
  let operationId := request.context.operationId
  check request.validate
  let digest := checkpointRequestDigest sdk request
  let journaled ← read (loadOperationIfPresent sdk operationId)
  match journaled with
  | some operation => do
    check (validateRetry operation operationId .checkpoint request.target.id digest name)
    rejectIf (operation.request ≠ some (.checkpoint request)) (stateError .failedPrecondition name
      (s!"operation ID {operationId.value} was already used for a different checkpoint " ++
        "request"))
    match operation.outcome with
    | .prepared => do
      let stored ← read (loadStoredExact sdk operation.containerId operation.generation)
      check (ensureCheckpointSource stored.record)
      read (ensureNoActiveProcessOperations sdk stored name)
      let claimed ← claimActiveOperation sdk stored operationId .checkpoint name
      return .resume claimed.record
    | .succeededCheckpoint response => pure (.replayed response)
    | .failed error => throw error
    | _ => throw (invalidCheckpointOutcome operationId)
  | none => do
    check (validateDeadline clock request.context name)
    let stored ← read (loadCheckpointTarget sdk request.target)
    check (ensureCheckpointSource stored.record)
    read (ensureNoActiveProcessOperations sdk stored name)
    commit (·.writeOperation (preparedOperation operationId .checkpoint stored.id
      stored.record.generation none (some (.checkpoint request)) digest))
    let claimed ← claimActiveOperation sdk stored operationId .checkpoint name
    return .prepared claimed.record

/-- Outcome of a checkpoint: `none` while it is prepared. -/
def checkpointOutcome (outcome : StoredOperationStatus) (invalid : Error) :
    Result (Option CheckpointResponse) :=
  match outcome with
  | .prepared => .ok none
  | .succeededCheckpoint response => .ok (some response)
  | .failed error => .error error
  | _ => .error invalid

def retainedCheckpointRequest (operation : StoredOperation) : Result CheckpointRequest :=
  match operation.request with
  | some (.checkpoint request) => .ok request
  | _ => .error (stateError .failedPrecondition "checkpoint"
      s!"checkpoint operation {operation.operationId.value} has no retained request")

def completeCheckpoint (operationId : OperationId) (response : CheckpointResponse) :
    StoreM CheckpointResponse := do
  let name := "checkpoint"
  let operation ← read (loadOperation sdk operationId)
  rejectIf (operation.kind ≠ .checkpoint) (invalidCheckpointOutcome operationId)
  let done ← check (checkpointOutcome operation.outcome (invalidCheckpointOutcome operationId))
  match done with
  | some response => pure response
  | none => do
    let request ← check (retainedCheckpointRequest operation)
    check (response.validateForRequest request)
    let stored ← read (loadStoredExact sdk operation.containerId operation.generation)
    check (ensureCheckpointSource stored.record)
    rejectIf (response.source ≠ stored.record) (stateError .conflict name
      (s!"checkpoint operation {operationId.value} returned a source record that differs from " ++
        "durable state"))
    check (ensureActiveOperation stored operationId name)
    commit (·.writeContainer { stored with activeOperation := none })
    settle operation (.succeededCheckpoint response)
    return response

end OciRuntime
