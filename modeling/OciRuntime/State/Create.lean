import OciRuntime.State.Creation

/-!
# `OciRuntime.State.Create` — the OCI create operation

`prepare_create`, the replay of a completed create and `complete_create` (`state/mod.rs`,
`state/create.rs`). The generation and the journal entry are committed before any directory exists.
-/

namespace OciRuntime

open Durable Program

variable (sdk : Sdk) (clock : Clock)

def createRequestDigest (request : CreateRequest)
    (inheritedDescriptors : Option String) : RequestDigests :=
  sdk.requestDigest (.create request.id request.bundle request.isolation request.attachments
    inheritedDescriptors)

def validateCreateRetry (operation : StoredOperation) (request : CreateRequest)
    (digest : RequestDigests) : Result Unit :=
  validateRetry operation request.context.operationId .create request.id digest "prepare-create"

def CreateRequest.inputs (request : CreateRequest) (driver : DriverKind) : CreationInputs :=
  { id := request.id, bundle := request.bundle, isolation := request.isolation.class,
    attachments := request.attachments, driver }

def reconcilePreparedCreate (request : CreateRequest) (driver : DriverKind)
    (generation : Nat) : StoreM StoredContainer :=
  reconcilePreparedContainer sdk (request.inputs driver) generation request.context.operationId
    "reconcile-create"

/-- A pending rebind of the process ID is compatible with the operation that holds the claim. -/
def activeAllowsRebind (stored : StoredContainer)
    (allowed : StoredOperationKind → Bool) (s : Store) : Result Bool :=
  match stored.activeOperation with
  | none => .ok true
  | some operationId => do
    let active ← loadOperation sdk operationId s
    return allowed active.kind ∧ active.containerId = stored.id ∧
      active.generation = stored.record.generation ∧ active.outcome = .prepared

/-- Active operations under which a replayed create accepts a replaced process ID. -/
def createRebindAllowed : ContainerState → StoredOperationKind → Bool
  | .created, .start | .created, .attest => true
  | .running, .kill | .running, .pause | .running, .resume | .running, .update | .running, .file
  | .running, .filesystem | .running, .checkpoint | .running, .attest => true
  | _, _ => false

/-- Mark a state as paused if another one is. -/
def carryPaused (paused : Bool) (state : State) : Result State :=
  if paused then rebuildPausedState state true else .ok state

/-- The container of a replayed operation, or `none` if its ID is gone. -/
def loadForReplay (operation : StoredOperation) (s : Store) : Result (Option StoredContainer) :=
  match loadStoredContainer sdk operation.containerId s with
  | .ok stored => .ok (some stored)
  | .error error => if error.code = .notFound then .ok none else .error error

/-- Replay a completed create, following a process ID that recovery has replaced since. -/
def reconcileSucceededCreate (operation : StoredOperation)
    (response : ContainerRecord) : StoreM RecordOperationPreparation := do
  let name := "reconcile-succeeded-create"
  let live ← read (loadForReplay sdk operation)
  match live with
  | none => pure (.replayed response)
  | some stored =>
    let status := stored.record.state.status
    let pid := stored.record.state.pid
    if stored.record.generation ≠ operation.generation ∨ stored.record = response ∨
        (status ≠ .created ∧ status ≠ .running) ∨ pid = response.state.pid then
      pure (.replayed response)
    else do
      let allowed ← read (activeAllowsRebind sdk stored (createRebindAllowed status))
      rejectIf (!allowed ∨ response.state.status ≠ .created) (stateError .conflict name
        (s!"completed create operation {operation.operationId.value} differs from its durable " ++
          "container record"))
      let expectedState ← check
        (carryPaused (isPaused stored.record.state) (rebuildState response.state status pid))
      rejectIf ({ response with state := expectedState } ≠ stored.record) (stateError .conflict name
          (s!"completed create operation {operation.operationId.value} changed beyond its " ++
            "recovered process identity"))
      let rebound := { response with state := rebuildState response.state .created pid }
      settle operation (.succeeded rebound)
      return .replayed rebound

/-- Durably reserve an OCI create before invoking a driver. -/
def prepareCreate (request : CreateRequest) (driver : DriverKind)
    (inheritedDescriptors : Option String) : StoreM RecordOperationPreparation := do
  let operationId := request.context.operationId
  check (request.validate sdk)
  let digest := createRequestDigest sdk request inheritedDescriptors
  let journaled ← read (loadOperationIfPresent sdk operationId)
  match journaled with
  | some operation => do
    check (validateCreateRetry operation request digest)
    match operation.outcome with
    | .prepared => do
      let stored ← reconcilePreparedCreate sdk request driver operation.generation
      let claimed ← claimActiveOperation sdk stored operationId .create "prepare-create"
      appendContainerEvent clock .creating request.id claimed.record.generation
        .containerCreating []
      return .resume claimed.record
    | .succeeded response => reconcileSucceededCreate sdk operation response
    | .failed error => do
      reconcileFailedCreate sdk operation
      throw error
    | _ => throw (stateError .failedPrecondition "prepare-create"
        s!"create operation {operationId.value} has an invalid empty outcome")
  | none => do
    check (validateDeadline clock request.context "prepare-create")
    let directory ← read fun s => .ok (s.containers.get? request.id)
    rejectIf directory.isSome (stateError .alreadyExists "prepare-create"
      s!"container {request.id.value} already exists")
    let generation ← nextGeneration request.id
    commit (·.writeOperation
      (preparedOperation operationId .create request.id generation none none digest))
    let stored ← reconcilePreparedCreate sdk request driver generation
    appendContainerEvent clock .creating request.id stored.record.generation .containerCreating []
    return .prepared stored.record

/-! ## Completion -/

/-- Debug text of an optional process ID. -/
def debugPid : Option Int → String
  | some pid => s!"Some({pid})"
  | none => "None"

/-- Outcome of an operation whose success is a container record: `none` while it is prepared. -/
def recordOutcome (outcome : StoredOperationStatus) (invalid : Error) :
    Result (Option ContainerRecord) :=
  match outcome with
  | .prepared => .ok none
  | .succeeded response => .ok (some response)
  | .failed error => .error error
  | _ => .error invalid

/-- Load the container of an operation that is being completed and enforce its generation. -/
def loadForCompletion (operation : StoredOperation) (name : String) (s : Store) :
    Result StoredContainer := do
  let stored ← loadStoredContainer sdk operation.containerId s
  rejectIf (stored.record.generation ≠ operation.generation)
    (generationConflict operation.containerId operation.generation stored.record.generation name)
  return stored

/-- Advance the lifecycle machine, reporting a refused event as a failed precondition. -/
def advance (state : LifecycleState) (event : LifecycleEvent) (name : String) :
    Result LifecycleState :=
  (state.transition event).mapError (stateError .failedPrecondition name)

/-- The state a completed create commits. -/
def createdState (operation : StoredOperation) (state : State) (pid : Int) : Result State :=
  match state.status with
  | .creating => do
    let lifecycle ← advance .creating .createCompleted "complete-create"
    let rebuilt := rebuildState state (containerState lifecycle) (some pid)
    validateState rebuilt
    return rebuilt
  | .created =>
    if state.pid = some pid then .ok state
    else .error (stateError .conflict "complete-create"
      (s!"container {operation.containerId.value} was already committed with PID " ++
        s!"{debugPid state.pid}, not {pid}"))
  | status => .error (stateError .failedPrecondition "complete-create"
      s!"container {operation.containerId.value} cannot complete create while {status.text}")

/-- Commit driver create completion with the prepared init-process PID. -/
def completeCreate (operationId : OperationId) (pid : Int) : StoreM ContainerRecord := do
  let name := "complete-create"
  rejectIf (pid ≤ 0) (stateError .invalidArgument name
    s!"created container PID must be positive; received {pid}")
  let operation ← read (loadOperation sdk operationId)
  rejectIf (operation.kind ≠ .create) (stateError .failedPrecondition name
    s!"operation {operationId.value} is not an OCI create")
  let done ← check (recordOutcome operation.outcome (stateError .failedPrecondition name
    s!"create operation {operationId.value} has an invalid empty outcome"))
  match done with
  | some response => pure response
  | none => do
    let stored ← read (loadForCompletion sdk operation name)
    let state ← check (createdState operation stored.record.state pid)
    check (ensureActiveOperation stored operationId name)
    let response := { stored.record with state }
    commit (·.writeContainer { stored with record := response, activeOperation := none })
    appendContainerEvent clock .created operation.containerId operation.generation
      .containerCreated [("pid", s!"{pid}")]
    settle operation (.succeeded response)
    return response

end OciRuntime
