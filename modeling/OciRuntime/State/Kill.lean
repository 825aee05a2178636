import OciRuntime.State.Start

/-!
# `OciRuntime.State.Kill` — the OCI kill operation

`state/kill.rs`. A retry of a prepared kill that finds the container `Stopped` settles the journal
from the durable record; in every other status it resumes.
-/

namespace OciRuntime

open Durable Program

variable (sdk : Sdk) (clock : Clock)

def killInvalidState (target : ContainerTarget) (status : ContainerState) (operation : String) :
    Error :=
  stateError .failedPrecondition operation
    (s!"container {target.id.value} generation {debugGeneration target.generation} cannot be " ++
      s!"signaled while {status.text}")

/-- Retry of a prepared kill. -/
def resumeKill (request : KillRequest) (operation : StoredOperation) :
    StoreM RecordOperationPreparation := do
  let operationId := request.context.operationId
  let stored ← read (loadStoredExact sdk operation.containerId operation.generation)
  if stored.record.state.status = .stopped then do
    check (ensureActiveOperation stored operationId "prepare-kill")
    releaseIfClaimed stored
    appendStoppedEvent clock operation.containerId operation.generation
    settle operation (.succeeded stored.record)
    return .replayed stored.record
  else do
    let claimed ← claimActiveOperation sdk stored operationId .kill "prepare-kill"
    return .resume claimed.record

/-- Durably reserve an OCI kill before invoking a driver. -/
def prepareKill (request : KillRequest) : StoreM RecordOperationPreparation := do
  let name := "prepare-kill"
  let operationId := request.context.operationId
  let digest := sdk.requestDigest (.kill request.target request.signal request.all)
  let journaled ← read (loadOperationIfPresent sdk operationId)
  match journaled with
  | some operation => do
    check (validateRetry operation operationId .kill request.target.id digest name)
    match operation.outcome with
    | .prepared => resumeKill sdk clock request operation
    | .succeeded response => pure (.replayed response)
    | .failed error => throw error
    | _ => throw (stateError .failedPrecondition name
        s!"kill operation {operationId.value} has an invalid empty outcome")
  | none => do
    check (validateDeadline clock request.context name)
    let stored ← read (loadRequested sdk request.target name)
    rejectIf (stored.record.state.status ≠ .created ∧ stored.record.state.status ≠ .running)
      (killInvalidState request.target stored.record.state.status name)
    commit (·.writeOperation (preparedOperation operationId .kill request.target.id
      stored.record.generation none none digest))
    let claimed ← claimActiveOperation sdk stored operationId .kill name
    return .prepared claimed.record

/-! ## Completion -/

/-- A driver observation: a live process with its PID, or a stopped one without. -/
def validateObservedState (status : ContainerState) (pid : Option Int) (operation : String) :
    Result Unit :=
  let invalid := stateError .invalidArgument operation
    s!"driver returned invalid OCI state {status.text} with PID {debugPid pid}"
  match status, pid with
  | .created, some pid | .running, some pid => if pid > 0 then .ok () else .error invalid
  | .stopped, none => .ok ()
  | _, _ => .error invalid

def killPidConflict (record : ContainerRecord) (observed : Option Int) (operation : String) :
    Error :=
  stateError .conflict operation
    (s!"container {record.state.id} PID mismatch: durable {debugPid record.state.pid}, " ++
      s!"driver {debugPid observed}")

/-- The state a completed kill commits. -/
def killedState (operation : StoredOperation) (record : ContainerRecord)
    (status : ContainerState) (pid : Option Int) : Result State :=
  let name := "complete-kill"
  let state := record.state
  match state.status, status with
  | .created, .created | .running, .running => do
    rejectIf (state.pid ≠ pid) (killPidConflict record pid name)
    return state
  | .created, .stopped | .running, .stopped => do
    let lifecycle ← advance (lifecycleState state.status) .processExited name
    let rebuilt := rebuildState state (containerState lifecycle) none
    validateState rebuilt
    return rebuilt
  | .stopped, .stopped => .ok state
  | current, observed => .error (stateError .failedPrecondition name
      (s!"container {operation.containerId.value} cannot reconcile {current.text} to " ++
        observed.text))

/-- Commit driver kill completion. -/
def completeKill (operationId : OperationId)
    (status : ContainerState) (pid : Option Int) : StoreM ContainerRecord := do
  let name := "complete-kill"
  check (validateObservedState status pid name)
  let operation ← read (loadOperation sdk operationId)
  rejectIf (operation.kind ≠ .kill) (stateError .failedPrecondition name
    s!"operation {operationId.value} is not an OCI kill")
  let done ← check (recordOutcome operation.outcome (stateError .failedPrecondition name
    s!"kill operation {operationId.value} has an invalid empty outcome"))
  match done with
  | some response => pure response
  | none => do
    let stored ← read (loadForCompletion sdk operation name)
    let state ← check (killedState operation stored.record status pid)
    check (ensureActiveOperation stored operationId name)
    let response := { stored.record with state }
    commit (·.writeContainer { stored with record := response, activeOperation := none })
    appendStoppedEventFor clock operation.containerId operation.generation state.status
    settle operation (.succeeded response)
    return response

end OciRuntime
