import OciRuntime.State.Freezer

/-!
# `OciRuntime.State.Update` — resource updates

`state/update.rs`. Unlike start, kill and the freezer, a retry of a prepared update always resumes.
-/

namespace OciRuntime

open Durable Program

variable (sdk : Sdk) (clock : Clock)

/-- Replay a completed update, following a process ID that recovery has replaced. -/
def reconcileSucceededUpdate (operation : StoredOperation)
    (response : ContainerRecord) : StoreM RecordOperationPreparation := do
  let live ← read (loadForReplay sdk operation)
  match live with
  | none => pure (.replayed response)
  | some stored =>
    let status := stored.record.state.status
    let pid := stored.record.state.pid
    if stored.record.generation ≠ operation.generation ∨ stored.record = response ∨
        (status ≠ .created ∧ status ≠ .running) ∨
        (response.state.status ≠ .created ∧ response.state.status ≠ .running) ∨
        pid = response.state.pid then
      pure (.replayed response)
    else do
      let reboundState ← check (carryPaused (isPaused response.state)
        (rebuildState response.state response.state.status pid))
      let rebound := { response with state := reboundState }
      let expectedState ← check (carryPaused (isPaused stored.record.state)
        (rebuildState reboundState status pid))
      rejectIf ({ rebound with state := expectedState } ≠ stored.record)
        (stateError .conflict "update"
          (s!"completed update operation {operation.operationId.value} changed beyond its " ++
            "recovered process identity"))
      settle operation (.succeeded rebound)
      return .replayed rebound

/-- Durably reserve a resource update before invoking a driver. -/
def prepareUpdate (request : UpdateRequest) : StoreM RecordOperationPreparation := do
  let name := "update"
  let operationId := request.context.operationId
  check (request.validate sdk)
  let digest := sdk.requestDigest (.update request.target request.resources)
  let journaled ← read (loadOperationIfPresent sdk operationId)
  match journaled with
  | some operation => do
    check (validateRetry operation operationId .update request.target.id digest name)
    match operation.outcome with
    | .prepared => do
      let stored ← read (loadStoredExact sdk operation.containerId operation.generation)
      let claimed ← claimActiveOperation sdk stored operationId .update name
      return .resume claimed.record
    | .succeeded response => reconcileSucceededUpdate sdk operation response
    | .failed error => throw error
    | _ => throw (stateError .failedPrecondition name
        s!"update operation {operationId.value} has an invalid outcome")
  | none => do
    check (validateDeadline clock request.context name)
    let stored ← read (loadRequested sdk request.target name)
    rejectIf (stored.record.state.status ≠ .created ∧ stored.record.state.status ≠ .running)
      (stateError .failedPrecondition name
        (s!"container {stored.id.value} generation {stored.record.generation} cannot update " ++
          s!"resources while {stored.record.state.status.text}"))
    commit (·.writeOperation (preparedOperation operationId .update request.target.id
      stored.record.generation none none digest))
    let claimed ← claimActiveOperation sdk stored operationId .update name
    return .prepared claimed.record

/-- The driver reports a live process, never a paused one that was not started. -/
def validateUpdateResult (status : ContainerState) (pid : Option Int) (paused : Bool) :
    Result Unit :=
  rejectIf ((status ≠ .created ∧ status ≠ .running) ∨ pid.all (· ≤ 0) ∨
      (status = .created ∧ paused))
    (stateError .invalidArgument "update"
      (s!"driver returned invalid update state {status.text} with PID {debugPid pid} and " ++
        s!"paused={paused}"))

/-- Commit driver update completion; the durable state itself does not change. -/
def completeUpdate (operationId : OperationId)
    (status : ContainerState) (pid : Option Int) (paused : Bool) : StoreM ContainerRecord := do
  let name := "update"
  check (validateUpdateResult status pid paused)
  let operation ← read (loadOperation sdk operationId)
  rejectIf (operation.kind ≠ .update) (stateError .failedPrecondition name
    s!"operation {operationId.value} is not an OCI update")
  let done ← check (recordOutcome operation.outcome (stateError .failedPrecondition name
    s!"update operation {operationId.value} has an invalid outcome"))
  match done with
  | some response => pure response
  | none => do
    let stored ← read (loadForCompletion sdk operation name)
    rejectIf (stored.record.state.status ≠ status ∨ stored.record.state.pid ≠ pid ∨
        isPaused stored.record.state ≠ paused)
      (stateError .conflict name
        (s!"container {operation.containerId.value} durable state does not match the driver " ++
          "update response"))
    check (ensureActiveOperation stored operationId name)
    commit (·.writeContainer { stored with activeOperation := none })
    appendOperationEvent clock operationId .resourcesUpdated
      (.exact operation.containerId operation.generation) .resourcesUpdated
      (operationAttributes operationId)
    settle operation (.succeeded stored.record)
    return stored.record

end OciRuntime
