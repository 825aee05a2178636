import OciRuntime.State.Create

/-!
# `OciRuntime.State.Start` — the OCI start operation

`state/start.rs`. A retry of a prepared start finds the container `Created` (and resumes), or
already `Running` or `Stopped` (and settles the journal from the durable record).
-/

namespace OciRuntime

open Durable Program

variable (sdk : Sdk) (clock : Clock)

/-- Debug text of an optional generation. -/
def debugGeneration : Option Nat → String
  | some generation => s!"Some(Generation({generation}))"
  | none => "None"

def startInvalidState (target : ContainerTarget) (status : ContainerState) (operation : String) :
    Error :=
  stateError .failedPrecondition operation
    (s!"container {target.id.value} generation {debugGeneration target.generation} cannot start " ++
      s!"while {status.text}")

/-- Drop the lifecycle claim if there is one. -/
def releaseIfClaimed (stored : StoredContainer) : StoreM Unit :=
  match stored.activeOperation with
  | some _ => commit (·.writeContainer { stored with activeOperation := none })
  | none => pure ()

def appendStoppedEvent (clock : Clock) (id : ContainerId) (generation : Nat) : StoreM Unit :=
  appendContainerEvent clock .stopped id generation .containerStopped []

/-- The stopped event, for a container whose new status is `Stopped`. -/
def appendStoppedEventFor (clock : Clock) (id : ContainerId) (generation : Nat)
    (status : ContainerState) : StoreM Unit :=
  if status = .stopped then appendStoppedEvent clock id generation else pure ()

/-- The events of a start that ended with the given status. -/
def appendStartEvents (clock : Clock) (id : ContainerId) (generation : Nat)
    (status : ContainerState) : StoreM Unit := do
  appendContainerEvent clock .started id generation .containerStarted []
  appendStoppedEventFor clock id generation status

/-- Retry of a prepared start. -/
def resumeStart (request : StartRequest) (operation : StoredOperation) :
    StoreM RecordOperationPreparation := do
  let operationId := request.context.operationId
  let stored ← read (loadStoredExact sdk operation.containerId operation.generation)
  match stored.record.state.status with
  | .created => do
    let claimed ← claimActiveOperation sdk stored operationId .start "prepare-start"
    return .resume claimed.record
  | .creating => throw (startInvalidState request.target .creating "resume-start")
  | status => do
    check (ensureActiveOperation stored operationId "prepare-start")
    releaseIfClaimed stored
    appendStartEvents clock operation.containerId operation.generation status
    settle operation (.succeeded stored.record)
    return .replayed stored.record

/-- Active operations under which a replayed start accepts a replaced process ID. -/
def startRebindAllowed : StoredOperationKind → Bool
  | .kill | .pause | .resume | .update | .file | .filesystem => true
  | _ => false

/-- Replay a completed start, following a process ID that recovery has replaced since. -/
def reconcileSucceededStart (operation : StoredOperation)
    (response : ContainerRecord) : StoreM RecordOperationPreparation := do
  let name := "reconcile-succeeded-start"
  let live ← read (loadForReplay sdk operation)
  match live with
  | none => pure (.replayed response)
  | some stored =>
    let pid := stored.record.state.pid
    if stored.record.generation ≠ operation.generation ∨ stored.record = response ∨
        stored.record.state.status ≠ .running ∨ response.state.status ≠ .running ∨
        pid = response.state.pid then
      pure (.replayed response)
    else do
      let allowed ← read (activeAllowsRebind sdk stored startRebindAllowed)
      rejectIf (!allowed ∨ isPaused response.state) (stateError .conflict name
        (s!"completed start operation {operation.operationId.value} differs from its durable " ++
          "container record"))
      let rebound := { response with state := rebuildState response.state .running pid }
      let expectedState ← check (carryPaused (isPaused stored.record.state) rebound.state)
      rejectIf ({ rebound with state := expectedState } ≠ stored.record) (stateError .conflict name
          (s!"completed start operation {operation.operationId.value} changed beyond its " ++
            "recovered process identity"))
      settle operation (.succeeded rebound)
      return .replayed rebound

/-- Durably reserve an OCI start before invoking a driver. -/
def prepareStart (request : StartRequest) : StoreM RecordOperationPreparation := do
  let name := "prepare-start"
  let operationId := request.context.operationId
  let digest := sdk.requestDigest (.start request.target)
  let journaled ← read (loadOperationIfPresent sdk operationId)
  match journaled with
  | some operation => do
    check (validateRetry operation operationId .start request.target.id digest name)
    match operation.outcome with
    | .prepared => resumeStart sdk clock request operation
    | .succeeded response => reconcileSucceededStart sdk operation response
    | .failed error => throw error
    | _ => throw (stateError .failedPrecondition name
        s!"start operation {operationId.value} has an invalid empty outcome")
  | none => do
    check (validateDeadline clock request.context name)
    let stored ← read (loadRequested sdk request.target name)
    rejectIf (stored.record.state.status ≠ .created)
      (startInvalidState request.target stored.record.state.status name)
    commit (·.writeOperation (preparedOperation operationId .start request.target.id
      stored.record.generation none none digest))
    let claimed ← claimActiveOperation sdk stored operationId .start name
    return .prepared claimed.record

/-! ## Completion -/

def startPidConflict (containerId : ContainerId) (durable observed : Option Int) : Error :=
  stateError .conflict "complete-start"
    (s!"container {containerId.value} PID mismatch: durable {debugPid durable}, " ++
      s!"driver {debugPid observed}")

/-- The driver reports a running process with its PID, or a process that already stopped. -/
def validateStartResult (status : ContainerState) (pid : Option Int) : Result Unit :=
  let invalid := stateError .invalidArgument "complete-start"
    s!"driver returned invalid start state {status.text} with PID {debugPid pid}"
  match status, pid with
  | .running, some pid => if pid > 0 then .ok () else .error invalid
  | .stopped, none => .ok ()
  | _, _ => .error invalid

/-- The lifecycle state after a start whose process may already have stopped. -/
def startLifecycle (status : ContainerState) (name : String) : Result LifecycleState := do
  let started ← advance .created .startCompleted name
  if status = .stopped then advance started .processExited name else .ok started

/-- The state a completed start commits. -/
def startedState (operation : StoredOperation) (state : State) (status : ContainerState)
    (pid : Option Int) : Result State :=
  let name := "complete-start"
  match state.status, status with
  | .created, status => do
    rejectIf (status = .running ∧ state.pid ≠ pid)
      (startPidConflict operation.containerId state.pid pid)
    let lifecycle ← startLifecycle status name
    let rebuilt := rebuildState state (containerState lifecycle)
      (if status = .running then state.pid else none)
    validateState rebuilt
    return rebuilt
  | .running, .running => do
    rejectIf (state.pid ≠ pid) (startPidConflict operation.containerId state.pid pid)
    return state
  | .running, .stopped => do
    let lifecycle ← advance .running .processExited name
    let rebuilt := rebuildState state (containerState lifecycle) none
    validateState rebuilt
    return rebuilt
  | .stopped, .stopped => .ok state
  | current, _ => .error (startInvalidState
      (.exact operation.containerId operation.generation) current name)

/-- Commit driver start completion. -/
def completeStart (operationId : OperationId)
    (status : ContainerState) (pid : Option Int) : StoreM ContainerRecord := do
  let name := "complete-start"
  check (validateStartResult status pid)
  let operation ← read (loadOperation sdk operationId)
  rejectIf (operation.kind ≠ .start) (stateError .failedPrecondition name
    s!"operation {operationId.value} is not an OCI start")
  let done ← check (recordOutcome operation.outcome (stateError .failedPrecondition name
    s!"start operation {operationId.value} has an invalid empty outcome"))
  match done with
  | some response => pure response
  | none => do
    let stored ← read (loadForCompletion sdk operation name)
    let state ← check (startedState operation stored.record.state status pid)
    check (ensureActiveOperation stored operationId name)
    let response := { stored.record with state }
    commit (·.writeContainer { stored with record := response, activeOperation := none })
    appendStartEvents clock operation.containerId operation.generation state.status
    settle operation (.succeeded response)
    return response

end OciRuntime
