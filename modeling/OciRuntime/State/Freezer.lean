import OciRuntime.State.Kill

/-!
# `OciRuntime.State.Freezer` — pause and resume

`state/freezer.rs`. Both operations are one function over a `FreezerAction`. A retry of a prepared
operation that finds the container already in the desired freezer state settles the journal
without asking the driver again.
-/

namespace OciRuntime

open Durable Program

variable (sdk : Sdk) (clock : Clock)

inductive FreezerAction
  | pause | resume

def FreezerAction.kind : FreezerAction → StoredOperationKind
  | .pause => .pause
  | .resume => .resume

def FreezerAction.desired : FreezerAction → Bool
  | .pause => true
  | .resume => false

def FreezerAction.name : FreezerAction → String
  | .pause => "pause"
  | .resume => "resume"

def FreezerAction.claimMutation : FreezerAction → ClaimMutation
  | .pause => .pause
  | .resume => .resume

def FreezerAction.suffix : FreezerAction → EventSuffix
  | .pause => .pause
  | .resume => .resume

def FreezerAction.eventKind : FreezerAction → RuntimeEventKind
  | .pause => .containerPaused
  | .resume => .containerResumed

def appendFreezerEvent (clock : Clock) (operation : StoredOperation) (action : FreezerAction) :
    StoreM Unit :=
  appendOperationEvent clock operation.operationId action.suffix
    (.exact operation.containerId operation.generation) action.eventKind
    (operationAttributes operation.operationId)

section
variable (request : ContainerOperationRequest)

/-- Retry of a prepared pause or resume. -/
def resumeFreezer (action : FreezerAction) (operation : StoredOperation) :
    StoreM RecordOperationPreparation := do
  let operationId := request.context.operationId
  let stored ← read (loadStoredExact sdk operation.containerId operation.generation)
  if isPaused stored.record.state = action.desired then do
    check (ensureActiveOperation stored operationId action.name)
    releaseIfClaimed stored
    appendFreezerEvent clock operation action
    settle operation (.succeeded stored.record)
    return .replayed stored.record
  else do
    let claimed ← claimActiveOperation sdk stored operationId action.claimMutation action.name
    return .resume claimed.record

/-- Replay a completed pause or resume, following a process ID that recovery has replaced. -/
def reconcileSucceededFreezer (operation : StoredOperation)
    (response : ContainerRecord) (action : FreezerAction) :
    StoreM RecordOperationPreparation := do
  let live ← read (loadForReplay sdk operation)
  match live with
  | none => pure (.replayed response)
  | some stored =>
    let pid := stored.record.state.pid
    if stored.record.generation ≠ operation.generation ∨ stored.record = response ∨
        stored.record.state.status ≠ .running ∨ response.state.status ≠ .running ∨
        isPaused response.state ≠ action.desired ∨ pid = response.state.pid then
      pure (.replayed response)
    else do
      let reboundState ← check
        (rebuildPausedState (rebuildState response.state .running pid) action.desired)
      let rebound := { response with state := reboundState }
      let expectedState ← check (rebuildPausedState reboundState (isPaused stored.record.state))
      rejectIf ({ rebound with state := expectedState } ≠ stored.record)
        (stateError .conflict action.name
          (s!"completed {action.name} operation {operation.operationId.value} changed beyond " ++
            "its recovered process identity"))
      settle operation (.succeeded rebound)
      return .replayed rebound

def prepareFreezer (action : FreezerAction) : StoreM RecordOperationPreparation := do
  let operationId := request.context.operationId
  let digest := sdk.requestDigest (.freezer request.target)
  let journaled ← read (loadOperationIfPresent sdk operationId)
  match journaled with
  | some operation => do
    check (validateRetry operation operationId action.kind request.target.id digest action.name)
    match operation.outcome with
    | .prepared => resumeFreezer sdk clock request action operation
    | .succeeded response => reconcileSucceededFreezer sdk operation response action
    | .failed error => throw error
    | _ => throw (stateError .failedPrecondition action.name
        s!"{action.name} operation {operationId.value} has an invalid outcome")
  | none => do
    check (validateDeadline clock request.context action.name)
    let stored ← read (loadRequested sdk request.target action.name)
    rejectIf (stored.record.state.status ≠ .running) (stateError .failedPrecondition action.name
      (s!"container {stored.id.value} generation {stored.record.generation} cannot " ++
        s!"{action.name} while {stored.record.state.status.text}"))
    commit (·.writeOperation (preparedOperation operationId action.kind request.target.id
      stored.record.generation none none digest))
    let claimed ← claimActiveOperation sdk stored operationId action.claimMutation action.name
    return .prepared claimed.record

def preparePause : StoreM RecordOperationPreparation :=
  prepareFreezer sdk clock request .pause

def prepareResume : StoreM RecordOperationPreparation :=
  prepareFreezer sdk clock request .resume

end

/-- The driver must report the running process in the desired freezer state. -/
def validateFreezerResult (status : ContainerState) (pid : Option Int) (paused : Bool)
    (action : FreezerAction) : Result Unit := do
  rejectIf (status ≠ .running ∨ pid.all (· ≤ 0)) (stateError .invalidArgument action.name
    s!"driver returned invalid freezer state {status.text} with PID {debugPid pid}")
  rejectIf (paused ≠ action.desired) (stateError .failedPrecondition action.name
    s!"driver {action.name} returned paused={paused}, expected {action.desired}")

/-- The state a completed pause or resume commits. -/
def frozenState (operation : StoredOperation) (state : State) (pid : Option Int) (paused : Bool)
    (action : FreezerAction) : Result State := do
  rejectIf (state.status ≠ .running ∨ state.pid ≠ pid) (stateError .conflict action.name
    (s!"container {operation.containerId.value} durable state does not match driver freezer " ++
      "response"))
  let rebuilt ← rebuildPausedState state paused
  validateState rebuilt
  return rebuilt

def completeFreezer (operationId : OperationId)
    (status : ContainerState) (pid : Option Int) (paused : Bool) (action : FreezerAction) :
    StoreM ContainerRecord := do
  check (validateFreezerResult status pid paused action)
  let operation ← read (loadOperation sdk operationId)
  rejectIf (operation.kind ≠ action.kind) (stateError .failedPrecondition action.name
    s!"operation {operationId.value} is not an OCI {action.name}")
  let done ← check (recordOutcome operation.outcome (stateError .failedPrecondition action.name
    s!"{action.name} operation {operationId.value} has an invalid outcome"))
  match done with
  | some response => pure response
  | none => do
    let stored ← read (loadForCompletion sdk operation action.name)
    let state ← check (frozenState operation stored.record.state pid paused action)
    check (ensureActiveOperation stored operationId action.name)
    let response := { stored.record with state }
    commit (·.writeContainer { stored with record := response, activeOperation := none })
    appendFreezerEvent clock operation action
    settle operation (.succeeded response)
    return response

def completePause (operationId : OperationId)
    (status : ContainerState) (pid : Option Int) (paused : Bool) : StoreM ContainerRecord :=
  completeFreezer sdk clock operationId status pid paused .pause

def completeResume (operationId : OperationId)
    (status : ContainerState) (pid : Option Int) (paused : Bool) : StoreM ContainerRecord :=
  completeFreezer sdk clock operationId status pid paused .resume

end OciRuntime
