import OciRuntime.State.Failure

/-!
# `OciRuntime.State.Observe` — state observations

`state/observe.rs`. A driver observation advances the durable state of a container, follows the
replacement of its process, and settles the active operation when the observed state shows that it
has taken effect.
-/

namespace OciRuntime

open Durable Program

variable (sdk : Sdk) (clock : Clock)

/-- Why the observed process may have another PID than the durable one. -/
inductive RecreatedProcess
  | none | created | running | runningPaused
  deriving DecidableEq

/-- What a driver reports about a container. -/
structure DriverState where
  status : ContainerState
  pid : Option Int
  paused : Bool

def validateObservation (observed : DriverState) : Result Unit :=
  let invalid := stateError .invalidArgument "observe-state"
    (s!"driver returned invalid OCI state {observed.status.text} with PID " ++
      s!"{debugPid observed.pid} and paused={observed.paused}")
  match observed.status, observed.pid, observed.paused with
  | .created, some pid, false => if pid > 0 then .ok () else .error invalid
  | .running, some pid, _ => if pid > 0 then .ok () else .error invalid
  | .stopped, none, false => .ok ()
  | _, _, _ => .error invalid

/-- The operation that holds the claim, which must be a prepared one of this generation. -/
def observedActive (stored : StoredContainer) (s : Store) : Result (Option StoredOperation) :=
  match stored.activeOperation with
  | none => .ok none
  | some operationId => do
    let operation ← loadOperation sdk operationId s
    rejectIf (operation.containerId ≠ stored.id ∨ operation.generation ≠ stored.record.generation ∨
        operation.outcome ≠ .prepared)
      (stateError .conflict "observe-state"
        (s!"container {stored.id.value} active operation {operation.operationId.value} does not " ++
          "match its durable record"))
    return some operation

/-- The durable freezer state a replacement observation relies on. -/
def validateRecreated (stored : StoredContainer) (recreated : RecreatedProcess) : Result Unit := do
  let current := stored.record.state.status
  let paused := isPaused stored.record.state
  rejectIf (recreated = .running ∧ current = .running ∧ paused)
    (stateError .conflict "observe-recreated-running-process"
      (s!"container {stored.id.value} is paused and cannot use unpaused running-process " ++
        "recovery"))
  rejectIf (recreated = .runningPaused ∧ (current ≠ .running ∨ !paused))
    (stateError .conflict "observe-recreated-paused-running-process"
      (s!"container {stored.id.value} is not durably paused and cannot use paused " ++
        "running-process recovery"))

/-- An observation that settles an active operation of this kind. -/
def observationCompletes (kind : StoredOperationKind) (observed : DriverState) : Bool :=
  match kind with
  | .start => observed.status = .running ∨ observed.status = .stopped
  | .kill | .signalProcess => observed.status = .stopped
  | .pause => observed.status = .running ∧ observed.paused
  | .resume => observed.status = .running ∧ !observed.paused
  | _ => false

/-- The kind of replacement fits the durable status. -/
def replacementMatches : RecreatedProcess → ContainerState → Bool
  | .created, .created | .running, .running | .runningPaused, .running => true
  | _, _ => false

/-- Active operations under which an observation may replace the PID. -/
def activeAllowsReplacement (recreated : RecreatedProcess) (current : ContainerState) :
    Option StoredOperationKind → Bool
  | none => true
  | some kind =>
    match recreated, current, kind with
    | .created, .created, .start => true
    | .running, .running, .kill | .running, .running, .pause | .running, .running, .resume
    | .running, .running, .update | .running, .running, .file | .running, .running, .filesystem =>
      true
    | .runningPaused, .running, .pause | .runningPaused, .running, .resume => true
    | _, _, _ => false

def freezerMatches (recreated : RecreatedProcess) (paused : Bool) : Bool :=
  match recreated with
  | .runningPaused => paused
  | .created | .running => !paused
  | .none => false

/-- Follow a replaced PID; an unexplained one is a conflict. -/
def observedPid (id : ContainerId) (state : State) (activeKind : Option StoredOperationKind)
    (observed : DriverState) (recreated : RecreatedProcess) : Result (State × Bool) :=
  if state.pid = observed.pid then .ok (state, false)
  else if replacementMatches recreated state.status ∧
      activeAllowsReplacement recreated state.status activeKind ∧
      freezerMatches recreated (isPaused state) then do
    let rebuilt := rebuildState state state.status observed.pid
    validateState rebuilt
    return (rebuilt, true)
  else .error (stateError .conflict "observe-state"
    (s!"container {id.value} PID mismatch: durable {debugPid state.pid}, " ++
      s!"driver {debugPid observed.pid}"))

/-- Follow the observed freezer state. -/
def observedFreezer (state : State) (paused : Bool) (changed : Bool) : Result (State × Bool) :=
  if isPaused state = paused then .ok (state, changed)
  else do
    let rebuilt ← rebuildPausedState state paused
    validateState rebuilt
    return (rebuilt, true)

/-- The durable state after an observation, and whether it differs from the one before. -/
def observedState (id : ContainerId) (state : State) (activeKind : Option StoredOperationKind)
    (observed : DriverState) (recreated : RecreatedProcess) : Result (State × Bool) :=
  let name := "observe-state"
  let irreconcilable : Error := stateError .conflict name
    (s!"container {id.value} cannot reconcile durable {state.status.text} with driver " ++
      observed.status.text)
  match state.status, observed.status with
  | .created, .created | .running, .running => do
    let (followed, changed) ← observedPid id state activeKind observed recreated
    observedFreezer followed observed.paused changed
  | .created, .running =>
    if activeKind = some .start then do
      let lifecycle ← advance .created .startCompleted name
      let running := rebuildState state (containerState lifecycle) observed.pid
      let rebuilt ← carryPaused observed.paused running
      validateState rebuilt
      return (rebuilt, true)
    else .error irreconcilable
  | .created, .stopped | .running, .stopped => do
    let lifecycle ← advance (lifecycleState state.status) .processExited name
    let rebuilt := rebuildState state (containerState lifecycle) none
    validateState rebuilt
    return (rebuilt, true)
  | .stopped, .stopped => .ok (state, false)
  | _, _ => .error irreconcilable

/-- The event of an operation that an observation settles. -/
def appendObservedEvent (clock : Clock) (operation : StoredOperation) : StoreM Unit :=
  match operation.kind with
  | .start => appendContainerEvent clock .started operation.containerId operation.generation
      .containerStarted []
  | .pause => appendFreezerEvent clock operation .pause
  | .resume => appendFreezerEvent clock operation .resume
  | _ => pure ()

/-- The outcome an observation journals. -/
def observedOutcome (operation : StoredOperation) (record : ContainerRecord) :
    Result StoredOperationStatus :=
  match operation.kind with
  | .signalProcess => .ok .succeededEmpty
  | .start | .kill | .pause | .resume => .ok (.succeeded record)
  | _ => .error (stateError .internal "observe-state"
      (s!"operation {operation.operationId.value} cannot complete from a container " ++
        "observation"))

/-- The active operation, if the observation settles it. -/
def completedOperation (active : Option StoredOperation) (observed : DriverState) :
    Option StoredOperation :=
  active.filter fun operation => observationCompletes operation.kind observed

/-- Journal the operation that an observation settled. -/
def settleObserved (completed : Option StoredOperation) (record : ContainerRecord) : StoreM Unit :=
  match completed with
  | none => pure ()
  | some operation => do
    let outcome ← check (observedOutcome operation record)
    settle operation outcome

/-- Append the event of the operation that an observation settled. -/
def appendCompletedEvent (clock : Clock) (completed : Option StoredOperation) : StoreM Unit :=
  match completed with
  | none => pure ()
  | some operation => appendObservedEvent clock operation

/-- Append the event of a container that stopped under the observation. -/
def appendObservedStop (clock : Clock) (stored : StoredContainer) (observed : DriverState) :
    StoreM Unit :=
  if observed.status = .stopped ∧ stored.record.state.status ≠ .stopped then
    appendStoppedEvent clock stored.id stored.record.generation
  else pure ()

/-- Store the observed record if it changed. -/
def writeObserved (stored : StoredContainer) (changed : Bool) : StoreM Unit :=
  if changed then commit (·.writeContainer stored) else pure ()

section
variable (target : ContainerTarget)

section
variable (observed : DriverState)

def observeStateInner (recreated : RecreatedProcess) : StoreM ContainerRecord := do
  check (validateObservation observed)
  let stored ← read (loadRequested sdk target "observe-state")
  let active ← read (observedActive sdk stored)
  check (validateRecreated stored recreated)
  let completed := completedOperation active observed
  let (state, changed) ← check
    (observedState target.id stored.record.state (active.map (·.kind)) observed recreated)
  let record := { stored.record with state }
  let claim := if completed.isSome then none else stored.activeOperation
  writeObserved { stored with record, activeOperation := claim } (changed || completed.isSome)
  appendCompletedEvent clock completed
  appendObservedStop clock stored observed
  settleObserved completed record
  return record

def observeStateWithPause
    (status : ContainerState) (pid : Option Int) (paused : Bool) : StoreM ContainerRecord :=
  observeStateInner sdk clock target ⟨status, pid, paused⟩ .none

def observeState (status : ContainerState) (pid : Option Int) : StoreM ContainerRecord :=
  observeStateWithPause sdk clock target status pid false

/-- Replacement-owner recovery of a created, a running or a paused running process. -/
def observeRecreatedProcess (status : ContainerState) (paused : Bool)
    (recreated : RecreatedProcess) (name message : String) : StoreM ContainerRecord := do
  rejectIf (observed.status ≠ status ∨ observed.paused ≠ paused)
    (stateError .invalidArgument name message)
  observeStateInner sdk clock target observed recreated

def observeRecreatedCreatedProcess : StoreM ContainerRecord :=
  observeRecreatedProcess sdk clock target observed .created false .created
    "observe-recreated-created-process"
    "replacement-owner recovery requires an unpaused created state"

def observeRecreatedRunningProcess : StoreM ContainerRecord :=
  observeRecreatedProcess sdk clock target observed .running false .running
    "observe-recreated-running-process"
    "replacement-owner recovery requires an unpaused running state"

def observeRecreatedPausedRunningProcess : StoreM ContainerRecord :=
  observeRecreatedProcess sdk clock target observed .running true .runningPaused
    "observe-recreated-paused-running-process"
    "replacement-owner paused recovery requires a paused running state"

end

end

end OciRuntime
