import Mathlib.Data.List.Sort
import OciRuntime.State.ProcessRecord

/-!
# `OciRuntime.State.Process` — exec, process signals and waits

The rest of `state/process.rs` and `state/process_recovery.rs`. An exec creates a process record
that it claims itself; a signal claims the container (for the init process) or one process record;
a wait stores the terminal result of a process.
-/

namespace OciRuntime

open Durable Program

variable (sdk : Sdk) (clock : Clock)

abbrev ProcessOperationPreparation := Preparation ProcessRecord ProcessRecord
abbrev SignalProcessPreparation := Preparation ProcessTarget Unit

/-- Waits are not journaled: they are driven (`prepared`) or their result is known. -/
abbrev ProcessWaitPreparation := Preparation ProcessTarget ExitStatus

/-! ## Exec -/

/-- Bring the record of a prepared exec into existence, keeping an earlier attempt's. -/
def reconcilePreparedExec (request : ExecRequest) (operation : StoredOperation) :
    StoreM StoredProcess := do
  let name := "reconcile-exec"
  let container ← read (loadStoredExact sdk operation.containerId operation.generation)
  check (ensureContainerUnclaimed container name)
  let processId ← check (requiredOperationProcessId operation name)
  let target := exactProcessTarget container processId
  ensureProcessDirectory container.id
  let existing ← read fun s => .ok (s.process? target)
  match existing with
  | some _ => do
    let process ← read (loadStoredProcess target)
    rejectIf (process.record.terminal ≠ request.terminal) (stateError .conflict name
      s!"process {processId.value} terminal mode differs from its durable exec request")
    return process
  | none => do
    let process : StoredProcess :=
      { schemaVersion := processSchemaVersion
        record := { target, pid := none, terminal := request.terminal }
        activeOperation := some operation.operationId
        activeIoOperations := ∅
        exitStatus := none }
    commit (·.writeProcess process)
    return process

def appendExecEvents (clock : Clock) (process : ProcessRecord) : StoreM Unit := do
  let name := "append-exec-events"
  let processId := process.target.processId
  let pid ← check (okOr process.pid (stateError .failedPrecondition name
    s!"process {processId.value} has no durable PID"))
  rejectIf (pid = 0) (stateError .failedPrecondition name
    s!"process {processId.value} has durable PID zero")
  let attributes := [("pid", s!"{pid}"), ("terminal", s!"{process.terminal}")]
  let generation ← check (exactTargetKey process.target.container)
  appendProcessEvent clock .created process.target.container.id generation processId
    .processCreated attributes
  appendProcessEvent clock .started process.target.container.id generation processId
    .processStarted attributes

/-- Drop the mutation claim of a process if there is one. -/
def releaseProcessIfClaimed (process : StoredProcess) : StoreM Unit :=
  match process.activeOperation with
  | some _ => commit (·.writeProcess { process with activeOperation := none })
  | none => pure ()

/-- Retry of a prepared exec: settle it if the process already has its PID, resume otherwise. -/
def resumeExec (request : ExecRequest) (operation : StoredOperation) :
    StoreM ProcessOperationPreparation := do
  let operationId := request.context.operationId
  let process ← reconcilePreparedExec sdk request operation
  if process.record.pid.isSome then do
    check (ensureActiveProcessOperation process operationId "prepare-exec")
    releaseProcessIfClaimed process
    appendExecEvents clock process.record
    settle operation (.succeededProcess process.record)
    return .replayed process.record
  else do
    let claimed ← claimActiveProcessOperation sdk process operationId "prepare-exec"
    return .resume claimed.record

def validateProcessResponse (response : ProcessRecord) (operation : StoredOperation)
    (name : String) : Result Unit := do
  let processId ← requiredOperationProcessId operation name
  rejectIf (response.target.container ≠ .exact operation.containerId operation.generation ∨
      response.target.processId ≠ processId ∨ response.pid.isNone ∨ response.pid = some 0)
    (stateError .failedPrecondition name
      s!"operation {operation.operationId.value} contains an invalid process response")

/-- Replay a completed exec, following a process ID that recovery has replaced since. -/
def reconcileSucceededExec (operation : StoredOperation) (response : ProcessRecord) :
    StoreM ProcessOperationPreparation := do
  let name := "reconcile-succeeded-exec"
  check (validateProcessResponse response operation name)
  let live ← read (loadForReplay sdk operation)
  match live with
  | none => pure (.replayed response)
  | some container =>
    if container.record.generation ≠ operation.generation then pure (.replayed response)
    else do
      let processId ← check (requiredOperationProcessId operation name)
      let process ← read (loadStoredProcess (exactProcessTarget container processId))
      if process.record = response then pure (.replayed response)
      else do
        rejectIf (container.record.state.status ≠ .running ∨ process.exitStatus.isSome ∨
            process.record.target ≠ response.target ∨
            process.record.terminal ≠ response.terminal ∨ process.record.pid.isNone)
          (stateError .conflict name
            (s!"completed exec operation {operation.operationId.value} changed beyond its " ++
              "recovered process identity"))
        settle operation (.succeededProcess process.record)
        return .replayed process.record

/-- What a container must satisfy before a new exec is journaled. -/
def validateExecTarget (container : StoredContainer) (target : ContainerTarget) : Result Unit := do
  let name := "prepare-exec"
  validateRequestedGeneration container target name
  ensureContainerUnclaimed container name
  rejectIf (container.record.state.status ≠ .running) (stateError .failedPrecondition name
    (s!"container {container.id.value} generation {container.record.generation} cannot exec " ++
      s!"while {container.record.state.status.text}"))
  rejectIf container.record.isPaused (stateError .failedPrecondition name
    (s!"container {container.id.value} generation {container.record.generation} cannot exec " ++
      "while paused"))

def prepareExec (request : ExecRequest) : StoreM ProcessOperationPreparation := do
  let name := "prepare-exec"
  let operationId := request.context.operationId
  check (request.validate sdk)
  let digest := sdk.requestDigest
    (.exec request.container request.processId request.process request.io)
  let journaled ← read (loadOperationIfPresent sdk operationId)
  match journaled with
  | some operation => do
    check (validateProcessRetry operation operationId .exec request.container.id
      request.processId digest name)
    match operation.outcome with
    | .prepared => resumeExec sdk clock request operation
    | .succeededProcess response => reconcileSucceededExec sdk operation response
    | .failed error => throw error
    | _ => throw (stateError .failedPrecondition name
        s!"exec operation {operationId.value} has an invalid outcome")
  | none => do
    check (validateDeadline clock request.context name)
    let container ← read (loadStoredContainer sdk request.container.id)
    check (validateExecTarget container request.container)
    let target := exactProcessTarget container request.processId
    ensureProcessDirectory container.id
    let existing ← read fun s => .ok (s.process? target)
    rejectIf existing.isSome (stateError .alreadyExists name
      (s!"process {request.processId.value} already exists in container {container.id.value} " ++
        s!"generation {container.record.generation}"))
    let operation := preparedOperation operationId .exec container.id container.record.generation
      (some request.processId) none digest
    commit (·.writeOperation operation)
    let process ← reconcilePreparedExec sdk request operation
    return .prepared process.record

/-- The positive process ID a driver reports for an exec. -/
def execPid (pid : Int) : Result Nat := do
  rejectIf (pid < 0) (stateError .invalidArgument "complete-exec"
    ("driver exec PID must be positive and fit u32: out of range integral type conversion " ++
      "attempted"))
  rejectIf (pid = 0) (stateError .invalidArgument "complete-exec"
    "driver exec PID must be positive")
  return pid.toNat

/-- The process record a completed exec commits. -/
def executedProcess (process : StoredProcess) (pid : Nat) (terminal : Bool) :
    Result ProcessRecord :=
  let name := "complete-exec"
  let processId := process.record.target.processId
  if process.record.terminal ≠ terminal then
    .error (stateError .conflict name
      (s!"driver terminal mode {terminal} differs from durable mode {process.record.terminal} " ++
        s!"for process {processId.value}"))
  else
    match process.record.pid with
    | none => .ok { process.record with pid := some pid }
    | some existing =>
      if existing = pid then .ok process.record
      else .error (stateError .conflict name
        s!"process {processId.value} PID mismatch: durable {existing}, driver {pid}")

/-- Outcome of an operation whose success is a process record: `none` while it is prepared. -/
def processOutcome (outcome : StoredOperationStatus) (invalid : Error) :
    Result (Option ProcessRecord) :=
  match outcome with
  | .prepared => .ok none
  | .succeededProcess response => .ok (some response)
  | .failed error => .error error
  | _ => .error invalid

/-- Outcome of an operation whose success is empty: `false` while it is prepared. -/
def emptyOutcome (outcome : StoredOperationStatus) (invalid : Error) : Result Bool :=
  match outcome with
  | .prepared => .ok false
  | .succeededEmpty => .ok true
  | .failed error => .error error
  | _ => .error invalid

def completeExec (operationId : OperationId) (pid : Int)
    (terminal : Bool) : StoreM ProcessRecord := do
  let name := "complete-exec"
  let pid ← check (execPid pid)
  let operation ← read (loadOperation sdk operationId)
  rejectIf (operation.kind ≠ .exec) (stateError .failedPrecondition name
    s!"operation {operationId.value} is not an OCI exec")
  let done ← check (processOutcome operation.outcome (stateError .failedPrecondition name
    s!"exec operation {operationId.value} has an invalid outcome"))
  match done with
  | some response => pure response
  | none => do
    let container ← read (loadStoredExact sdk operation.containerId operation.generation)
    let processId ← check (requiredOperationProcessId operation name)
    let process ← read (loadStoredProcess (exactProcessTarget container processId))
    check (ensureActiveProcessOperation process operationId name)
    let response ← check (executedProcess process pid terminal)
    commit (·.writeProcess { process with record := response, activeOperation := none })
    appendExecEvents clock response
    settle operation (.succeededProcess response)
    return response

/-! ## Signals -/

def validateSignalTarget (container : StoredContainer) (target : ProcessTarget) (s : Store) :
    Result Unit := do
  let name := "prepare-signal-process"
  let status := container.record.state.status
  rejectIf (status ≠ .created ∧ status ≠ .running) (stateError .failedPrecondition name
    (s!"container {container.id.value} generation {container.record.generation} cannot signal " ++
      s!"process {target.processId.value} while {status.text}"))
  if target.processId.isInit then .ok ()
  else do
    let process ← loadStoredProcess target s
    rejectIf process.record.pid.isNone (execIncomplete target.processId name)
    rejectIf process.exitStatus.isSome (stateError .failedPrecondition name
      s!"process {target.processId.value} has already exited")

/-- Claim the container for a signal to its init process, one process record otherwise. -/
def claimSignalProcess (operation : StoredOperation) (operationId : OperationId) :
    StoreM ProcessTarget := do
  let name := "claim-signal-process"
  let container ← read (loadStoredExact sdk operation.containerId operation.generation)
  let processId ← check (requiredOperationProcessId operation name)
  let target := exactProcessTarget container processId
  if processId.isInit then do
    let _ ← claimActiveOperation sdk container operationId .signalProcess name
    return target
  else do
    check (ensureContainerUnclaimed container name)
    let process ← read (loadStoredProcess target)
    let _ ← claimActiveProcessOperation sdk process operationId name
    return target

def prepareSignalProcess (request : SignalProcessRequest) : StoreM SignalProcessPreparation := do
  let name := "prepare-signal-process"
  let operationId := request.context.operationId
  let digest := sdk.requestDigest (.signalProcess request.process request.signal)
  let journaled ← read (loadOperationIfPresent sdk operationId)
  match journaled with
  | some operation => do
    check (validateProcessRetry operation operationId .signalProcess request.process.container.id
      request.process.processId digest name)
    match operation.outcome with
    | .prepared => do
      let target ← claimSignalProcess sdk operation operationId
      return .resume target
    | .succeededEmpty => pure (.replayed ())
    | .failed error => throw error
    | _ => throw (stateError .failedPrecondition name
        s!"signal operation {operationId.value} has an invalid outcome")
  | none => do
    check (validateDeadline clock request.context name)
    let container ← read (loadStoredContainer sdk request.process.container.id)
    check (validateRequestedGeneration container request.process.container name)
    check (ensureContainerUnclaimed container name)
    read (validateSignalTarget container (exactProcessTarget container request.process.processId))
    let operation := preparedOperation operationId .signalProcess container.id
      container.record.generation (some request.process.processId) none digest
    commit (·.writeOperation operation)
    let target ← claimSignalProcess sdk operation operationId
    return .prepared target

def completeSignalProcess (operationId : OperationId) : StoreM Unit := do
  let name := "complete-signal-process"
  let operation ← read (loadOperation sdk operationId)
  rejectIf (operation.kind ≠ .signalProcess) (stateError .failedPrecondition name
    s!"operation {operationId.value} is not a process signal")
  let done ← check (emptyOutcome operation.outcome (stateError .failedPrecondition name
    s!"signal operation {operationId.value} has an invalid outcome"))
  if done then pure ()
  else do
    releaseProcessOperationClaim sdk operation operationId name
    settle operation .succeededEmpty

/-! ## Waits -/

def exitStatusAttributes (status : ExitStatus) : List (String × String) :=
  (status.exitCode.map fun code => ("exit-code", s!"{code}")).toList ++
    [("oom-killed", s!"{status.oomKilled}")] ++
    (status.signal.map fun signal => ("signal", s!"{signal}")).toList

def ExitStatus.debug (status : ExitStatus) : String :=
  s!"ExitStatus \x7b exit_code: {debugPid status.exitCode}, signal: {debugPid status.signal}, " ++
    s!"oom_killed: {status.oomKilled} \x7d"

def exitStatusConflict (target : ProcessTarget) (durable observed : ExitStatus) : Error :=
  stateError .conflict "complete-process-wait"
    (s!"process {target.processId.value} terminal result mismatch: durable {durable.debug}, " ++
      s!"driver {observed.debug}")

def prepareWaitProcess (requested : ProcessTarget) : StoreM ProcessWaitPreparation := do
  let name := "prepare-wait-process"
  let container ← read (loadStoredContainer sdk requested.container.id)
  check (validateRequestedGeneration container requested.container name)
  let target := exactProcessTarget container requested.processId
  if target.processId.isInit then
    match container.initExitStatus with
    | some status => pure (.replayed status)
    | none => do
      rejectIf (container.record.state.status = .creating) (noPreparedInit container name)
      return .prepared target
  else do
    let process ← read (loadStoredProcess target)
    match process.exitStatus with
    | some status => pure (.replayed status)
    | none => do
      rejectIf process.record.pid.isNone (execIncomplete target.processId name)
      return .prepared target

/-- The state after the init process was waited for. -/
def waitedState (container : StoredContainer) : Result State :=
  let state := container.record.state
  match state.status with
  | .created | .running => do
    let rebuilt := rebuildState state .stopped none
    validateState rebuilt
    return rebuilt
  | .stopped => .ok state
  | .creating => .error (noPreparedInit container "complete-process-wait")

/-- Store the terminal result of the init process; the container stops with it. -/
def completeInitWait (clock : Clock) (container : StoredContainer) (target : ProcessTarget)
    (status : ExitStatus) : StoreM ExitStatus :=
  match container.initExitStatus with
  | some existing =>
    if existing = status then pure existing
    else throw (exitStatusConflict target existing status)
  | none => do
    let state ← check (waitedState container)
    let id := container.id
    let generation := container.record.generation
    appendProcessEvent clock .exited id generation target.processId .processExited
      (exitStatusAttributes status)
    if container.record.state.status = .stopped then do
      commit (·.writeContainer { container with initExitStatus := some status })
      return status
    else do
      appendStoppedEvent clock id generation
      commit (·.writeContainer { container with
        record := { container.record with state }, initExitStatus := some status })
      return status

def completeProcessWait (target : ProcessTarget) (status : ExitStatus) : StoreM ExitStatus := do
  check status.validate
  let generation ← check (okOr target.container.generation
    (stateError .invalidArgument "complete-process-wait"
      "process wait completion requires an exact container generation"))
  let container ← read (loadStoredExact sdk target.container.id generation)
  if target.processId.isInit then completeInitWait clock container target status
  else do
    let process ← read (loadStoredProcess target)
    match process.exitStatus with
    | some existing =>
      if existing = status then pure existing
      else throw (exitStatusConflict target existing status)
    | none => do
      appendProcessEvent clock .exited target.container.id generation target.processId
        .processExited (exitStatusAttributes status)
      commit (·.writeProcess { process with exitStatus := some status })
      return status

/-! ## Replacement of executed processes -/

/-- The evidence a replacement driver returns: distinct live processes of this generation. -/
def collectObservedProcesses (target : ContainerTarget) (initPid : Nat)
    (seen : List ProcessRecord) : List ProcessRecord → Result (List ProcessRecord)
  | [] => .ok seen
  | process :: rest => do
    let name := "observe-recreated-exec-processes"
    rejectIf (process.target.container ≠ target ∨ process.target.processId.isInit ∨
        process.pid.isNone ∨ process.pid = some 0 ∨ process.pid = some initPid)
      (stateError .conflict name
        ("replacement driver returned an invalid, init-aliasing, or cross-generation exec " ++
          "process"))
    rejectIf (seen.any fun other =>
        other.pid = process.pid ∨ other.target.processId = process.target.processId)
      (stateError .conflict name "replacement driver returned duplicate exec process evidence")
    collectObservedProcesses target initPid (process :: seen) rest

/-- The process ID in the name of a transaction file. -/
def stripTransaction (fileName : String) : Option String :=
  match fileName.toList with
  | '.' :: rest => stripSuffix ".json.next" (String.ofList rest)
  | _ => none

/-- The records in a listing that have a PID and no terminal result; transaction files are skipped. -/
def liveProcesses (container : StoredContainer) (s : Store) :
    List String → Result (List (ProcessId × StoredProcess))
  | [] => .ok []
  | fileName :: rest =>
    let name := "observe-recreated-exec-processes"
    match stripTransaction fileName with
    | some value => do
      let _ ← (ProcessId.new value).mapError fun error => stateError .failedPrecondition name
        s!"invalid process transaction filename {fileName}: {error.message}"
      liveProcesses container s rest
    | none => do
      let processId ← parseProcessFileName name fileName
      let process ← loadStoredProcess (exactProcessTarget container processId) s
      let others ← liveProcesses container s rest
      return if process.record.pid.isSome ∧ process.exitStatus.isNone then
        (processId, process) :: others else others

def loadLiveProcesses (container : StoredContainer) (s : Store) :
    Result (List (ProcessId × StoredProcess)) :=
  match (s.containers.get? container.id).bind (·.processes) with
  | none => .ok []
  | some processes => liveProcesses container s (processListing sdk processes)

/-- Store the replaced PID of one process. -/
def rebindExecProcess (durable : StoredProcess) (observed : ProcessRecord) : StoreM Unit := do
  rejectIf (durable.record.terminal ≠ observed.terminal)
    (stateError .conflict "observe-recreated-exec-processes"
      (s!"replacement process {observed.target.processId.value} terminal mode differs from " ++
        "durable state"))
  if durable.record.pid = observed.pid then pure ()
  else commit (·.writeProcess
    { durable with record := { durable.record with pid := observed.pid } })

def rebindExecProcesses (durable : List (ProcessId × StoredProcess)) :
    List ProcessRecord → StoreM Unit
  | [] => pure ()
  | observed :: rest => do
    let process ← check (okOr (durable.lookup observed.target.processId)
      (stateError .internal "observe-recreated-exec-processes"
        (s!"durable process {observed.target.processId.value} disappeared during recovery")))
    rebindExecProcess process observed
    rebindExecProcesses durable rest

def sortedIds (ids : List ProcessId) : List String :=
  (ids.map (·.value)).insertionSort (· ≤ ·)

/-- Follow the replacement of every live executed process by a new driver owner. -/
def observeRecreatedExecProcesses (target : ContainerTarget)
    (observed : List ProcessRecord) : StoreM Unit := do
  let name := "observe-recreated-exec-processes"
  let generation ← check (okOr target.generation (stateError .invalidArgument name
    "replacement exec recovery requires an exact container generation"))
  let container ← read (loadStoredExact sdk target.id generation)
  rejectIf (container.record.state.status ≠ .running ∨ container.record.isPaused)
    (stateError .conflict name
      (s!"container {container.id.value} generation {generation} must be running and unpaused " ++
        "for exec recovery"))
  let initPid ← check (okOr (container.record.state.pid.filter (0 ≤ ·)) (stateError .conflict name
    "running replacement container has no positive init PID"))
  let evidence ← check (collectObservedProcesses target initPid.toNat [] observed)
  let durable ← read (loadLiveProcesses sdk container)
  let observedIds := evidence.map (·.target.processId)
  let durableIds := durable.map Prod.fst
  let missing := sortedIds (durableIds.filter (· ∉ observedIds))
  let unexpected := sortedIds (observedIds.filter (· ∉ durableIds))
  rejectIf (missing ≠ [] ∨ unexpected ≠ []) (stateError .conflict name
    ("replacement exec inventory differs from durable live processes: missing [" ++
      ", ".intercalate missing ++ "], unexpected [" ++ ", ".intercalate unexpected ++ "]"))
  rebindExecProcesses durable
    (evidence.insertionSort fun a b => a.target.processId.value ≤ b.target.processId.value)

end OciRuntime
