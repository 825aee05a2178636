import OciRuntime.Shim.Metadata

/-!
# `OciRuntime.Shim.Task` — the task in the memory of the shim

A request of containerd changes the task in memory and then writes it to the metadata file, in one
section behind the shim's metadata gate (`service.rs`, `service/journal.rs`, `service/control.rs`,
`service/signal.rs`, `service/resize.rs`, `service/task.rs`). Here are those changes, as functions
of the task.

## Contents
- **The task.** `TaskState`, `metadataFromTask`, `TaskState.journal`, `TaskState.setJournal`.
- **Input and output.** the stdin journal and the output cursor of a process.
- **Operations.** signals, resizes and control operations: prepared, then settled.
- **Execs and exits.** `addExec`, `deleteExec`, `recordExit`.

A section that finds its change already made returns `none`: it writes nothing.
-/

namespace OciRuntime

open Durable

/-! ## The task -/

structure TaskState extends ProcessJournal where
  identity : TaskIdentity
  bundle : String
  restoreState : RestoreState
  controlSequence : Nat
  pendingControl : Option PendingControlOperation
  lastUpdateDigest : Option String
  rootfsMounted : Bool
  record : ContainerRecord
  execSequence : Nat
  /-- Ordered by exec ID, as the map of the source is. -/
  execs : List ExecMetadata
  deriving DecidableEq

/-- An Update whose resources were never recorded: only older schemas have one. -/
def PendingControlOperation.isLegacyUpdate (operation : PendingControlOperation) : Bool :=
  operation.kind == .update && operation.resources.isNone

def metadataFromTask (task : TaskState) : ShimMetadata where
  toProcessJournal := task.toProcessJournal
  schemaVersion := if task.pendingControl.any (·.isLegacyUpdate) then
    controlResourcesSchemaVersion - 1 else metadataSchemaVersion
  namespace_ := task.identity.namespace_
  taskId := task.identity.taskId
  incarnation := task.identity.incarnation.map (·.value)
  containerId := task.identity.containerId
  generation := task.record.generation
  driver := task.record.driver
  isolation := task.record.isolation
  bundle := task.bundle
  restoreState := task.restoreState
  controlSequence := task.controlSequence
  pendingControl := task.pendingControl
  lastUpdateDigest := task.lastUpdateDigest
  rootfsMounted := task.rootfsMounted
  execSequence := task.execSequence
  execs := task.execs

/-- The task that `restore_task` rebuilds from the file and the record of the runtime. -/
def ShimMetadata.rehydrate (metadata : ShimMetadata) (identity : TaskIdentity)
    (record : ContainerRecord) (restoreState : RestoreState) : TaskState where
  toProcessJournal := metadata.toProcessJournal
  identity := identity
  bundle := metadata.bundle
  restoreState := restoreState
  controlSequence := metadata.controlSequence
  pendingControl := metadata.pendingControl
  lastUpdateDigest := metadata.lastUpdateDigest
  rootfsMounted := metadata.rootfsMounted
  record := record
  execSequence := metadata.execSequence
  execs := metadata.execs

namespace TaskState

def exec (task : TaskState) (execId : String) : Option ExecMetadata :=
  task.execs.find? (·.execId = execId)

/-- The journal of the init process, or of an exec. -/
def journal (task : TaskState) : Option String → Option ProcessJournal
  | none => some task.toProcessJournal
  | some execId => (task.exec execId).map (·.toProcessJournal)

def modifyExec (task : TaskState) (execId : String) (change : ExecMetadata → ExecMetadata) :
    TaskState :=
  { task with execs := task.execs.map fun exec =>
      if exec.execId = execId then change exec else exec }

def setJournal (task : TaskState) (execId : Option String) (journal : ProcessJournal) : TaskState :=
  match execId with
  | none => { task with toProcessJournal := journal }
  | some execId => task.modifyExec execId fun exec => { exec with toProcessJournal := journal }

/-- Run a change of one process's journal; the exec may be gone. -/
def withJournal (task : TaskState) (execId : Option String) (missing : Error)
    (change : ProcessJournal → Result (Option ProcessJournal)) : Result (Option TaskState) := do
  let journal ← okOr (task.journal execId) missing
  let changed ← change journal
  .ok (changed.map (task.setJournal execId))

end TaskState

/-! ## Input and output -/

namespace ProcessJournal

/-- `DurableOutputCursor::commit`. -/
def commitOutput (journal : ProcessJournal) (cursor : Nat) : Result (Option ProcessJournal) :=
  if cursor ≤ journal.outputCursor then .ok none
  else .ok (some { journal with outputCursor := cursor })

def stdinJournalError (code : ErrorCode) (message : String) : Error :=
  (Error.new code message).forOperation "containerd-stdin-journal"

/-- `DurableStdinJournal::prepare`. -/
def prepareStdin (journal : ProcessJournal) (sequence : Nat) (data : List UInt8) :
    Result (Option ProcessJournal) := do
  let pending ← PendingStdinWrite.new sequence data
  rejectIf (journal.stdinCloseState ≠ .opened) (stdinJournalError .failedPrecondition
    "containerd stdin cannot prepare a write after close has started")
  match journal.pendingStdinWrite with
  | some current =>
    rejectIf (current ≠ pending) (stdinJournalError .conflict
      s!"containerd stdin sequence {current.sequence} is already pending with different data")
    .ok none
  | none =>
    rejectIf (¬ IsNext journal.stdinSequence sequence) (stdinJournalError .conflict
      (s!"containerd stdin sequence {sequence} does not follow completed sequence " ++
        s!"{journal.stdinSequence}"))
    .ok (some { journal with pendingStdinWrite := some pending })

/-- `DurableStdinJournal::commit`. -/
def commitStdin (journal : ProcessJournal) (sequence : Nat) : Result (Option ProcessJournal) :=
  if journal.stdinSequence = sequence ∧ journal.pendingStdinWrite = none then .ok none
  else do
    let pending ← okOr journal.pendingStdinWrite (stdinJournalError .conflict
      s!"containerd stdin sequence {sequence} was not prepared")
    rejectIf (pending.sequence ≠ sequence ∨ ¬ IsNext journal.stdinSequence sequence)
      (stdinJournalError .conflict
        (s!"containerd stdin commit sequence {sequence} does not match completed sequence " ++
          s!"{journal.stdinSequence} and pending sequence {pending.sequence}"))
    .ok (some { journal with pendingStdinWrite := none, stdinSequence := sequence })

/-- `DurableStdinJournal::prepare_close`. -/
def prepareStdinClose (journal : ProcessJournal) : Result (Option ProcessJournal) :=
  if journal.stdinCloseState ≠ .opened then .ok none
  else do
    rejectIf (journal.pendingStdinWrite.isSome = true) (stdinJournalError .conflict
      "containerd stdin cannot close while a write remains pending")
    .ok (some { journal with stdinCloseState := .closing })

/-- `DurableStdinJournal::commit_close`. -/
def commitStdinClose (journal : ProcessJournal) : Result (Option ProcessJournal) :=
  if journal.stdinCloseState = .closed then .ok none
  else do
    rejectIf (journal.stdinCloseState ≠ .closing ∨ journal.pendingStdinWrite.isSome = true)
      (stdinJournalError .conflict
        "containerd stdin close was not prepared from a fully committed write stream")
    .ok (some { journal with stdinCloseState := .closed })

/-! ## Operations -/

def sequenceExhausted (what : String) : Error :=
  (Error.new .resourceExhausted s!"exhausted its durable {what} sequence").forOperation
    s!"containerd-{what}-prepare"

/-- The next sequence of a journal. -/
def nextSequence (completed : Nat) (what : String) : Result Nat := do
  rejectIf (u64Max < completed + 1) (sequenceExhausted what)
  .ok (completed + 1)

/-- `prepare_signal`: a signal that is still pending is taken up again, whatever was asked for. -/
def prepareSignal (journal : ProcessJournal) (signal : Int) (all : Bool) :
    Result (Option ProcessJournal) :=
  match journal.pendingSignal with
  | some _ => .ok none
  | none => do
    let sequence ← nextSequence journal.signalSequence "signal"
    let pending := PendingSignal.mk sequence signal all
    pending.validate
    .ok (some { journal with pendingSignal := some pending })

/-- The journal's part of `complete_signal`. -/
def completeSignal (journal : ProcessJournal) (operation : PendingSignal) :
    Result (Option ProcessJournal) := do
  rejectIf (journal.pendingSignal ≠ some operation) (Error.new .internal
    s!"signal sequence {operation.sequence} changed before completion")
  rejectIf (¬ IsNext journal.signalSequence operation.sequence) (Error.new .internal
    (s!"signal sequence {operation.sequence} does not follow completed sequence " ++
      s!"{journal.signalSequence}"))
  .ok (some { journal with signalSequence := operation.sequence, pendingSignal := none })

/-- `prepare_resize`. -/
def prepareResize (journal : ProcessJournal) (size : TerminalSize) :
    Result (Option ProcessJournal) := do
  rejectIf (journal.terminal = false) (Error.new .failedPrecondition "is not a terminal process")
  match journal.pendingResize with
  | some _ => .ok none
  | none =>
    if journal.terminalSize = some size then .ok none
    else do
      let sequence ← nextSequence journal.resizeSequence "resize"
      let pending := PendingResize.mk sequence size
      pending.validate
      .ok (some { journal with pendingResize := some pending })

/-- `complete_resize`; a resize that was refused leaves the size as it was. -/
def completeResize (journal : ProcessJournal) (operation : PendingResize) (applied : Bool) :
    Result (Option ProcessJournal) := do
  rejectIf (journal.pendingResize ≠ some operation) (Error.new .internal
    s!"resize sequence {operation.sequence} changed before completion")
  rejectIf (¬ IsNext journal.resizeSequence operation.sequence) (Error.new .internal
    (s!"resize sequence {operation.sequence} does not follow completed sequence " ++
      s!"{journal.resizeSequence}"))
  .ok (some { journal with
    resizeSequence := operation.sequence
    pendingResize := none
    terminalSize := if applied then some operation.size else journal.terminalSize })

end ProcessJournal

namespace TaskState

/-- A response for a task must be about the same container, on the same driver. -/
def sameTarget (task : TaskState) (record : ContainerRecord) : Bool :=
  record.state.id == task.identity.containerId.value &&
    record.generation == task.record.generation && record.driver == task.record.driver &&
    record.isolation == task.record.isolation

def validateSignalResponse (task : TaskState) (execId : Option String)
    (record : Option ContainerRecord) : Result Unit := do
  rejectIf (execId.isSome = true ∧ record.isSome = true) ((Error.new .failedPrecondition
      "containerd exec signal unexpectedly returned a container record").forOperation
        "containerd-signal-journal")
  rejectIf (record.any (fun record => !task.sameTarget record) = true) ((Error.new .conflict
      ("containerd Kill response changed the task identity, generation, driver, " ++
        "or isolation")).forOperation "containerd-signal-complete")

/-- `complete_signal`; the terminal failure of a signal completes it without a record. -/
def completeSignal (task : TaskState) (execId : Option String) (operation : PendingSignal)
    (record : Option ContainerRecord) (missing : Error) : Result (Option TaskState) := do
  task.validateSignalResponse execId record
  let completed ← task.withJournal execId missing (·.completeSignal operation)
  .ok (completed.map fun task => { task with record := record.getD task.record })

def controlAlreadyApplied (task : TaskState) (kind : ControlOperationKind)
    (requestDigest : Option String) : Bool :=
  match kind with
  | .pause => task.record.isPaused
  | .resume => !task.record.isPaused
  | .update => task.lastUpdateDigest == requestDigest

/-- Taking up a pending operation again may supply the resources of an old Update. -/
def resumeControl (ids : ShimIdentities) (pending : PendingControlOperation)
    (resources : Option String) : Result PendingControlOperation :=
  match resources with
  | none => .ok pending
  | some resources => do
    rejectIf (pending.kind ≠ .update) (metadataError
      "Pause and Resume control operations must not record Linux resources")
    let operation := { pending with resources := some resources }
    operation.validateForSchema ids controlResourcesSchemaVersion
    .ok operation

def startBarrierError (message : String) : Error :=
  (Error.new .failedPrecondition message).forOperation "containerd-restore-start-barrier"

/-- `prepare_control`. -/
def prepareControl (ids : ShimIdentities) (task : TaskState) (kind : ControlOperationKind)
    (requestDigest resources : Option String) : Result (Option TaskState) := do
  rejectIf (task.restoreState = .pendingStart) (startBarrierError
    "a control operation requires the restored task to pass its Start barrier")
  match task.pendingControl with
  | some pending =>
    rejectIf (pending.kind ≠ kind ∨ pending.requestDigest ≠ requestDigest) (Error.new .conflict
      s!"pending control sequence {pending.sequence}; retry that request before another")
    let operation ← resumeControl ids pending resources
    if operation = pending then .ok none
    else .ok (some { task with pendingControl := some operation })
  | none =>
    if task.controlAlreadyApplied kind requestDigest then .ok none
    else do
      let sequence ← ProcessJournal.nextSequence task.controlSequence "control"
      let operation ← PendingControlOperation.new ids sequence kind requestDigest resources
      .ok (some { task with pendingControl := some operation })

def controlCompleteError (code : ErrorCode) (message : String) : Error :=
  (Error.new code message).forOperation "containerd-control-complete"

def validateControlResponse (kind : ControlOperationKind) (record : ContainerRecord) :
    Result Unit := do
  rejectIf (record.state.status ≠ .running) (controlCompleteError .failedPrecondition
    s!"returned runtime status {record.state.status.text} instead of running")
  rejectIf (kind = .pause ∧ record.isPaused = false) (controlCompleteError .failedPrecondition
    "containerd Pause returned an unpaused runtime record")
  rejectIf (kind = .resume ∧ record.isPaused = true) (controlCompleteError .failedPrecondition
    "containerd Resume returned a paused runtime record")

section
variable (task : TaskState)

def validateControlTarget (kind : ControlOperationKind) (record : ContainerRecord) : Result Unit :=
  rejectIf (task.sameTarget record = false ∨
      (kind = .update ∧ record.isPaused ≠ task.record.isPaused))
    (controlCompleteError .conflict
      ("response changed the task identity, generation, driver, isolation, " ++ "or freezer state"))

section
variable (operation : PendingControlOperation)

/-- The pending operation becomes the last completed one. -/
def settleControl : TaskState :=
  { task with controlSequence := operation.sequence, pendingControl := none }

/-- The state after a successful operation. -/
def applyControl (record : ContainerRecord) : TaskState :=
  { task.settleControl operation with
    record := record
    lastUpdateDigest := if operation.kind = .update then operation.requestDigest
      else task.lastUpdateDigest }

/-- `complete_control`. -/
def completeControl (record : ContainerRecord) : Result (Option TaskState) := do
  validateControlResponse operation.kind record
  rejectIf (task.pendingControl ≠ some operation) (Error.new .internal
    s!"control sequence {operation.sequence} changed before completion")
  task.validateControlTarget operation.kind record
  .ok (some (task.applyControl operation record))

/-- `finish_control_error`: a retryable failure keeps the operation pending. -/
def finishControlError (error : Error) : Result (Option TaskState) :=
  if error.isRetryable then .ok none
  else do
    rejectIf (task.pendingControl ≠ some operation) (Error.new .internal
      s!"control sequence {operation.sequence} changed after failure")
    .ok (some (task.settleControl operation))

end

/-! ## Execs and exits -/

def insertExec (exec : ExecMetadata) : List ExecMetadata → List ExecMetadata
  | [] => [exec]
  | next :: rest =>
    if exec.execId < next.execId then exec :: next :: rest else next :: insertExec exec rest

/-- The exec that `exec` adds, under the next incarnation. -/
def newExec (execId process stdin stdout stderr : String) (terminal : Bool) : ExecMetadata :=
  { ProcessJournal.new stdin stdout stderr terminal with
    execId, incarnation := task.execSequence + 1, stage := .added, process, record := none }

/-- The section of `exec`. -/
def addExec (execId process stdin stdout stderr : String) (terminal : Bool) :
    Result (Option TaskState) := do
  rejectIf (execId = "") (Error.new .invalidArgument "containerd exec ID must not be empty")
  rejectIf (task.restoreState = .pendingStart) (startBarrierError
    "a restored containerd task must pass its Start barrier before adding exec processes")
  rejectIf ((task.exec execId).isSome = true)
    (Error.new .alreadyExists s!"exec {execId} already exists")
  rejectIf (u64Max < task.execSequence + 1) ((Error.new .resourceExhausted
    s!"containerd task exhausted its exec incarnation sequence").forOperation
      "containerd-exec-allocate")
  .ok (some { task with
    execSequence := task.execSequence + 1
    execs := insertExec (task.newExec execId process stdin stdout stderr terminal) task.execs })

/-- The section of `delete` for an exec. -/
def deleteExec (execId : String) : Result (Option TaskState) := do
  let exec ← okOr (task.exec execId) (Error.new .notFound s!"unknown exec {execId}")
  rejectIf (exec.record.isSome = true ∧ exec.exit = none)
    (Error.new .failedPrecondition s!"cannot delete running exec {execId}")
  .ok (some { task with execs := task.execs.filter (·.execId ≠ execId) })

/-- An exit that another one would contradict is refused; the first one gets the time `now`. -/
def recordExitOf (journal : ProcessJournal) (exit : ExitStatus) (now : Nat) (changed : Error) :
    Result ProcessJournal := do
  rejectIf (journal.exit.any (fun stored => decide (stored ≠ exit)) = true) changed
  .ok { journal with exit := some exit, exitedAt := some (journal.exitedAt.getD now) }

/-- What `record_exit` does to the task, before it is written. -/
def recordExit (exec : Option ExecIdentity) (exit : ExitStatus) (now : Nat) : Result TaskState :=
  match exec with
  | none => do
    let journal ← recordExitOf task.toProcessJournal exit now (Error.new .internal
      s!"runtime changed the terminal status of task {task.identity.taskId}")
    .ok { task with toProcessJournal := journal }
  | some identity => do
    let exec ← okOr (task.exec identity.execId)
      (Error.new .notFound s!"unknown exec {identity.execId}")
    rejectIf (exec.incarnation ≠ identity.incarnation) (Error.new .conflict
      (s!"exec {identity.execId} incarnation {identity.incarnation} was replaced by " ++
        s!"incarnation {exec.incarnation}"))
    let journal ← recordExitOf exec.toProcessJournal exit now (Error.new .internal
      s!"runtime changed the terminal status of exec {identity.execId}")
    .ok (task.modifyExec identity.execId fun exec =>
      { exec with toProcessJournal := journal, stage := .exited })

end

end TaskState

/-- The code containerd is told about an exit (`exit_code`). -/
def ExitStatus.code (status : ExitStatus) : Nat :=
  match status.exitCode.bind (fun code => if 0 ≤ code then some code.toNat else none) with
  | some code => code
  | none =>
    match status.signal.bind (fun signal =>
        let code := min (128 + signal) (2 ^ 31 - 1)
        if 0 ≤ code then some code.toNat else none) with
    | some code => code
    | none => 255

end OciRuntime
