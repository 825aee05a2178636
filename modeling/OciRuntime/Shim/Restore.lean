import OciRuntime.Shim.File

/-!
# `OciRuntime.Shim.Restore` — how a replacement shim takes over a task

A shim that starts in a bundle with a metadata file rebuilds the task from the file and from what
the runtime says about the same container generation, and settles every operation that was pending
(`service/restore.rs` and the `replay_pending` functions of `service/control.rs`, `signal.rs` and
`resize.rs`). It writes the file after each operation that it settles, and once more at the end.

## Contents
- **Answers.** `RestoreAnswers`, the runtime's answers to the requests that are made on the way.
- **Exits.** `recoverStoppedInitExit`, `recoverPendingExecSignalExits`.
- **Pending operations.** `replayPendingControl`, `replayPendingSignals`, `replayPendingResizes`.
- **The whole.** `adoptExec`, `restoreTask`.
-/

namespace OciRuntime

open Durable Program

/-! ## Answers -/

/-- What the runtime answers while a task is restored. Every request is made at most once. `resize`
    is the answer after a failure that a finished process explains was taken for success. -/
structure RestoreAnswers where
  record : Result ContainerRecord
  initExit : Result ExitStatus
  execExit : ExecIdentity → Result (Option ExitStatus)
  control : PendingControlOperation → Result ContainerRecord
  signal : Option ExecIdentity → PendingSignal → Result (Option ContainerRecord)
  resize : Option ExecIdentity → PendingResize → Result Unit
  process : ExecIdentity → Result ProcessRecord
  exec : ExecIdentity → Result ProcessRecord
  /-- The clock when the exit of a process is learned. -/
  now : Option ExecIdentity → Nat

/-- Programs over the metadata file. -/
abbrev FileM (α : Type) := Program (Option ShimMetadata) Error α

/-- `metadata_from_task(task).store()`, where the write succeeds. -/
def persist (ids : ShimIdentities) (task : TaskState) : FileM Unit := do
  check ((metadataFromTask task).validate ids task.bundle)
  commit fun _ => some (metadataFromTask task)

/-- A failure that may pass is reported; any other one settles the operation without an answer. -/
def settled {α : Type} : Result α → Result (Option α)
  | .ok answer => .ok (some answer)
  | .error error => if error.isRetryable then .error error else .ok none

def rehydrateError (code : ErrorCode) (message : String) : Error :=
  (Error.new code message).forOperation "containerd-shim-rehydrate"

section Answered

variable (ids : ShimIdentities) (answers : RestoreAnswers)

/-! ## Exits -/

section
variable (task : TaskState)

def recoverStoppedInitExit : Result TaskState :=
  if task.exit.isSome = true ∨ task.record.state.status ≠ .stopped then .ok task
  else do
    let exit ← answers.initExit
    .ok { task with exit := some exit, exitedAt := some (answers.now none) }

/-- An exec that was signalled and may have ended since. -/
def awaitsSignalExit (exec : ExecMetadata) : Bool :=
  exec.stage == .started && exec.record.isSome && exec.exit.isNone && exec.pendingSignal.isSome

def recoverExecSignalExit (exec : ExecMetadata) : Result TaskState := do
  match ← answers.execExit exec.identity with
  | none => .ok task
  | some exit =>
    .ok (task.modifyExec exec.execId fun state => { state with
      stage := .exited
      exit := some exit
      exitedAt := some (answers.now (some exec.identity)) })

def recoverPendingExecSignalExits : Result TaskState :=
  (task.execs.filter awaitsSignalExit).foldlM (recoverExecSignalExit answers) task

/-! ## Pending operations -/

def completeReplayedControl (operation : PendingControlOperation)
    (record : Option ContainerRecord) : Result TaskState := do
  rejectIf (task.pendingControl ≠ some operation ∨ ¬ IsNext task.controlSequence operation.sequence)
    ((Error.new .failedPrecondition
      (s!"cannot commit replayed control sequence {operation.sequence} from completed " ++
        s!"sequence {task.controlSequence}")).forOperation "containerd-control-replay")
  match record with
  | none => .ok (task.settleControl operation)
  | some record =>
    TaskState.validateControlResponse operation.kind record
    task.validateControlTarget operation.kind record
    .ok (task.applyControl operation record)

/-- An Update without its resources is left for the caller that knows them. -/
def replayPendingControl : FileM TaskState :=
  match task.pendingControl with
  | none => pure task
  | some operation =>
    if operation.isLegacyUpdate then pure task
    else do
      let record ← check (settled (answers.control operation))
      let task ← check (completeReplayedControl task operation record)
      persist ids task
      pure task

section
variable (execId : Option String)

/-- The identity behind the process an operation is for. -/
def TaskState.execIdentity : Option ExecIdentity :=
  execId.bind fun execId => (task.exec execId).map (·.identity)

def missingJournal (what : String) : Error :=
  (Error.new .failedPrecondition s!"exec disappeared before {what} journal access").forOperation
    s!"containerd-{what}-journal"

def completeReplayedSignal (operation : PendingSignal)
    (record : Option ContainerRecord) : Result TaskState := do
  match ← task.completeSignal execId operation record (missingJournal "signal") with
  | none => .ok task
  | some task => .ok task

/-- A signal whose process is known to have ended is settled without being sent. -/
def replaySignal : FileM TaskState := do
  let journal ← check (okOr (task.journal execId) (missingJournal "signal"))
  match journal.pendingSignal with
  | none => pure task
  | some operation => do
    let record ← check (if journal.exit.isSome then .ok none
      else settled (answers.signal (task.execIdentity execId) operation))
    let task ← check (completeReplayedSignal task execId operation record.join)
    persist ids task
    pure task

def completeReplayedResize (operation : PendingResize) (applied : Bool) : Result TaskState := do
  match ← task.withJournal execId (missingJournal "resize")
      (·.completeResize operation applied) with
  | none => .ok task
  | some task => .ok task

def replayResize : FileM TaskState := do
  let journal ← check (okOr (task.journal execId) (missingJournal "resize"))
  match journal.pendingResize with
  | none => pure task
  | some operation => do
    let answer ← check (if journal.exit.isSome then .ok (some ())
      else settled (answers.resize (task.execIdentity execId) operation))
    let task ← check (completeReplayedResize task execId operation answer.isSome)
    persist ids task
    pure task

end

/-- The init process first, then the execs in the order of their IDs. -/
def TaskState.processes : List (Option String) :=
  none :: task.execs.map fun exec => some exec.execId

def replayPendingSignals : FileM TaskState :=
  task.processes.foldlM (replaySignal ids answers) task

def replayPendingResizes : FileM TaskState :=
  task.processes.foldlM (replayResize ids answers) task

/-! ## The whole -/

/-- The runtime's process of an exec; one that the runtime does not know is started again under the
    same identity. -/
def runtimeProcess (identity : ExecIdentity) : Result ProcessRecord :=
  match answers.process identity with
  | .ok process => .ok process
  | .error error => if error.code = .notFound then answers.exec identity else .error error

/-- An exec that was started is taken over. -/
def adoptExec (exec : ExecMetadata) : Result TaskState :=
  if (exec.stage = .starting ∨ exec.stage = .started) ∧ exec.exit = none then do
    let process ← runtimeProcess answers exec.identity
    rejectIf (process.terminal ≠ exec.terminal) (rehydrateError .conflict
      s!"runtime exec {exec.execId} terminal mode changed during rehydration")
    .ok (task.modifyExec exec.execId fun state =>
      { state with stage := .started, record := some process })
  else .ok task

def adoptExecs : Result TaskState :=
  task.execs.foldlM (adoptExec answers) task

end

/-- A restored task that is found running without the freezer has passed its Start barrier. -/
def restoredStartBarrier (metadata : ShimMetadata) (record : ContainerRecord) :
    Result RestoreState :=
  if metadata.restoreState = .pendingStart then do
    rejectIf (record.state.status ≠ .running) (rehydrateError .failedPrecondition
      "pending containerd restore no longer names a running generation")
    .ok (if record.isPaused then .pendingStart else .started)
  else .ok metadata.restoreState

/-- The task as the file and the runtime describe it. -/
def rehydrateTask (namespace_ taskId : String) (metadata : ShimMetadata) : Result TaskState := do
  let identity ← metadata.identity ids
  rejectIf (identity.namespace_ ≠ namespace_ ∨ identity.taskId ≠ taskId)
    (rehydrateError .failedPrecondition
      (s!"shim metadata belongs to {identity.namespace_}/{identity.taskId}, but this shim " ++
        s!"serves {namespace_}/{taskId}"))
  let record ← answers.record
  rejectIf (record.generation ≠ metadata.generation ∨ record.driver ≠ metadata.driver ∨
      record.isolation ≠ metadata.isolation) (rehydrateError .failedPrecondition
    ("runtime state no longer matches the persisted containerd shim generation, driver, " ++
      "or isolation"))
  let restoreState ← restoredStartBarrier metadata record
  .ok (metadata.rehydrate identity record restoreState)

/-- The value that the file holds, if a load accepts it. Decoding inverts encoding. -/
def loadFile (documents : String → Json) (directory : String) (file : Option ShimMetadata) :
    Result (Option ShimMetadata) :=
  match file with
  | none => .ok none
  | some metadata =>
    ShimMetadata.load ids (fun _ => .ok metadata) directory (some (metadata.encoded documents))

/-- `restore_task`, for the shim of a namespace, a task and a bundle. -/
def restoreTask (documents : String → Json) (namespace_ taskId directory : String) :
    FileM (Option TaskState) := do
  match ← read (loadFile ids documents directory) with
  | none => pure none
  | some metadata => do
    let task ← check (rehydrateTask ids answers namespace_ taskId metadata)
    let task ← check (recoverStoppedInitExit answers task)
    let task ← check (recoverPendingExecSignalExits answers task)
    let task ← replayPendingControl ids answers task
    let task ← replayPendingSignals ids answers task
    let task ← replayPendingResizes ids answers task
    let task ← check (adoptExecs answers task)
    persist ids task
    pure (some task)

end Answered

end OciRuntime
