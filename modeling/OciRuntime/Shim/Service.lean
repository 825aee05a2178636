import OciRuntime.Shim.Restore

/-!
# `OciRuntime.Shim.Service` — the shim as a state machine

The shim serves one task of a bundle. Its sections behind the metadata gate follow one another, so a
run of the shim is a sequence of whole sections, changes of the memory alone, crashes and restarts
(`service.rs`, `service/task.rs`, `service/task/`). A section may fail to write the file, before or
after the new file took the place of the old one.

## Contents
- **Sections.** `ShimCall`, `MemoryChange`.
- **The shim.** `Shim`, `TaskExit`, `WriteOutcome`, `Shim.write`.
- **Runs.** `ShimAction`, `Shim.step`, `Shim.run`.
- **What a run may do.** `ShimAction.Admitted`, `Shim.Runs`.
-/

namespace OciRuntime

open Durable Program

/-! ## Sections -/

/-- A section that changes the task and writes the file. -/
inductive ShimCall
  | persist
  | addExec (execId process stdin stdout stderr : String) (terminal : Bool)
  | deleteExec (execId : String)
  | commitOutput (execId : Option String) (cursor : Nat)
  | prepareStdin (execId : Option String) (sequence : Nat) (data : List UInt8)
  | commitStdin (execId : Option String) (sequence : Nat)
  | prepareStdinClose (execId : Option String)
  | commitStdinClose (execId : Option String)
  | prepareSignal (execId : Option String) (signal : Int) (all : Bool)
  | completeSignal (execId : Option String) (operation : PendingSignal)
      (record : Option ContainerRecord)
  | prepareResize (execId : Option String) (size : TerminalSize)
  | completeResize (execId : Option String) (operation : PendingResize) (applied : Bool)
  | prepareControl (kind : ControlOperationKind) (requestDigest resources : Option String)
  | completeControl (operation : PendingControlOperation) (record : ContainerRecord)
  | finishControlError (operation : PendingControlOperation) (error : Error)

/-- The answer of a section whose exec is gone. -/
def execMissing : Error := Error.new .notFound "unknown exec"

/-- The task that a section wants to write; none if there is nothing to write. -/
def ShimCall.apply (ids : ShimIdentities) (task : TaskState) : ShimCall → Result (Option TaskState)
  | .persist => .ok (some task)
  | .addExec execId process stdin stdout stderr terminal =>
    task.addExec execId process stdin stdout stderr terminal
  | .deleteExec execId => task.deleteExec execId
  | .commitOutput execId cursor => task.withJournal execId execMissing (·.commitOutput cursor)
  | .prepareStdin execId sequence data =>
    task.withJournal execId execMissing (·.prepareStdin sequence data)
  | .commitStdin execId sequence => task.withJournal execId execMissing (·.commitStdin sequence)
  | .prepareStdinClose execId => task.withJournal execId execMissing (·.prepareStdinClose)
  | .commitStdinClose execId => task.withJournal execId execMissing (·.commitStdinClose)
  | .prepareSignal execId signal all =>
    task.withJournal execId execMissing (·.prepareSignal signal all)
  | .completeSignal execId operation record =>
    task.completeSignal execId operation record execMissing
  | .prepareResize execId size => task.withJournal execId execMissing (·.prepareResize size)
  | .completeResize execId operation applied =>
    task.withJournal execId execMissing (·.completeResize operation applied)
  | .prepareControl kind requestDigest resources =>
    task.prepareControl ids kind requestDigest resources
  | .completeControl operation record => task.completeControl operation record
  | .finishControlError operation error => task.finishControlError operation error

/-- A change of the memory outside the metadata gate (`refresh_task` and `start_task`). -/
inductive MemoryChange
  | refreshed (record : ContainerRecord)
  | taskStarted (record : ContainerRecord)
  | execStarting (execId : String)
  | execStarted (execId : String) (record : ProcessRecord)

def MemoryChange.apply (task : TaskState) : MemoryChange → TaskState
  | .refreshed record => { task with record }
  | .taskStarted record => { task with
      record
      restoreState := if task.restoreState = .pendingStart then .started else task.restoreState }
  | .execStarting execId => task.modifyExec execId fun exec =>
    if exec.stage = .added then { exec with stage := .starting } else exec
  | .execStarted execId record => task.modifyExec execId fun exec =>
    { exec with stage := .started, record := some record }

/-! ## The shim -/

/-- How the replacement of the file ends: done, refused with the old file in place, or refused after
    the new file took its place (`atomic_write` renames and then syncs the directory). -/
inductive WriteOutcome
  | written | failed | unsynced
  deriving DecidableEq

/-- One process of the task; a task that is created again has another generation. -/
structure ProcessKey where
  generation : Nat
  exec : Option ExecIdentity

/-- A `TaskExit` event, and the process it is about. -/
structure TaskExit where
  process : ProcessKey
  containerId : String
  id : String
  pid : Nat
  exitStatus : Nat
  exitedAt : Nat

/-- The metadata file, the task in memory, and the exit events: those whose announcement is under
    way, and those that were handed to the publisher. `lastGeneration` is the last generation the
    runtime gave the task. -/
structure Shim where
  file : Option ShimMetadata
  task : Option TaskState
  announcing : List TaskExit
  published : List TaskExit
  lastGeneration : Nat

/-- A bundle without a file. -/
def Shim.empty : Shim := ⟨none, none, [], [], 0⟩

/-- The file after a store of `task`. A value that breaks a rule is never written. -/
def Shim.write (ids : ShimIdentities) (shim : Shim) (task : TaskState) (write : WriteOutcome) :
    Option ShimMetadata :=
  if (metadataFromTask task).validate ids task.bundle = .ok () ∧ write ≠ .failed then
    some (metadataFromTask task)
  else shim.file

/-- Whether the store reports success. -/
def Shim.stored (ids : ShimIdentities) (task : TaskState) (write : WriteOutcome) : Bool :=
  decide ((metadataFromTask task).validate ids task.bundle = .ok ()) && write == .written

/-- The request of `create`. -/
structure NewTask where
  identity : TaskIdentity
  bundle : String
  stdin : String
  stdout : String
  stderr : String
  terminal : Bool
  restored : Bool
  rootfsMounted : Bool

/-- The task `create` puts into memory. -/
def TaskState.created (request : NewTask) (record : ContainerRecord) : TaskState where
  toProcessJournal := .new request.stdin request.stdout request.stderr request.terminal
  identity := request.identity
  bundle := request.bundle
  restoreState := if request.restored then .pendingStart else .none
  controlSequence := 0
  pendingControl := none
  lastUpdateDigest := none
  rootfsMounted := request.rootfsMounted
  record := record
  execSequence := 0
  execs := []

/-! ## Runs -/

inductive ShimAction
  | create (request : NewTask) (record : ContainerRecord) (write : WriteOutcome)
  | call (request : ShimCall) (write : WriteOutcome)
  | remember (change : MemoryChange)
  | recordExit (exec : Option ExecIdentity) (exit : ExitStatus) (pid now : Nat)
      (write : WriteOutcome)
  /-- The announcement under way reaches the publisher. -/
  | publish
  | deleteTask (write : WriteOutcome)
  | crash
  /-- A replacement shim; `cut` is the number of writes after which it is interrupted. -/
  | restore (answers : RestoreAnswers) (cut : Option Nat)

/-- The exit recorded for a process, and when it was. -/
def ShimMetadata.exitOf (metadata : ShimMetadata) : Option ExecIdentity →
    Option (ExitStatus × Option Nat)
  | none => metadata.exit.map fun exit => (exit, metadata.exitedAt)
  | some identity => (metadata.execs.find? (·.identity = identity)).bind fun exec =>
    exec.exit.map fun exit => (exit, exec.exitedAt)

def TaskState.exitOf (task : TaskState) (exec : Option ExecIdentity) :
    Option (ExitStatus × Option Nat) :=
  (metadataFromTask task).exitOf exec

/-- The event of `publish_exit`. -/
def TaskState.exitEvent (task : TaskState) (exec : Option ExecIdentity) (exit : ExitStatus)
    (pid exitedAt : Nat) : TaskExit where
  process := ⟨task.record.generation, exec⟩
  containerId := task.identity.taskId
  id := (exec.map (·.execId)).getD task.identity.taskId
  pid := pid
  exitStatus := exit.code
  exitedAt := exitedAt

section Steps

variable (ids : ShimIdentities) (documents : String → Json) (namespace_ taskId directory : String)

namespace Shim

/-- A section: a failed store puts the memory back as it was. -/
def call (shim : Shim) (task : TaskState) (request : ShimCall) (write : WriteOutcome) : Shim :=
  match request.apply ids task with
  | .error _ | .ok none => shim
  | .ok (some changed) => { shim with
      file := shim.write ids changed write
      task := some (if Shim.stored ids changed write then changed else task) }

/-- `record_exit` writes the task, and announces an exit it did not know. A failed store leaves the
    exit in memory. -/
def recordExit (shim : Shim) (task : TaskState) (exec : Option ExecIdentity) (exit : ExitStatus)
    (pid now : Nat) (write : WriteOutcome) : Shim :=
  match task.recordExit exec exit now with
  | .error _ => shim
  | .ok changed => { shim with
      file := shim.write ids changed write
      task := some changed
      announcing :=
        if Shim.stored ids changed write = true ∧ task.exitOf exec = none then
          shim.announcing ++ [task.exitEvent exec exit pid
            (((changed.exitOf exec).bind (·.2)).getD now)]
        else shim.announcing }

def restore (shim : Shim) (answers : RestoreAnswers) (cut : Option Nat) : Shim :=
  let run := restoreTask ids answers documents namespace_ taskId directory
  match cut with
  | some k => { shim with file := (((run shim.file).commits).take k).getLastD shim.file }
  | none => { shim with
      file := run.final shim.file
      task := (run.result shim.file).toOption.join }

/-- One action; an action that is not possible changes nothing. -/
def step (shim : Shim) : ShimAction → Shim
  | .create request record write =>
    if shim.task.isSome then shim
    else
      let task := TaskState.created request record
      { shim with
        file := shim.write ids task write
        task := if Shim.stored ids task write then some task else none
        lastGeneration := record.generation }
  | .call request write =>
    match shim.task with
    | none => shim
    | some task => shim.call ids task request write
  | .remember change => { shim with task := shim.task.map (change.apply) }
  | .recordExit exec exit pid now write =>
    match shim.task with
    | none => shim
    | some task => shim.recordExit ids task exec exit pid now write
  | .publish =>
    match shim.announcing with
    | [] => shim
    | event :: rest => { shim with announcing := rest, published := shim.published ++ [event] }
  | .deleteTask write =>
    match shim.task, write with
    | none, _ | _, .failed => shim
    | some _, .written => { shim with file := none, task := none }
    | some task, .unsynced => { shim with file := none, task := some task }
  | .crash => { shim with task := none, announcing := [] }
  | .restore answers cut =>
    if shim.task.isSome then shim
    else shim.restore ids documents namespace_ taskId directory answers cut

/-- The shim after a run. -/
def run (shim : Shim) (actions : List ShimAction) : Shim :=
  actions.foldl (step ids documents namespace_ taskId directory) shim

end Shim

end Steps

/-! ## What a run may do -/

/-- The runtime answers a request about a task with a record of that task. -/
def TaskState.Answers (task : TaskState) (record : ContainerRecord) : Prop :=
  record.generation = task.record.generation ∧ record.driver = task.record.driver ∧
    record.isolation = task.record.isolation

/-- A task is created for an identity of this shim, in an absolute bundle, with a generation that
    the runtime never used before. -/
structure NewTask.Admitted (ids : ShimIdentities) (request : NewTask) (record : ContainerRecord)
    (lastGeneration : Nat) : Prop where
  fresh : lastGeneration < record.generation
  absolute : request.bundle.startsWith "/" = true
  named : TaskIdentity.withOptionalIncarnation ids request.identity.namespace_
    request.identity.taskId request.identity.incarnation = .ok request.identity

/-- Only a process with a stdin FIFO has a stdin pump, and only the init process can be asked to
    signal all processes. -/
def ShimCall.Admitted (task : TaskState) : ShimCall → Prop
  | .prepareStdin execId _ _ | .commitStdin execId _ | .prepareStdinClose execId
  | .commitStdinClose execId => ∀ journal, task.journal execId = some journal → journal.stdin ≠ ""
  | .prepareSignal execId _ all => execId.isSome = true → all = false
  | _ => True

def MemoryChange.Admitted (task : TaskState) : MemoryChange → Prop
  | .refreshed record | .taskStarted record => task.Answers record
  | _ => True

/-- The actions that the service, containerd and the runtime take in a state of the shim. -/
def ShimAction.Admitted (ids : ShimIdentities) (shim : Shim) : ShimAction → Prop
  | .create request record _ => request.Admitted ids record shim.lastGeneration
  | .call request _ => ∀ task, shim.task = some task → request.Admitted task
  | .remember change => ∀ task, shim.task = some task → change.Admitted task
  | _ => True

/-- `shim` is reached from `start` by admitted actions that all satisfy `guard` in the state they are
    taken in. -/
inductive Shim.Runs (ids : ShimIdentities) (documents : String → Json)
    (namespace_ taskId directory : String) (guard : Shim → ShimAction → Prop) (start : Shim) :
    Shim → Prop
  | init : Runs ids documents namespace_ taskId directory guard start start
  | step {shim : Shim} (action : ShimAction)
      (before : Runs ids documents namespace_ taskId directory guard start shim)
      (admitted : action.Admitted ids shim) (allowed : guard shim action) :
      Runs ids documents namespace_ taskId directory guard start
        (shim.step ids documents namespace_ taskId directory action)

/-- An invariant of the admitted actions holds in every state of a run. -/
theorem Shim.Runs.invariant {guard : Shim → ShimAction → Prop} {I : Shim → Prop}
    (h : Runs ids documents namespace_ taskId directory guard start shim) (hst : I start)
    (hs : ∀ shim action, I shim → action.Admitted ids shim → guard shim action →
      I (shim.step ids documents namespace_ taskId directory action)) : I shim := by
  induction h with
  | init => exact hst
  | step action _ admitted allowed ih => exact hs _ action ih admitted allowed

end OciRuntime
