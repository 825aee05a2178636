import OciRuntime.Sdk.Validation

/-!
# `OciRuntime.Shim.Metadata` — what the containerd shim keeps of a task

The shim keeps one task in memory and mirrors it in one file of the task's bundle
(`containerd-shim/src/metadata.rs`, `metadata/control.rs`). This module has the values of that file
and the rules a value must meet before it is written and after it is read.

## Contents
- **Identities.** `IncarnationId`, `TaskIdentity`, `ExecIdentity`.
- **Journals.** `PendingStdinWrite`, `PendingResize`, `PendingSignal`, `PendingControlOperation`, and
  the fields a task and an exec have in common (`ProcessJournal`).
- **The file.** `ExecMetadata`, `ShimMetadata`, `ShimMetadata.validate`.

OCI documents that the shim only compares and hands on are kept as their canonical text, and a time
as nanoseconds since the epoch.
-/

namespace OciRuntime

open Durable

/-! ## Identities -/

/-- The digests that name what the shim asks the runtime for (`identity.rs`). -/
structure ShimIdentities where
  /-- From the namespace and the task. -/
  containerId : String → String → ContainerId
  /-- From the namespace, the task, the exec and its incarnation. -/
  processId : String → String → String → Nat → ProcessId
  /-- From the namespace, the task, its incarnation, the exec and the action. -/
  operationId : String → String → Option String → Option (String × Nat) → String → OperationId
  /-- From the canonical text of the resources. -/
  updateRequestDigest : String → String

def taskIncarnationBytes : Nat := 32

def isIncarnation (value : String) : Bool :=
  value.utf8ByteSize == taskIncarnationBytes * 2 && value.toList.all lowercaseHex

/-- The incarnation of a task: 64 lowercase hexadecimal digits. -/
structure IncarnationId where
  value : String
  valid : isIncarnation value = true
  deriving DecidableEq

def IncarnationId.new (value : String) : Result IncarnationId :=
  if h : isIncarnation value = true then .ok ⟨value, h⟩
  else .error ((Error.new .invalidArgument
    "containerd task incarnation must be exactly 64 lowercase hexadecimal bytes").forOperation
      "containerd-shim-incarnation")

structure TaskIdentity where
  namespace_ : String
  taskId : String
  incarnation : Option IncarnationId
  containerId : ContainerId
  deriving DecidableEq

def adapterError (code : ErrorCode) (message : String) : Error :=
  (Error.new code message).forOperation "containerd-shim"

section
variable (ids : ShimIdentities)

def TaskIdentity.withOptionalIncarnation (namespace_ taskId : String)
    (incarnation : Option IncarnationId) : Result TaskIdentity := do
  rejectIf (namespace_ = "" ∨ taskId = "") (adapterError .invalidArgument
    "containerd namespace and task ID must be non-empty")
  .ok { namespace_, taskId, incarnation, containerId := ids.containerId namespace_ taskId }

/-- One exec of a task; an exec that is added again under the same ID is a new incarnation. -/
structure ExecIdentity where
  execId : String
  incarnation : Nat
  deriving DecidableEq

/-! ## Journals -/

def metadataSchemaVersion : Nat := 10
def minMetadataSchemaVersion : Nat := 1
def controlResourcesSchemaVersion : Nat := 9
def maxMetadataBytes : Nat := 1024 * 1024
def maxPendingStdinBytes : Nat := 64 * 1024

def metadataError (message : String) : Error :=
  (Error.new .failedPrecondition message).forOperation "containerd-shim-metadata"

inductive ExecStage
  | added | starting | started | exited
  deriving DecidableEq

inductive RestoreState
  | none | pendingStart | started
  deriving DecidableEq

/-- `opened` is the source's `Open`. -/
inductive StdinCloseState
  | opened | closing | closed
  deriving DecidableEq

def StdinCloseState.debug : StdinCloseState → String
  | .opened => "Open"
  | .closing => "Closing"
  | .closed => "Closed"

structure PendingStdinWrite where
  sequence : Nat
  data : List UInt8
  deriving DecidableEq

def PendingStdinWrite.validate (write : PendingStdinWrite) : Result Unit := do
  rejectIf (write.sequence = 0)
    (metadataError "pending containerd stdin write records sequence zero")
  rejectIf (write.data = [])
    (metadataError "pending containerd stdin write records an empty payload")
  rejectIf (write.data.length > maxPendingStdinBytes)
    (metadataError (s!"pending containerd stdin write contains {write.data.length} bytes, " ++
      s!"exceeding the {maxPendingStdinBytes}-byte limit"))

def PendingStdinWrite.new (sequence : Nat) (data : List UInt8) : Result PendingStdinWrite := do
  PendingStdinWrite.validate ⟨sequence, data⟩
  .ok ⟨sequence, data⟩

def validateTerminalSize (size : TerminalSize) (context : String) : Result Unit :=
  rejectIf (size.width = 0 ∨ size.height = 0)
    (metadataError s!"{context} records zero terminal width or height")

structure PendingResize where
  sequence : Nat
  size : TerminalSize
  deriving DecidableEq

def PendingResize.validate (resize : PendingResize) : Result Unit := do
  rejectIf (resize.sequence = 0)
    (metadataError "pending containerd terminal resize records sequence zero")
  validateTerminalSize resize.size "pending containerd terminal resize"

structure PendingSignal where
  sequence : Nat
  signal : Int
  all : Bool
  deriving DecidableEq

def PendingSignal.validate (pending : PendingSignal) : Result Unit := do
  rejectIf (pending.sequence = 0) (metadataError "pending containerd signal records sequence zero")
  rejectIf (pending.signal ≤ 0) (Error.new .invalidArgument "signal number must be positive")

inductive ControlOperationKind
  | pause | resume | update
  deriving DecidableEq

structure PendingControlOperation where
  sequence : Nat
  kind : ControlOperationKind
  requestDigest : Option String
  resources : Option String
  deriving DecidableEq

def validateSha256Digest (digest context : String) : Result Unit :=
  match digest.toList with
  | 's' :: 'h' :: 'a' :: '2' :: '5' :: '6' :: ':' :: hex =>
    rejectIf (hex.length ≠ 64 ∨ hex.all lowercaseHex = false)
      (metadataError s!"{context} digest must contain 64 lowercase hexadecimal digits")
  | _ => .error (metadataError s!"{context} digest must use the sha256 prefix")

/-- What each kind of operation records about its request. -/
def PendingControlOperation.validateRequest (operation : PendingControlOperation) : Result Unit :=
  match operation.kind, operation.requestDigest with
  | .pause, _ | .resume, _ => do
    rejectIf (operation.requestDigest.isSome = true) (metadataError
      "Pause and Resume control operations must not record a request digest")
    rejectIf (operation.resources.isSome = true) (metadataError
      "Pause and Resume control operations must not record Linux resources")
  | .update, none => .error (metadataError
      "pending Update control operation omitted its request digest")
  | .update, some digest => do
    validateSha256Digest digest "pending Update request"
    match operation.resources with
    | none => .ok ()
    | some resources =>
      rejectIf (ids.updateRequestDigest resources ≠ digest) (metadataError
        (s!"pending Update resources digest {ids.updateRequestDigest resources} " ++
          s!"does not match recorded request digest {digest}"))

def PendingControlOperation.validateForSchema
    (operation : PendingControlOperation) (schemaVersion : Nat) : Result Unit := do
  rejectIf (operation.sequence = 0)
    (metadataError "pending containerd control operation records sequence zero")
  operation.validateRequest ids
  rejectIf (schemaVersion < controlResourcesSchemaVersion ∧ operation.resources.isSome = true)
    (metadataError (s!"shim metadata schema {schemaVersion} cannot contain " ++
      s!"schema-v{controlResourcesSchemaVersion} pending Update resources"))
  rejectIf (controlResourcesSchemaVersion ≤ schemaVersion ∧ operation.kind = .update ∧
      operation.resources = none)
    (metadataError
      s!"shim metadata schema {schemaVersion} pending Update omitted its Linux resources")

def PendingControlOperation.new (sequence : Nat)
    (kind : ControlOperationKind) (requestDigest resources : Option String) :
    Result PendingControlOperation := do
  let operation := PendingControlOperation.mk sequence kind requestDigest resources
  operation.validateForSchema ids controlResourcesSchemaVersion
  .ok operation

/-- The fields that a task and each of its execs record about their process. -/
structure ProcessJournal where
  stdin : String
  stdout : String
  stderr : String
  terminal : Bool
  stdinSequence : Nat
  pendingStdinWrite : Option PendingStdinWrite
  stdinCloseState : StdinCloseState
  resizeSequence : Nat
  pendingResize : Option PendingResize
  terminalSize : Option TerminalSize
  signalSequence : Nat
  pendingSignal : Option PendingSignal
  outputCursor : Nat
  exit : Option ExitStatus
  exitedAt : Option Nat
  deriving DecidableEq

/-- What a process starts with. -/
def ProcessJournal.new (stdin stdout stderr : String) (terminal : Bool) : ProcessJournal where
  stdin := stdin
  stdout := stdout
  stderr := stderr
  terminal := terminal
  stdinSequence := 0
  pendingStdinWrite := none
  stdinCloseState := .opened
  resizeSequence := 0
  pendingResize := none
  terminalSize := none
  signalSequence := 0
  pendingSignal := none
  outputCursor := 0
  exit := none
  exitedAt := none

/-- `sequence` is the one after `completed`, in the arithmetic of `checked_add`. -/
def IsNext (completed sequence : Nat) : Prop := completed + 1 = sequence ∧ sequence ≤ u64Max

instance (completed sequence : Nat) : Decidable (IsNext completed sequence) :=
  inferInstanceAs (Decidable (_ ∧ _))

def validateStdinState (completedSequence : Nat) (pending : Option PendingStdinWrite)
    (closeState : StdinCloseState) (context : String) : Result Unit := do
  rejectIf (closeState ≠ .opened ∧ pending.isSome = true) (metadataError
    (s!"containerd {context} stdin cannot retain a pending write while it is " ++ closeState.debug))
  match pending with
  | none => .ok ()
  | some pending =>
    pending.validate
    rejectIf (¬ IsNext completedSequence pending.sequence) (metadataError
      (s!"pending containerd {context} stdin sequence {pending.sequence} does not follow " ++
        s!"completed sequence {completedSequence}"))

def validateResizeState (completedSequence : Nat) (pending : Option PendingResize)
    (terminalSize : Option TerminalSize) (terminal : Bool) (context : String) : Result Unit := do
  rejectIf (terminal = false ∧ (completedSequence ≠ 0 ∨ pending.isSome = true ∨
      terminalSize.isSome = true)) (metadataError
    s!"non-terminal containerd {context} cannot retain terminal resize state")
  match terminalSize with
  | none => .ok ()
  | some size =>
    validateTerminalSize size s!"containerd {context} terminal size"
    rejectIf (completedSequence = 0) (metadataError
      s!"containerd {context} terminal size requires a completed resize sequence")
  match pending with
  | none => .ok ()
  | some pending =>
    pending.validate
    rejectIf (¬ IsNext completedSequence pending.sequence) (metadataError
      (s!"pending containerd {context} resize sequence {pending.sequence} does not follow " ++
        s!"completed sequence {completedSequence}"))
    rejectIf (terminalSize = some pending.size) (metadataError
      s!"pending containerd {context} resize repeats the completed terminal size")

def validateSignalState (completedSequence : Nat) (pending : Option PendingSignal)
    (allowAll : Bool) (context : String) : Result Unit :=
  match pending with
  | none => .ok ()
  | some pending => do
    pending.validate
    rejectIf (¬ IsNext completedSequence pending.sequence) (metadataError
      (s!"pending containerd {context} signal sequence {pending.sequence} does not follow " ++
        s!"completed sequence {completedSequence}"))
    rejectIf (pending.all = true ∧ allowAll = false) (metadataError
      s!"pending containerd {context} signal cannot request all processes")

/-- What a task and an exec are checked for alike. Both callers check the stdin, the resize and the
    signal journal in this order. -/
def ProcessJournal.validate (journal : ProcessJournal) (allowAll : Bool) (context : String) :
    Result Unit := do
  validateStdinState journal.stdinSequence journal.pendingStdinWrite journal.stdinCloseState context
  validateResizeState journal.resizeSequence journal.pendingResize journal.terminalSize
    journal.terminal context
  validateSignalState journal.signalSequence journal.pendingSignal allowAll context
  rejectIf (journal.stdin = "" ∧ (journal.stdinSequence ≠ 0 ∨
      journal.pendingStdinWrite.isSome = true ∨ journal.stdinCloseState ≠ .opened))
    (metadataError s!"{context} stdin journal state requires a configured stdin FIFO")

/-! ## The file -/

/-- One exec, both in the file and in the memory of the shim (`ExecMetadata`, `ExecState`), where it
    is stored under its ID. -/
structure ExecMetadata extends ProcessJournal where
  execId : String
  incarnation : Nat
  stage : ExecStage
  process : String
  record : Option ProcessRecord
  deriving DecidableEq

def ExecMetadata.identity (exec : ExecMetadata) : ExecIdentity := ⟨exec.execId, exec.incarnation⟩

structure ShimMetadata extends ProcessJournal where
  schemaVersion : Nat
  namespace_ : String
  taskId : String
  incarnation : Option String
  containerId : ContainerId
  generation : Nat
  driver : DriverKind
  isolation : IsolationClass
  bundle : String
  restoreState : RestoreState
  controlSequence : Nat
  pendingControl : Option PendingControlOperation
  lastUpdateDigest : Option String
  rootfsMounted : Bool
  execSequence : Nat
  execs : List ExecMetadata

def ShimMetadata.identity (metadata : ShimMetadata) : Result TaskIdentity := do
  let incarnation ← match metadata.incarnation with
    | none => .ok none
    | some value => (IncarnationId.new value).map some
  let identity ← TaskIdentity.withOptionalIncarnation ids metadata.namespace_ metadata.taskId
    incarnation
  rejectIf (identity.containerId ≠ metadata.containerId) (metadataError
    (s!"shim metadata identity resolves to {identity.containerId.value}, " ++
      s!"but records {metadata.containerId.value}"))
  .ok identity

/-- The file of a bundle. -/
def ShimMetadata.path (bundle : String) : String := bundle ++ "/a3s-oci-shim-v1.json"

/-- The loop of `validate` over the execs: the ID before, and the incarnations seen. -/
def validateExecs (execSequence : Nat) : Option String → List Nat → List ExecMetadata → Result Unit
  | _, _, [] => .ok ()
  | previous, seen, exec :: execs => do
    rejectIf (exec.execId = "") (metadataError "shim metadata contains an empty exec ID")
    rejectIf (previous.any (fun value => decide (exec.execId ≤ value)) = true) (metadataError
      "shim metadata exec entries must be unique and sorted by exec ID")
    rejectIf (exec.incarnation > execSequence) (metadataError
      (s!"exec {exec.execId} incarnation {exec.incarnation} exceeds the allocated exec " ++
        s!"sequence {execSequence}"))
    rejectIf (exec.incarnation ≠ 0 ∧ exec.incarnation ∈ seen) (metadataError
      s!"exec incarnation {exec.incarnation} is assigned to more than one current exec")
    exec.toProcessJournal.validate false s!"exec {exec.execId}"
    validateExecs execSequence (some exec.execId)
      (if exec.incarnation ≠ 0 then exec.incarnation :: seen else seen) execs

/-- The state a schema cannot contain, one line per schema that added some. -/
def ShimMetadata.validateSchema (metadata : ShimMetadata) : Result Unit := do
  let tooNew (version : Nat) (state : String) : Error := metadataError
    s!"shim metadata schema {metadata.schemaVersion} cannot contain schema-v{version} {state}"
  rejectIf (metadata.schemaVersion < 3 ∧ (metadata.controlSequence ≠ 0 ∨
      metadata.pendingControl.isSome = true ∨ metadata.lastUpdateDigest.isSome = true))
    (tooNew 3 "control state")
  rejectIf (metadata.schemaVersion < 4 ∧ (metadata.stdinSequence ≠ 0 ∨
      metadata.pendingStdinWrite.isSome = true ∨ ∃ exec ∈ metadata.execs,
        exec.stdinSequence ≠ 0 ∨ exec.pendingStdinWrite.isSome = true))
    (tooNew 4 "stdin state")
  rejectIf (metadata.schemaVersion < 5 ∧ (metadata.stdinCloseState ≠ .opened ∨
      ∃ exec ∈ metadata.execs, exec.stdinCloseState ≠ .opened))
    (tooNew 5 "stdin close state")
  rejectIf (metadata.schemaVersion < 6 ∧ (metadata.resizeSequence ≠ 0 ∨
      metadata.pendingResize.isSome = true ∨ metadata.terminalSize.isSome = true ∨
      ∃ exec ∈ metadata.execs, exec.resizeSequence ≠ 0 ∨ exec.pendingResize.isSome = true ∨
        exec.terminalSize.isSome = true))
    (tooNew 6 "terminal resize state")
  rejectIf (metadata.schemaVersion < 7 ∧ (metadata.signalSequence ≠ 0 ∨
      metadata.pendingSignal.isSome = true ∨ ∃ exec ∈ metadata.execs,
        exec.signalSequence ≠ 0 ∨ exec.pendingSignal.isSome = true))
    (tooNew 7 "signal state")
  rejectIf (metadata.schemaVersion < 8 ∧ (metadata.execSequence ≠ 0 ∨
      ∃ exec ∈ metadata.execs, exec.incarnation ≠ 0))
    (tooNew 8 "exec incarnation state")
  rejectIf (metadata.schemaVersion < 10 ∧ metadata.restoreState ≠ .none) (tooNew 10 "restore state")

def ShimMetadata.validateControl (metadata : ShimMetadata) : Result Unit := do
  match metadata.pendingControl with
  | none => .ok ()
  | some pending =>
    pending.validateForSchema ids metadata.schemaVersion
    rejectIf (¬ IsNext metadata.controlSequence pending.sequence) (metadataError
      (s!"pending containerd control sequence {pending.sequence} does not follow completed " ++
        s!"sequence {metadata.controlSequence}"))
  match metadata.lastUpdateDigest with
  | none => .ok ()
  | some digest =>
    rejectIf (metadata.controlSequence = 0) (metadataError
      "last completed Update request requires a nonzero control sequence")
    validateSha256Digest digest "last completed Update request"

/-- The rules of the file in `directory`. -/
def ShimMetadata.validate (metadata : ShimMetadata) (directory : String) : Result Unit := do
  let path := ShimMetadata.path directory
  rejectIf (metadata.schemaVersion < minMetadataSchemaVersion ∨
      metadataSchemaVersion < metadata.schemaVersion) (metadataError
    (s!"unsupported shim metadata schema {metadata.schemaVersion} in {path}; expected " ++
      s!"{minMetadataSchemaVersion} through {metadataSchemaVersion}"))
  rejectIf (metadata.generation = 0)
    (metadataError s!"shim metadata {path} records generation zero")
  metadata.validateSchema
  rejectIf (metadata.restoreState = .pendingStart ∧ (metadata.controlSequence ≠ 0 ∨
      metadata.pendingControl.isSome = true ∨ metadata.lastUpdateDigest.isSome = true ∨
      metadata.exit.isSome = true ∨ metadata.exitedAt.isSome = true ∨
      metadata.execSequence ≠ 0 ∨ metadata.execs ≠ [])) (metadataError
    "a pending containerd checkpoint restore cannot retain control, exit, or exec state")
  metadata.toProcessJournal.validate true "task"
  metadata.validateControl ids
  rejectIf (metadata.bundle.startsWith "/" = false) (metadataError
    s!"shim metadata {path} records a non-absolute bundle {metadata.bundle}")
  rejectIf (metadata.bundle ≠ directory) (metadataError
    s!"shim metadata {path} records a different bundle {metadata.bundle}")
  let _ ← metadata.identity ids
  validateExecs metadata.execSequence none [] metadata.execs

end

end OciRuntime
