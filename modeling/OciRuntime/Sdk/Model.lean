import Mathlib.Data.Finmap
import OciRuntime.Sdk.Basic
import OciRuntime.Sdk.Fingerprint

/-!
# `OciRuntime.Sdk.Model` — the request, record and event types of the runtime

The public data types that the durable store reads and writes (`sdk/src/model.rs`, `bundle.rs`,
`attachment.rs`, `checkpoint/`, `tee.rs` and the lifecycle machine of `core/src/lifecycle.rs`).
A part of a document that the store only compares and copies is kept as its canonical text.
-/

namespace OciRuntime

/-! ## OCI state and the lifecycle machine -/

/-- Status of an OCI state document. -/
inductive ContainerState
  | creating | created | running | stopped
  deriving DecidableEq

def ContainerState.text : ContainerState → String
  | .creating => "creating"
  | .created => "created"
  | .running => "running"
  | .stopped => "stopped"

/-- Durable OCI lifecycle state. -/
inductive LifecycleState
  | creating | created | running | stopped

/-- Event that changes durable lifecycle state. -/
inductive LifecycleEvent
  | createCompleted | startCompleted | processExited

def LifecycleState.debug : LifecycleState → String
  | .creating => "Creating"
  | .created => "Created"
  | .running => "Running"
  | .stopped => "Stopped"

def LifecycleEvent.debug : LifecycleEvent → String
  | .createCompleted => "CreateCompleted"
  | .startCompleted => "StartCompleted"
  | .processExited => "ProcessExited"

/-- Apply one validated lifecycle event; the error is the text of `TransitionError`. -/
def LifecycleState.transition (state : LifecycleState) (event : LifecycleEvent) :
    Except String LifecycleState :=
  match state, event with
  | .creating, .createCompleted => .ok .created
  | .created, .startCompleted => .ok .running
  | .created, .processExited | .running, .processExited => .ok .stopped
  | state, event =>
    .error s!"cannot apply lifecycle event {event.debug} while container is {state.debug}"

/-- String-valued annotation and option maps; equality ignores the order of insertion. -/
abbrev Annotations := Finmap fun _ : String => String

/-- An OCI state document. -/
structure State where
  version : String
  id : String
  status : ContainerState
  pid : Option Int
  bundle : String
  annotations : Option Annotations
  deriving DecidableEq

/-- Reserved annotation that records the freezer state of a running container. -/
def pausedStateAnnotation : String := "dev.a3s.oci.runtime.paused"

/-- The pinned OCI state schema: over a typed document only the bound on `pid` can fail. -/
def validateState (state : State) : Result Unit :=
  match state.pid with
  | some pid =>
    if pid < 0 then
      .error ((Error.new .invalidArgument
        ("OCI state failed pinned 1.3.0 schema validation (1 violation(s)): " ++
          s!"{pid} is less than the minimum of 0 at /pid")).forOperation "validate-oci-state")
    else .ok ()
  | none => .ok ()

/-! ## Targets and contexts -/

/-- Container ID plus an optional generation fence. -/
structure ContainerTarget where
  id : ContainerId
  generation : Option Nat
  deriving DecidableEq

/-- Target one exact durable generation. -/
def ContainerTarget.exact (id : ContainerId) (generation : Nat) : ContainerTarget :=
  ⟨id, some generation⟩

/-- Process inside one exact or current container generation. -/
structure ProcessTarget where
  container : ContainerTarget
  processId : ProcessId
  deriving DecidableEq

/-- Idempotency and deadline metadata for a mutating request. -/
structure OperationContext where
  operationId : OperationId
  deadlineUnixMs : Option Nat
  deriving DecidableEq

/-! ## Bundles, isolation and attachments -/

inductive DriverKind
  | nativeLinux | libkrunKvm | libkrunHvf | libkrunWhpx
  deriving DecidableEq

inductive IsolationClass
  | dedicatedVm | sharedGuestKernel | sharedHostKernel
  deriving DecidableEq

/-- Explicit isolation requirement; guest-kernel sharing names its trust domain. -/
inductive IsolationRequest
  | dedicatedVm
  | sharedGuestKernel (trustDomain : String)
  | sharedHostKernel
  deriving DecidableEq

def IsolationRequest.class : IsolationRequest → IsolationClass
  | .dedicatedVm => .dedicatedVm
  | .sharedGuestKernel _ => .sharedGuestKernel
  | .sharedHostKernel => .sharedHostKernel

/-- The parts of an OCI configuration document that the store reads. -/
structure Spec where
  version : String
  annotations : Option Annotations
  deriving DecidableEq

/-- Immutable, digest-bound OCI bundle. -/
structure OciBundle where
  directory : String
  configDigest : String
  configJson : String
  spec : Spec
  deriving DecidableEq

inductive GuestSessionReset
  | destroyOnEmpty | retainWithinTrustDomain
  deriving DecidableEq

/-- Exact reusable guest-session ownership bound to one create request. -/
structure GuestSessionAttachment where
  id : String
  generation : Nat
  trustDomain : String
  isolation : IsolationClass
  capacity : Nat
  reset : GuestSessionReset
  deriving DecidableEq

/-- Versioned attachment manifest: the guest session, and the rest as its canonical document. -/
structure CreateAttachments where
  guestSession : Option GuestSessionAttachment
  manifest : String
  deriving DecidableEq

/-- The enforcement binding decoded from a manifest, kept as its canonical document. -/
structure NetworkEnforcementAttachment where
  document : String
  deriving DecidableEq

inductive TeeTechnology
  | amdSevSnp | intelTdx
  deriving DecidableEq

def TeeTechnology.extensionName : TeeTechnology → String
  | .amdSevSnp => "dev.a3s.tee.amd-sev-snp"
  | .intelTdx => "dev.a3s.tee.intel-tdx"

inductive TeeMode
  | hardware | simulated
  deriving DecidableEq

structure TeeLaunchRequest where
  technology : TeeTechnology
  mode : TeeMode
  deriving DecidableEq

/-! ## Records -/

/-- Public record of one container generation. -/
structure ContainerRecord where
  state : State
  generation : Nat
  driver : DriverKind
  isolation : IsolationClass
  guestSession : Option GuestSessionAttachment
  networkEnforcement : Option NetworkEnforcementAttachment
  configDigest : String
  attachmentsDigest : Option String
  deriving DecidableEq

/-- Public record of one process that was executed in a container. -/
structure ProcessRecord where
  target : ProcessTarget
  pid : Option Nat
  terminal : Bool
  deriving DecidableEq

/-- Terminal result of a process. -/
structure ExitStatus where
  exitCode : Option Int
  signal : Option Int
  oomKilled : Bool
  deriving DecidableEq

def ExitStatus.validate (status : ExitStatus) : Result Unit :=
  let invalid := (Error.new .invalidArgument
    ("exit status must contain either an exit code in 0..=255 or a positive signal; " ++
      "oomKilled requires signal termination")).forOperation "validate-exit-status"
  match status.exitCode, status.signal, status.oomKilled with
  | some exitCode, none, false => if 0 ≤ exitCode ∧ exitCode ≤ 255 then .ok () else .error invalid
  | none, some signal, _ => if 0 < signal then .ok () else .error invalid
  | _, _, _ => .error invalid

/-! ## Checkpoint, restore and attestation documents -/

inductive CheckpointQuiesce
  | paused
  deriving DecidableEq

/-- Immutable evidence for one quiesced checkpoint artifact. `compatibility` and `artifact` keep
    the platform, build and content fields that the store never reads. -/
structure CheckpointReference where
  schemaVersion : String
  source : ContainerTarget
  sourceConfigDigest : String
  sourceAttachmentsDigest : String
  driver : DriverKind
  isolation : IsolationClass
  compatibility : String
  quiesce : CheckpointQuiesce
  artifact : String
  artifactSizeBytes : Nat
  deriving DecidableEq

structure CheckpointRequest where
  context : OperationContext
  target : ContainerTarget
  artifactPath : String
  quiesce : CheckpointQuiesce
  legacyLeaveRunning : Option Bool
  deriving DecidableEq

/-- Successful checkpoint: the unchanged paused source and its reference. -/
structure CheckpointResponse where
  source : ContainerRecord
  reference : CheckpointReference
  deriving DecidableEq

structure RestoreRequest where
  context : OperationContext
  id : ContainerId
  bundle : OciBundle
  artifactPath : String
  isolation : IsolationRequest
  attachments : CreateAttachments
  reference : Option CheckpointReference
  deriving DecidableEq

/-- Successful restore: a paused running generation and the consumed reference. -/
structure RestoreResponse where
  restored : ContainerRecord
  reference : CheckpointReference
  deriving DecidableEq

structure TeeAttestationRequest where
  context : OperationContext
  target : ContainerTarget
  reportData : String
  deriving DecidableEq

/-- Attestation evidence; `evidence` keeps the payload and artifact fields the store never reads. -/
structure TeeAttestationResponse where
  target : ContainerTarget
  launch : TeeLaunchRequest
  reportData : String
  configDigest : String
  attachmentsDigest : String
  driver : DriverKind
  measurement : String
  evidenceDigest : String
  evidence : String
  deriving DecidableEq

/-! ## Requests -/

structure CreateRequest where
  context : OperationContext
  id : ContainerId
  bundle : OciBundle
  isolation : IsolationRequest
  attachments : CreateAttachments

structure StartRequest where
  context : OperationContext
  target : ContainerTarget

structure KillRequest where
  context : OperationContext
  target : ContainerTarget
  signal : Nat
  all : Bool

inductive DeleteMode
  | stoppedOnly | force
  deriving DecidableEq

structure DeleteRequest where
  context : OperationContext
  target : ContainerTarget
  mode : DeleteMode

/-- A document with hash sets and hash maps, each in the order in which it is iterated: the process
    of an exec has sets of capabilities, the resources of an update have maps. `text` is the rest. -/
structure Document where
  text : String
  sets : List (List String)
  maps : List (List (String × String))
  uniqueKeys : ∀ map ∈ maps, (map.map Prod.fst).Nodup
  deriving DecidableEq

theorem Document.noMaps : ∀ map ∈ ([] : List (List (String × String))), (map.map Prod.fst).Nodup := by
  simp

/-- The canonical JSON of a document has the keys of its maps in order, and its sets as they are. -/
def Document.sortKeys (document : Document) : Document where
  text := document.text
  sets := document.sets
  maps := document.maps.map (·.mergeSort keyLe)
  uniqueKeys := List.forall_mem_map.mpr fun map h =>
    ((List.mergeSort_perm map _).map _).nodup_iff.mpr (document.uniqueKeys map h)

/-- `io` is the stream configuration; `terminal` is the process document's own flag. -/
structure ExecRequest where
  context : OperationContext
  container : ContainerTarget
  processId : ProcessId
  process : Document
  terminal : Bool
  io : String

/-- Pause and resume. -/
structure ContainerOperationRequest where
  context : OperationContext
  target : ContainerTarget

structure UpdateRequest where
  context : OperationContext
  target : ContainerTarget
  resources : Document

structure WriteStdinRequest where
  context : OperationContext
  process : ProcessTarget
  data : List UInt8

structure CloseStdinRequest where
  context : OperationContext
  process : ProcessTarget

structure TerminalSize where
  width : UInt16
  height : UInt16
  deriving DecidableEq

structure ResizeRequest where
  context : OperationContext
  process : ProcessTarget
  size : TerminalSize

structure SignalProcessRequest where
  context : OperationContext
  process : ProcessTarget
  signal : Nat

inductive FileOp
  | upload | download
  deriving DecidableEq

structure FileRequest where
  target : ContainerTarget
  op : FileOp
  path : String
  data : Option String
  user : Option String
  context : Option OperationContext
  deriving DecidableEq

structure FileResponse where
  target : ContainerTarget
  data : Option String
  size : Nat
  deriving DecidableEq

inductive FilesystemOp
  | stat | makeDir | move | listDir | remove
  deriving DecidableEq

def FilesystemOp.isMutating : FilesystemOp → Bool
  | .makeDir | .move | .remove => true
  | .stat | .listDir => false

structure FilesystemRequest where
  target : ContainerTarget
  op : FilesystemOp
  path : String
  destination : Option String
  depth : Nat
  user : Option String
  context : Option OperationContext
  deriving DecidableEq

/-- `entries` is the canonical text of the returned metadata. -/
structure FilesystemResponse where
  target : ContainerTarget
  entries : String
  deriving DecidableEq

structure ListRequest where
  isolation : Option IsolationClass

/-! ## Events -/

inductive RuntimeEventKind
  | containerCreating | containerCreated | containerStarted | containerStopped | containerDeleted
  | containerPaused | containerResumed | containerAttested | resourcesUpdated
  | processCreated | processStarted | processExited
  deriving DecidableEq

/-- Ordered lifecycle or process event. `attributes` lists a sorted map in key order. -/
structure RuntimeEvent where
  sequence : Nat
  timestampUnixNs : Nat
  container : ContainerTarget
  operationId : Option OperationId
  processId : Option ProcessId
  kind : RuntimeEventKind
  attributes : List (String × String)
  deriving DecidableEq

end OciRuntime
