import OciRuntime.State.Query
import OciRuntime.Transport.Wire

/-!
# `OciRuntime.Service.Driver` — what the host asks of its drivers

The requests of `runtime/src/driver.rs`, the trait `RuntimeDriver` as a record of calls, and the
acknowledgement of operations: a driver forwards it to every guest it has a live session with
(`utility_vm_driver.rs`, `whpx_driver.rs`, `native_linux_driver.rs`), one after the other.

The state of the guests is a parameter `γ`: a call of a driver is a program over it.
-/

namespace OciRuntime

open Durable Program

/-! ## Awaited calls -/

/-- How an awaited call ends without a value: with an error, or not at all. -/
inductive Interruption
  | failed (error : Error)
  | silent
  deriving DecidableEq

/-- A call of a driver. -/
abbrev DriverM (γ α : Type) := Program γ Interruption α

/-! ## Guests -/

def agentProtocolError (code : ErrorCode) (message : String) : Error :=
  (Error.new code message).forOperation "agent-protocol"

/-- What the agent client of a guest that stopped answering returns (`AgentClient::call`). -/
inductive GuestStop
  /-- An earlier call failed on this connection. -/
  | poisoned
  /-- The guest closed the stream instead of answering. -/
  | closed
  /-- Reading or writing a frame failed. -/
  | transport (operation error : String)
  /-- Nothing arrives any more. -/
  | silent
  deriving DecidableEq

def GuestStop.interruption : GuestStop → Interruption
  | .poisoned => .failed ((agentProtocolError .unavailable
      "guest-agent connection is closed after an earlier protocol failure").retryable true)
  | .closed => .failed ((agentProtocolError .unavailable
      "guest closed the stream before returning a response").retryable true)
  | .transport operation error => .failed (AgentWire.ioError operation error)
  | .silent => .silent

inductive GuestHealth
  | answering
  | stopped (stop : GuestStop)
  deriving DecidableEq

/-- The live session of a driver with a guest; `release` is what the guest does when an operation is
    acknowledged. -/
structure GuestClient (γ : Type) where
  guest : Nat
  release : OperationId → γ → γ

def GuestClient.acknowledgeOperation {γ : Type} (health : Nat → GuestHealth)
    (client : GuestClient γ) (operationId : OperationId) : DriverM γ Unit :=
  match health client.guest with
  | .answering => commit (client.release operationId)
  | .stopped stop => throw stop.interruption

/-! ## Requests -/

inductive RuntimeOperation
  | exec | pause | resume | update | writeStdin | closeStdin | resize | signalProcess | file
  | filesystem | checkpoint | restore | attest
  deriving DecidableEq

structure DriverCreateRequest where
  context : OperationContext
  target : ContainerTarget
  bundle : OciBundle
  isolation : IsolationRequest
  attachmentContract : CreateAttachments
  teeLaunch : Option TeeLaunchRequest
  inheritedDescriptors : Option String

structure DriverStartRequest where
  context : OperationContext
  target : ContainerTarget
  bundle : OciBundle

structure DriverKillRequest where
  context : OperationContext
  target : ContainerTarget
  signal : Nat
  all : Bool

structure DriverDeleteRequest where
  context : OperationContext
  target : ContainerTarget
  mode : DeleteMode

structure DriverExecRequest where
  context : OperationContext
  target : ProcessTarget
  process : Document
  io : String

structure DriverProcess where
  pid : Int
  terminal : Bool

structure DriverSignalProcessRequest where
  context : OperationContext
  target : ProcessTarget
  signal : Nat

structure DriverContainerOperationRequest where
  context : OperationContext
  target : ContainerTarget

structure DriverUpdateRequest where
  context : OperationContext
  target : ContainerTarget
  resources : Document

structure DriverWriteStdinRequest where
  context : OperationContext
  target : ProcessTarget
  data : List UInt8

structure DriverCloseStdinRequest where
  context : OperationContext
  target : ProcessTarget

structure DriverResizeRequest where
  context : OperationContext
  target : ProcessTarget
  size : TerminalSize

structure DriverCheckpointRequest where
  context : OperationContext
  source : ContainerRecord
  artifactPath : String
  runtimeArtifact : String

/-- `compatibility` keeps the platform, build and executable of the evidence, `artifact` the digest
    of the published file. -/
structure DriverCheckpointResult where
  driver : DriverKind
  isolation : IsolationClass
  compatibility : String
  artifact : String
  artifactSizeBytes : Nat

structure DriverRestoreValidationRequest where
  context : OperationContext
  artifactPath : String
  reference : CheckpointReference
  runtimeArtifact : String

structure DriverRestoreRequest where
  context : OperationContext
  target : ContainerTarget
  bundle : OciBundle
  artifactPath : String
  isolation : IsolationRequest
  attachmentContract : CreateAttachments
  teeLaunch : Option TeeLaunchRequest
  reference : CheckpointReference
  runtimeArtifact : String

structure DriverAttestationRequest where
  context : OperationContext
  source : ContainerRecord
  launch : TeeLaunchRequest
  reportData : String
  runtimeArtifact : String

structure DriverAttestationResult where
  runtimeArtifact : String
  measurement : String
  evidenceDigest : String
  evidence : String

/-- What a driver found of a container when the service opened. -/
structure DriverRecovery where
  observation : Option DriverState
  initExitStatus : Option ExitStatus
  recreatedProcess : RecreatedProcess
  recreatedExecProcesses : List ProcessRecord

/-! ## Drivers -/

/-- The trait `RuntimeDriver`, with the entry of the driver registry that holds it. -/
structure RuntimeDriver (γ : Type) where
  kind : DriverKind
  isolationClasses : List IsolationClass
  operations : List RuntimeOperation
  validateCreateBundle : OciBundle → Result Unit
  requireAttachments : CreateAttachments → Result Unit
  supportsExtension : String → Bool
  prepareCreateBundle : DriverCreateRequest → DriverM γ OciBundle
  create : DriverCreateRequest → DriverM γ DriverState
  start : DriverStartRequest → DriverM γ DriverState
  kill : DriverKillRequest → DriverM γ DriverState
  delete : DriverDeleteRequest → DriverM γ Unit
  exec : DriverExecRequest → DriverM γ DriverProcess
  signalProcess : DriverSignalProcessRequest → DriverM γ Unit
  pause : DriverContainerOperationRequest → DriverM γ DriverState
  resume : DriverContainerOperationRequest → DriverM γ DriverState
  update : DriverUpdateRequest → DriverM γ DriverState
  writeStdin : DriverWriteStdinRequest → DriverM γ Unit
  closeStdin : DriverCloseStdinRequest → DriverM γ Unit
  resize : DriverResizeRequest → DriverM γ Unit
  file : FileRequest → DriverM γ FileResponse
  filesystem : FilesystemRequest → DriverM γ FilesystemResponse
  checkpoint : DriverCheckpointRequest → DriverM γ DriverCheckpointResult
  validateRestoreArtifact : DriverRestoreValidationRequest → DriverM γ Unit
  prepareRestoreBundle : DriverRestoreRequest → DriverM γ OciBundle
  restore : DriverRestoreRequest → DriverM γ DriverState
  attest : DriverAttestationRequest → DriverM γ DriverAttestationResult
  recover : ContainerRecord → DriverM γ DriverRecovery
  /-- The live guests, in the order in which they are told of an acknowledgement. -/
  clients : List (GuestClient γ)

namespace RuntimeDriver

variable {γ : Type}

def unsupported (operation : String) : Error :=
  (Error.new .unsupported
    s!"runtime operation `{operation}` is not supported by the selected driver").forOperation
      operation

def ensureOperation (driver : RuntimeDriver γ) (operation : RuntimeOperation) (name : String) :
    Result Unit :=
  rejectIf (operation ∉ driver.operations) (unsupported name)

/-- Every live guest is told, one after the other; the first failure ends the loop. -/
def acknowledgeOperation (health : Nat → GuestHealth) (driver : RuntimeDriver γ)
    (operationId : OperationId) : DriverM γ Unit :=
  driver.clients.forM fun client => client.acknowledgeOperation health operationId

end RuntimeDriver

end OciRuntime
