import OciRuntime.Service.Driver
import OciRuntime.Transport.Messages

/-!
# `OciRuntime.Service.Lifecycle` — how the host serves a mutating operation

`service.rs`: an operation is reserved in the store, driven by the driver of its container, recorded
in the store and then acknowledged. A replayed operation is acknowledged again, a terminal driver
failure is recorded and acknowledged, a retryable one leaves the operation prepared.

## Contents
- **World.** `World`: the store, the guests, and the operations whose acknowledgement was begun.
- **Settling.** `acknowledgeOperation`, `acknowledgeResult`, `failDriverOperation`, `drive`.
- **Operations.** One definition for each method of the service that mutates a container; `serve`.
-/

namespace OciRuntime

open Durable Program

/-! ## World -/

structure World (γ : Type) where
  store : Store
  guests : γ
  settled : List OperationId

/-- A call of the service. -/
abbrev HostM (γ α : Type) := Program (World γ) Interruption α

section Effects

variable {γ α : Type}

def onStore (m : StoreM α) : HostM γ α :=
  m.focus World.store (fun store world => { world with store }) .failed

def onGuests (m : DriverM γ α) : HostM γ α :=
  m.focus World.guests (fun guests world => { world with guests }) id

def onResult (result : Result α) : HostM γ α := check (result.mapError .failed)

/-- The outcome of a driver call as a value: the caller decides what its error means. -/
def attempt (m : DriverM γ α) : HostM γ (Result α) :=
  tryCatch (do return .ok (← onGuests m)) fun
    | .failed error => pure (.error error)
    | .silent => throw .silent

end Effects

/-! ## The host -/

def DriverKind.debug : DriverKind → String
  | .nativeLinux => "NativeLinux"
  | .libkrunKvm => "LibkrunKvm"
  | .libkrunHvf => "LibkrunHvf"
  | .libkrunWhpx => "LibkrunWhpx"

def IsolationClass.debug : IsolationClass → String
  | .dedicatedVm => "DedicatedVm"
  | .sharedGuestKernel => "SharedGuestKernel"
  | .sharedHostKernel => "SharedHostKernel"

/-- The open service: its registered drivers, and the checks of parts of a request that no other
    function reads. -/
structure LifecycleHost (γ : Type) where
  sdk : Sdk
  clock : Clock
  base64 : Base64
  drivers : List (RuntimeDriver γ)
  validateSpec : OciBundle → String → Result Unit
  validateProcess : Document → String → Result Unit
  validateResources : Document → String → Result Unit
  validateFilesystemResponse : FilesystemResponse → FilesystemOp → Result Unit
  currentArtifact : String → Result String
  verifyArtifact : String → String → Nat → String → Result Unit
  /-- The evidence names this platform, architecture and executable. -/
  compatible : String → String → Bool

namespace LifecycleHost

variable {γ α β : Type} (host : LifecycleHost γ)

def driver (kind : DriverKind) (operation : String) : Result (RuntimeDriver γ) :=
  okOr (host.drivers.find? (·.kind = kind)) ((Error.new .unavailable
    s!"recorded runtime driver {kind.debug} is not registered").forOperation operation)

def select (isolation : IsolationClass) (operation : String) : Result (RuntimeDriver γ) :=
  okOr (host.drivers.find? (isolation ∈ ·.isolationClasses)) ((Error.new .unsupported
    s!"no launch-ready driver provides requested isolation {isolation.debug}").forOperation
      operation)

def ensureAnyDriverOperation (operation : RuntimeOperation) (name : String) : Result Unit :=
  rejectIf (¬∃ driver ∈ host.drivers, operation ∈ driver.operations)
    (RuntimeDriver.unsupported name)

/-- Checks of a new operation only. -/
def unlessJournaled (journaled : Bool) (checks : HostM γ Unit) : HostM γ Unit :=
  if journaled then pure () else checks

/-- A new operation is checked against the driver of its container; a journaled one is exempt. -/
def ensureTargetDriverOperation (operationId : OperationId) (target : ContainerTarget)
    (operation : RuntimeOperation) (name : String) : HostM γ Unit := do
  let named := fun error : Error => error.forOperation name
  let journaled ← onStore (read fun s => (operationExists host.sdk operationId s).mapError named)
  unlessJournaled journaled do
    onResult (host.ensureAnyDriverOperation operation name)
    let record ← onStore (read fun s => (state host.sdk target s).mapError named)
    let registered ← onResult (host.driver record.driver name)
    onResult (registered.ensureOperation operation name)

/-! ## Settling -/

variable (health : Nat → GuestHealth)

section
variable (operationId : OperationId)

/-- Every driver is told, one after the other. -/
def acknowledgeOperation : HostM γ Unit := do
  commit fun world => { world with settled := world.settled ++ [operationId] }
  host.drivers.forM fun driver => onGuests (driver.acknowledgeOperation health operationId)

def acknowledgeResult (result : HostM γ α) : HostM γ α := do
  let value ← result
  host.acknowledgeOperation health operationId
  return value

def failDriverOperation (error : Error) : HostM γ α :=
  if error.isRetryable then throw (.failed error)
  else do
    onStore (failOperation host.sdk operationId error)
    host.acknowledgeOperation health operationId
    throw (.failed error)

/-- A failed check of a prepared operation is recorded; a new operation has nothing to record. -/
def settleExistingDriverOperation (operationExists : Bool) (error : Error) : HostM γ α :=
  if operationExists then host.failDriverOperation health operationId error else throw (.failed error)

/-- Reserve an operation and drive it unless its outcome is known. -/
def drive (prepare : StoreM (Preparation α β)) (effect : Bool → α → HostM γ β) : HostM γ β := do
  match ← onStore prepare with
  | .replayed response => host.acknowledgeResult health operationId (pure response)
  | .prepared value => effect true value
  | .resume value => effect false value

/-- Record what the driver came to. -/
def conclude (outcome : Result α) (complete : α → StoreM β) : HostM γ β :=
  match outcome with
  | .ok value => host.acknowledgeResult health operationId (onStore (complete value))
  | .error error => host.failDriverOperation health operationId error

/-- Go on unless a check fails, which is a failure of the driver. -/
def orFail (verdict : Result α) (next : α → HostM γ β) : HostM γ β :=
  match verdict with
  | .ok value => next value
  | .error error => host.failDriverOperation health operationId error

/-- Go on unless a check fails, which is recorded if the operation was journaled before. -/
def orSettle (operationExists : Bool) (verdict : Result α) (next : α → HostM γ β) : HostM γ β :=
  match verdict with
  | .ok value => next value
  | .error error => host.settleExistingDriverOperation health operationId operationExists error

end

/-! ## Container operations -/

def driverStateError (operation : String) (expected observed : ContainerState) : Error :=
  (Error.new .failedPrecondition
    (s!"driver violated the OCI {operation} barrier: expected {expected.text}, " ++
      s!"observed {observed.text}")).forOperation operation

/-- The staged bundle must keep the configuration and satisfy the attachment contract. -/
def checkStagedBundle (durable : OciBundle) (attachments : CreateAttachments) (operation : String)
    (staged : OciBundle) : Result OciBundle := do
  rejectIf (staged.configJson ≠ durable.configJson ∨ staged.configDigest ≠ durable.configDigest)
    ((Error.new .failedPrecondition
      s!"driver {operation}-bundle preparation changed immutable configuration bytes").forOperation
        operation)
  host.sdk.validateAttachments attachments staged
  return staged

def createdBarrier (observed : DriverState) : Result DriverState := do
  rejectIf (observed.status ≠ .created) (driverStateError "create" .created observed.status)
  return observed

def createdPid (observed : DriverState) : Result Int :=
  okOr observed.pid ((Error.new .internal
    "created driver state did not contain an init PID").forOperation "create")

def ensureAttachments (registered : RuntimeDriver γ) (inheritedDescriptors : Option String) :
    Result Unit :=
  rejectIf (inheritedDescriptors.isSome ∧ registered.kind ≠ .nativeLinux) ((Error.new .unsupported
      s!"driver {registered.kind.debug} does not accept native inherited descriptors").forOperation
        "create")

def create (request : CreateRequest) (inheritedDescriptors : Option String) :
    HostM γ ContainerRecord := do
  let operationId := request.context.operationId
  onResult (request.validate host.sdk)
  let teeLaunch ← onResult (host.sdk.teeLaunch request.attachments request.bundle)
  let registered ← onResult (host.select request.isolation.class "create")
  onResult (host.validateSpec request.bundle "create")
  onResult (registered.validateCreateBundle request.bundle)
  onResult (registered.requireAttachments request.attachments)
  onResult (ensureAttachments registered inheritedDescriptors)
  host.drive health operationId
    (prepareCreate host.sdk host.clock request registered.kind inheritedDescriptors)
    fun _ record => do
      let target := ContainerTarget.exact request.id record.generation
      let durable ← onStore (read (bundle host.sdk target))
      let driverRequest : DriverCreateRequest :=
        ⟨request.context, target, durable, request.isolation, request.attachments, teeLaunch,
          inheritedDescriptors⟩
      let staged ← attempt (registered.prepareCreateBundle driverRequest)
      let staged := staged.bind (host.checkStagedBundle durable request.attachments "create")
      host.orFail health operationId staged fun staged => do
        let observed ← attempt (registered.create { driverRequest with bundle := staged })
        host.orFail health operationId (observed.bind createdBarrier) fun observed => do
          let pid ← onResult (createdPid observed)
          host.acknowledgeResult health operationId
            (onStore (completeCreate host.sdk host.clock operationId pid))

def startBarrier (observed : DriverState) : Result DriverState := do
  rejectIf (observed.status ≠ .running ∧ observed.status ≠ .stopped)
    (driverStateError "start" .running observed.status)
  return observed

def start (request : StartRequest) : HostM γ ContainerRecord :=
  let operationId := request.context.operationId
  host.drive health operationId (prepareStart host.sdk host.clock request) fun _ record => do
    let registered ← onResult (host.driver record.driver "start")
    let target := ContainerTarget.exact request.target.id record.generation
    let durable ← onStore (read (bundle host.sdk target))
    let observed ← attempt (registered.start ⟨request.context, target, durable⟩)
    host.conclude health operationId (observed.bind startBarrier) fun observed =>
      completeStart host.sdk host.clock operationId observed.status observed.pid

def kill (request : KillRequest) : HostM γ ContainerRecord :=
  let operationId := request.context.operationId
  host.drive health operationId (prepareKill host.sdk host.clock request) fun _ record => do
    let registered ← onResult (host.driver record.driver "kill")
    let target := ContainerTarget.exact request.target.id record.generation
    let observed ← attempt (registered.kill ⟨request.context, target, request.signal, request.all⟩)
    host.conclude health operationId observed fun observed =>
      completeKill host.sdk host.clock operationId observed.status observed.pid

def delete (request : DeleteRequest) : HostM γ Unit :=
  let operationId := request.context.operationId
  host.drive health operationId (prepareDelete host.sdk host.clock request) fun _ record => do
    let registered ← onResult (host.driver record.driver "delete")
    let target := ContainerTarget.exact request.target.id record.generation
    let outcome ← attempt (registered.delete ⟨request.context, target, request.mode⟩)
    host.conclude health operationId outcome fun _ =>
      completeDelete host.sdk host.clock operationId

/-- Pause, resume and update: the driver call and the completion differ. -/
def containerOperation (context : OperationContext) (requested : ContainerTarget)
    (operation : RuntimeOperation) (name : String) (prepare : StoreM RecordOperationPreparation)
    (call : RuntimeDriver γ → ContainerTarget → DriverM γ DriverState)
    (complete : DriverState → StoreM ContainerRecord) : HostM γ ContainerRecord := do
  let operationId := context.operationId
  host.ensureTargetDriverOperation operationId requested operation name
  host.drive health operationId prepare fun _ record => do
    let registered ← onResult (host.driver record.driver name)
    host.orFail health operationId (registered.ensureOperation operation name) fun _ => do
      let target := ContainerTarget.exact requested.id record.generation
      let observed ← attempt (call registered target)
      host.conclude health operationId observed complete

def pause (request : ContainerOperationRequest) : HostM γ ContainerRecord :=
  host.containerOperation health request.context request.target .pause "pause"
    (preparePause host.sdk host.clock request)
    (fun registered target => registered.pause ⟨request.context, target⟩)
    fun observed => completePause host.sdk host.clock request.context.operationId observed.status
      observed.pid observed.paused

def resume (request : ContainerOperationRequest) : HostM γ ContainerRecord :=
  host.containerOperation health request.context request.target .resume "resume"
    (prepareResume host.sdk host.clock request)
    (fun registered target => registered.resume ⟨request.context, target⟩)
    fun observed => completeResume host.sdk host.clock request.context.operationId observed.status
      observed.pid observed.paused

def update (request : UpdateRequest) : HostM γ ContainerRecord := do
  onResult (request.validate host.sdk)
  onResult (host.validateResources request.resources "update")
  host.containerOperation health request.context request.target .update "update"
    (prepareUpdate host.sdk host.clock request)
    (fun registered target => registered.update ⟨request.context, target, request.resources⟩)
    fun observed => completeUpdate host.sdk host.clock request.context.operationId observed.status
      observed.pid observed.paused

/-! ## Process operations -/

def exec (request : ExecRequest) : HostM γ ProcessRecord := do
  let operationId := request.context.operationId
  onResult (request.validate host.sdk)
  onResult (host.validateProcess request.process "exec")
  host.ensureTargetDriverOperation operationId request.container .exec "exec"
  host.drive health operationId (prepareExec host.sdk host.clock request) fun _ durable => do
    let target := durable.target
    let container ← onStore (read (state host.sdk target.container))
    let registered ← onResult (host.driver container.driver "exec")
    host.orFail health operationId (registered.ensureOperation .exec "exec") fun _ => do
      let process ← attempt (registered.exec ⟨request.context, target, request.process, request.io⟩)
      host.conclude health operationId process fun process =>
        completeExec host.sdk host.clock operationId process.pid process.terminal

/-- Signals, writes, closes and resizes. -/
def processOperation (context : OperationContext) (requested : ProcessTarget)
    (operation : RuntimeOperation) (name : String) (prepare : StoreM (Preparation ProcessTarget Unit))
    (call : RuntimeDriver γ → ProcessTarget → DriverM γ Unit) (complete : StoreM Unit) :
    HostM γ Unit := do
  let operationId := context.operationId
  host.ensureTargetDriverOperation operationId requested.container operation name
  host.drive health operationId prepare fun _ target => do
    let container ← onStore (read (state host.sdk target.container))
    let registered ← onResult (host.driver container.driver name)
    host.orFail health operationId (registered.ensureOperation operation name) fun _ => do
      let outcome ← attempt (call registered target)
      host.conclude health operationId outcome fun _ => complete

def writeStdin (request : WriteStdinRequest) : HostM γ Unit := do
  onResult request.validate
  host.processOperation health request.context request.process .writeStdin "write-stdin"
    (prepareWriteStdin host.sdk host.clock request)
    (fun registered target => registered.writeStdin ⟨request.context, target, request.data⟩)
    (completeWriteStdin host.sdk request.context.operationId)

def closeStdin (request : CloseStdinRequest) : HostM γ Unit :=
  host.processOperation health request.context request.process .closeStdin "close-stdin"
    (prepareCloseStdin host.sdk host.clock request)
    (fun registered target => registered.closeStdin ⟨request.context, target⟩)
    (completeCloseStdin host.sdk request.context.operationId)

def resize (request : ResizeRequest) : HostM γ Unit := do
  onResult request.validate
  host.processOperation health request.context request.process .resize "resize"
    (prepareResize host.sdk host.clock request)
    (fun registered target => registered.resize ⟨request.context, target, request.size⟩)
    (completeResize host.sdk request.context.operationId)

def signalProcess (request : SignalProcessRequest) : HostM γ Unit :=
  host.processOperation health request.context request.process .signalProcess "signal-process"
    (prepareSignalProcess host.sdk host.clock request)
    (fun registered target => registered.signalProcess ⟨request.context, target, request.signal⟩)
    (completeSignalProcess host.sdk request.context.operationId)

/-! ## Files -/

def requiredMutationOperationId (context : Option OperationContext) (operation subject : String) :
    Result OperationId :=
  okOr (context.map (·.operationId)) ((Error.new .invalidArgument
    s!"{subject} requires an idempotency operation context").forOperation operation)

def ensureLiveFilesystem (record : ContainerRecord) (operation : String) : Result Unit :=
  rejectIf (record.state.status ≠ .created ∧ record.state.status ≠ .running)
    ((Error.new .failedPrecondition
      (s!"container {record.state.id} generation Generation({record.generation}) cannot serve " ++
        s!"{operation} while {record.state.status.text}")).forOperation operation)

def fileError (code : ErrorCode) (message : String) : Error :=
  (Error.new code message).forOperation "file"

def validateFileResponse (expectedTarget : ContainerTarget) (operation : FileOp)
    (expectedUploadSize : Option Nat) (response : FileResponse) : Result FileResponse := do
  rejectIf (response.target ≠ expectedTarget) (fileError .conflict
    "runtime driver returned a file response for a different container generation")
  rejectIf (response.size > maxFileTransferBytes) (fileError .resourceExhausted
    s!"runtime driver returned a {response.size}-byte file; maximum is {maxFileTransferBytes}")
  match operation with
  | .upload =>
    rejectIf (response.data.isSome ∨ some response.size ≠ expectedUploadSize)
      (fileError .conflict "runtime driver returned an invalid upload acknowledgement")
  | .download => do
    let data ← okOr response.data
      (fileError .conflict "runtime driver omitted the downloaded file payload")
    let decoded ← (host.base64.decode data).mapError fun error =>
      fileError .conflict s!"runtime driver returned invalid base64 file data: {error}"
    rejectIf (decoded.length ≠ response.size)
      (fileError .conflict "runtime driver file size does not match its decoded payload")
  return response

/-- The size an upload must be acknowledged with. -/
def expectedUploadSize (request : FileRequest) : Result (Option Nat) :=
  match request.data with
  | none => .ok none
  | some data => do
    let decoded ← (host.base64.decode data).mapError fun error =>
      fileError .invalidArgument s!"file upload data is not valid base64: {error}"
    return some decoded.length

/-- Uploads and filesystem mutations: a durable operation on the container's exact generation. -/
def fileMutation (operationId : OperationId) (requested : ContainerTarget)
    (operation : RuntimeOperation) (name : String)
    (prepare : StoreM (FilesystemMutationPreparation α))
    (call : RuntimeDriver γ → ContainerTarget → DriverM γ α)
    (validate : ContainerTarget → α → Result α) (complete : α → StoreM α) : HostM γ α := do
  host.ensureTargetDriverOperation operationId requested operation name
  host.drive health operationId prepare fun _ target => do
    let record ← onStore (read (state host.sdk target))
    let registered ← onResult (host.driver record.driver name)
    host.orFail health operationId (registered.ensureOperation operation name) fun _ => do
      let response ← attempt (call registered target)
      host.conclude health operationId (response.bind (validate target)) complete

/-- Downloads and filesystem queries: nothing is journaled or acknowledged. -/
def fileQuery (requested : ContainerTarget) (operation : RuntimeOperation) (name : String)
    (call : RuntimeDriver γ → ContainerTarget → DriverM γ α)
    (validate : ContainerTarget → α → Result α) : HostM γ α := do
  onResult (host.ensureAnyDriverOperation operation name)
  let record ← onStore (read (state host.sdk requested))
  onResult (ensureLiveFilesystem record name)
  let registered ← onResult (host.driver record.driver name)
  onResult (registered.ensureOperation operation name)
  let target := ContainerTarget.exact requested.id record.generation
  let response ← onGuests (call registered target)
  onResult (validate target response)

def file (request : FileRequest) : HostM γ FileResponse := do
  onResult (host.sdk.validateFile request)
  let call := fun (registered : RuntimeDriver γ) target => registered.file { request with target }
  match request.op with
  | .upload => do
    let operationId ← onResult (requiredMutationOperationId request.context "file" "file upload")
    let expected ← onResult (host.expectedUploadSize request)
    host.fileMutation health operationId request.target .file "file"
      (prepareFileMutation host.sdk host.clock request) call
      (fun target => host.validateFileResponse target .upload expected)
      (completeFileMutation host.sdk operationId)
  | .download =>
    host.fileQuery request.target .file "file" call
      fun target => host.validateFileResponse target .download none

/-- The response is about the target and has the shape and size its operation allows. -/
def checkFilesystemResponse (operation : FilesystemOp) (target : ContainerTarget)
    (response : FilesystemResponse) : Result FilesystemResponse := do
  rejectIf (response.target ≠ target) ((Error.new .conflict
    "runtime driver returned filesystem data for a different container generation").forOperation
      "filesystem")
  host.validateFilesystemResponse response operation
  return response

def filesystem (request : FilesystemRequest) : HostM γ FilesystemResponse := do
  onResult (host.sdk.validateFilesystem request)
  let call := fun (registered : RuntimeDriver γ) target =>
    registered.filesystem { request with target }
  if request.op.isMutating then do
    let operationId ← onResult (requiredMutationOperationId request.context "filesystem"
      "mutating filesystem request")
    host.fileMutation health operationId request.target .filesystem "filesystem"
      (prepareFilesystemMutation host.sdk host.clock request) call
      (host.checkFilesystemResponse request.op) (completeFilesystemMutation host.sdk operationId)
  else
    host.fileQuery request.target .filesystem "filesystem" call
      (host.checkFilesystemResponse request.op)

/-! ## Checkpoint, restore and attestation -/

/-- The evidence a checkpoint is recorded with (`CheckpointReference::new`). -/
def checkpointReference (source : ContainerRecord) (result : DriverCheckpointResult) :
    Result CheckpointReference := do
  requirePausedRunning source "checkpoint source"
  rejectIf (source.driver ≠ result.driver ∨ source.isolation ≠ result.isolation)
    (checkpointError "checkpoint compatibility does not match the paused source record")
  let target ← exactRecordTarget source
  let configDigest ← checkpointDigest source.configDigest
  let attachments ← okOr source.attachmentsDigest
    (checkpointError "checkpoint source has no attachment-manifest digest")
  let attachmentsDigest ← checkpointDigest attachments
  let reference : CheckpointReference :=
    { schemaVersion := checkpointReferenceSchema
      source := target
      sourceConfigDigest := configDigest
      sourceAttachmentsDigest := attachmentsDigest
      driver := result.driver
      isolation := result.isolation
      compatibility := result.compatibility
      quiesce := .paused
      artifact := result.artifact
      artifactSizeBytes := result.artifactSizeBytes }
  reference.validate host.sdk
  return reference

/-- `CheckpointResponse::new`. -/
def checkpointResponse (source : ContainerRecord) (reference : CheckpointReference) :
    Result CheckpointResponse := do
  reference.validate host.sdk
  requirePausedRunning source "checkpoint source"
  let target ← exactRecordTarget source
  rejectIf (target ≠ reference.source ∨ source.configDigest ≠ reference.sourceConfigDigest ∨
      source.attachmentsDigest ≠ some reference.sourceAttachmentsDigest ∨
      source.driver ≠ reference.driver ∨ source.isolation ≠ reference.isolation)
    (checkpointError "checkpoint reference does not match its exact paused source record")
  return { source, reference }

/-- The checks between the driver's result and its completion. -/
def checkpointEvidence (request : CheckpointRequest) (source : ContainerRecord)
    (runtimeArtifact : String) (result : DriverCheckpointResult) : Result CheckpointResponse := do
  rejectIf (result.driver ≠ source.driver ∨ result.isolation ≠ source.isolation ∨
      !host.compatible result.compatibility runtimeArtifact)
    (((Error.new .failedPrecondition
      ("runtime driver returned checkpoint compatibility evidence for a different execution " ++
        "stack")).forOperation "checkpoint").retryable true)
  host.verifyArtifact request.artifactPath result.artifact result.artifactSizeBytes "checkpoint"
  let transient := fun error : Error => (error.forOperation "checkpoint").retryable true
  let reference ← (host.checkpointReference source result).mapError transient
  let response ← (host.checkpointResponse source reference).mapError transient
  (response.validateForRequest request).mapError transient
  return response

def checkpoint (request : CheckpointRequest) : HostM γ CheckpointResponse := do
  let operationId := request.context.operationId
  onResult request.validate
  let journaled ← onStore (read (operationExists host.sdk operationId))
  let artifact := host.currentArtifact "checkpoint"
  -- a journaled operation is driven whatever this host is now
  unlessJournaled journaled do
    let _ ← onResult artifact
    host.ensureTargetDriverOperation operationId request.target .checkpoint "checkpoint"
  host.drive health operationId (prepareCheckpoint host.sdk host.clock request) fun _ source =>
    host.orFail health operationId artifact fun runtimeArtifact =>
    host.orFail health operationId (host.driver source.driver "checkpoint") fun registered =>
    host.orFail health operationId (registered.ensureOperation .checkpoint "checkpoint") fun _ => do
      let result ← attempt (registered.checkpoint
        ⟨request.context, source, request.artifactPath, runtimeArtifact⟩)
      let response := result.bind (host.checkpointEvidence request source runtimeArtifact)
      host.conclude health operationId response (completeCheckpoint host.sdk operationId)

/-- The checks of a restore before its artifact is looked at. -/
def restorePreflight (request : RestoreRequest) (reference : CheckpointReference)
    (registered : RuntimeDriver γ) : Result Unit := do
  rejectIf (request.isolation.class ∉ registered.isolationClasses) ((Error.new .unsupported
    "checkpoint restore isolation is not provided by its recorded driver").forOperation "restore")
  host.validateSpec request.bundle "restore"
  registered.validateCreateBundle request.bundle
  registered.requireAttachments request.attachments
  host.verifyArtifact request.artifactPath reference.artifact reference.artifactSizeBytes "restore"

def restoredPid (restored : DriverState) : Result Int :=
  let invalid := fun message : String =>
    (((Error.new .failedPrecondition message).forOperation "restore").retryable true)
  match restored.pid with
  | none => .error (invalid "restore driver returned no positive init PID")
  | some pid =>
    if restored.status ≠ .running ∨ !restored.paused ∨ pid ≤ 0 then
      .error (invalid
        "restore driver must return one paused running generation with a positive init PID")
    else .ok pid

/-- The driver part of a restore, from the validated reference on. -/
def restoreFrom (request : RestoreRequest) (teeLaunch : Option TeeLaunchRequest)
    (reference : CheckpointReference) (runtimeArtifact : String) (registered : RuntimeDriver γ) :
    HostM γ RestoreResponse :=
  let operationId := request.context.operationId
  host.drive health operationId (prepareRestore host.sdk host.clock request registered.kind)
    fun _ restoring => do
      let target := ContainerTarget.exact request.id restoring.generation
      let durable ← onStore (read (bundle host.sdk target))
      let driverRequest : DriverRestoreRequest :=
        ⟨request.context, target, durable, request.artifactPath, request.isolation,
          request.attachments, teeLaunch, reference, runtimeArtifact⟩
      let staged ← attempt (registered.prepareRestoreBundle driverRequest)
      let staged := staged.bind (host.checkStagedBundle durable request.attachments "restore")
      host.orFail health operationId staged fun staged => do
        let restored ← attempt (registered.restore { driverRequest with bundle := staged })
        host.orFail health operationId restored fun restored => do
          let pid ← onResult (restoredPid restored)
          host.acknowledgeResult health operationId
            (onStore (completeRestore host.sdk host.clock operationId pid))

def restore (request : RestoreRequest) : HostM γ RestoreResponse := do
  let operationId := request.context.operationId
  onResult (request.validate host.sdk)
  let teeLaunch ← onResult (host.sdk.teeLaunch request.attachments request.bundle)
  match ← onStore (lookupRestore host.sdk request) with
  | some response => host.acknowledgeResult health operationId (pure response)
  | none => do
    let journaled ← onStore (read (operationExists host.sdk operationId))
    unlessJournaled journaled (onResult (host.ensureAnyDriverOperation .restore "restore"))
    let reference ← onResult request.requireReference
    host.orSettle health operationId journaled (host.currentArtifact "restore") fun runtimeArtifact => do
      let compatible : Result Unit :=
        rejectIf (!host.compatible reference.compatibility runtimeArtifact)
          ((Error.new .failedPrecondition
            ("checkpoint reference is incompatible with the current Host platform, architecture, " ++
              "or executable")).forOperation "restore")
      host.orSettle health operationId journaled compatible fun _ =>
        host.orSettle health operationId journaled (host.driver reference.driver "restore")
          fun registered =>
        host.orSettle health operationId journaled (registered.ensureOperation .restore "restore")
          fun _ =>
        host.orSettle health operationId journaled (host.restorePreflight request reference registered)
          fun _ => do
            let validation ← attempt (registered.validateRestoreArtifact
              ⟨request.context, request.artifactPath, reference, runtimeArtifact⟩)
            host.orSettle health operationId journaled validation fun _ =>
              host.restoreFrom health request teeLaunch reference runtimeArtifact registered

/-- The evidence an attestation is recorded with. -/
def attestationEvidence (request : TeeAttestationRequest) (source : AttestationSource)
    (fresh : Bool) (runtimeArtifact : String) (result : DriverAttestationResult) :
    Result TeeAttestationResponse := do
  rejectIf (fresh ∧ result.runtimeArtifact ≠ runtimeArtifact) ((Error.new .failedPrecondition
    "fresh TEE attestation evidence is not bound to the invoking Host artifact").forOperation
      "attest")
  let attachmentsDigest ← okOr source.record.attachmentsDigest ((Error.new .failedPrecondition
    "TEE attestation source has no attachment-manifest digest").forOperation "attest")
  let response : TeeAttestationResponse :=
    { target := request.target
      launch := source.launch
      reportData := request.reportData
      configDigest := source.record.configDigest
      attachmentsDigest
      driver := source.record.driver
      measurement := result.measurement
      evidenceDigest := result.evidenceDigest
      evidence := result.evidence }
  host.sdk.validateEvidence response
  return response

def attest (request : TeeAttestationRequest) : HostM γ TeeAttestationResponse := do
  let operationId := request.context.operationId
  onResult request.validate
  match ← onStore (lookupAttestation host.sdk request) with
  | some response => host.acknowledgeResult health operationId (pure response)
  | none => do
    onResult (host.ensureAnyDriverOperation .attest "attest")
    let preview ← onStore (attestationSource host.sdk request.target)
    let registered ← onResult (host.driver preview.record.driver "attest")
    onResult (registered.ensureOperation .attest "attest")
    onResult (rejectIf (!registered.supportsExtension preview.launch.technology.extensionName)
      (RuntimeDriver.unsupported "attest"))
    let runtimeArtifact ← onResult (host.currentArtifact "attest")
    host.drive health operationId (prepareAttestation host.sdk host.clock request) fun fresh source => do
      let result ← attempt (registered.attest
        ⟨request.context, source.record, source.launch, request.reportData, runtimeArtifact⟩)
      let response := result.bind (host.attestationEvidence request source fresh runtimeArtifact)
      host.conclude health operationId response (completeAttestation host.sdk host.clock operationId)

end LifecycleHost

/-! ## The mutating methods of the service -/

inductive HostCall
  | create (request : CreateRequest) (inheritedDescriptors : Option String)
  | start (request : StartRequest)
  | kill (request : KillRequest)
  | delete (request : DeleteRequest)
  | exec (request : ExecRequest)
  | pause (request : ContainerOperationRequest)
  | resume (request : ContainerOperationRequest)
  | update (request : UpdateRequest)
  | writeStdin (request : WriteStdinRequest)
  | closeStdin (request : CloseStdinRequest)
  | resize (request : ResizeRequest)
  | signalProcess (request : SignalProcessRequest)
  | file (request : FileRequest)
  | filesystem (request : FilesystemRequest)
  | checkpoint (request : CheckpointRequest)
  | restore (request : RestoreRequest)
  | attest (request : TeeAttestationRequest)

inductive HostReply
  | record (value : ContainerRecord)
  | unit
  | process (value : ProcessRecord)
  | file (value : FileResponse)
  | filesystem (value : FilesystemResponse)
  | checkpoint (value : CheckpointResponse)
  | restore (value : RestoreResponse)
  | attest (value : TeeAttestationResponse)
  deriving DecidableEq

def LifecycleHost.serve {γ : Type} (host : LifecycleHost γ) (health : Nat → GuestHealth) :
    HostCall → HostM γ HostReply
  | .create request inheritedDescriptors => .record <$> host.create health request inheritedDescriptors
  | .start request => .record <$> host.start health request
  | .kill request => .record <$> host.kill health request
  | .delete request => (fun _ => .unit) <$> host.delete health request
  | .exec request => .process <$> host.exec health request
  | .pause request => .record <$> host.pause health request
  | .resume request => .record <$> host.resume health request
  | .update request => .record <$> host.update health request
  | .writeStdin request => (fun _ => .unit) <$> host.writeStdin health request
  | .closeStdin request => (fun _ => .unit) <$> host.closeStdin health request
  | .resize request => (fun _ => .unit) <$> host.resize health request
  | .signalProcess request => (fun _ => .unit) <$> host.signalProcess health request
  | .file request => .file <$> host.file health request
  | .filesystem request => .filesystem <$> host.filesystem health request
  | .checkpoint request => .checkpoint <$> host.checkpoint health request
  | .restore request => .restore <$> host.restore health request
  | .attest request => .attest <$> host.attest health request

/-! ## A permissive host -/

namespace Sample

/-- A utility-VM driver with two live guests; guest 0 runs the container `web`. -/
def vmDriver : RuntimeDriver Unit where
  kind := .libkrunKvm
  isolationClasses := [.dedicatedVm]
  operations := []
  validateCreateBundle _ := .ok ()
  requireAttachments _ := .ok ()
  supportsExtension _ := false
  prepareCreateBundle request := pure request.bundle
  create _ := pure ⟨.created, some 7, false⟩
  start _ := pure ⟨.running, some 7, false⟩
  kill _ := pure ⟨.stopped, none, false⟩
  delete _ := pure ()
  exec _ := pure ⟨8, false⟩
  signalProcess _ := pure ()
  pause _ := pure ⟨.running, some 7, true⟩
  resume _ := pure ⟨.running, some 7, false⟩
  update _ := pure ⟨.running, some 7, false⟩
  writeStdin _ := pure ()
  closeStdin _ := pure ()
  resize _ := pure ()
  file request := pure ⟨request.target, none, 0⟩
  filesystem request := pure ⟨request.target, ""⟩
  checkpoint request := pure ⟨request.source.driver, request.source.isolation, "", "", 1⟩
  validateRestoreArtifact _ := pure ()
  prepareRestoreBundle request := pure request.bundle
  restore _ := pure ⟨.running, some 7, true⟩
  attest request := pure ⟨request.runtimeArtifact, "", "", ""⟩
  recover record := pure ⟨some ⟨record.state.status, record.state.pid, false⟩, none, .none, []⟩
  clients := [⟨0, fun _ _ => ()⟩, ⟨1, fun _ _ => ()⟩]

def host : LifecycleHost Unit where
  sdk := sdk
  clock := clock
  base64 := ⟨fun _ => .error "no data", nofun⟩
  drivers := [vmDriver]
  validateSpec _ _ := .ok ()
  validateProcess _ _ := .ok ()
  validateResources _ _ := .ok ()
  validateFilesystemResponse _ _ := .ok ()
  currentArtifact _ := .ok ""
  verifyArtifact _ _ _ _ := .ok ()
  compatible _ _ := true

end Sample

end OciRuntime
