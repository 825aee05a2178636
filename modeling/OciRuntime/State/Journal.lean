import OciRuntime.State.OciState

/-!
# `OciRuntime.State.Journal` — operation journal, record loading and the lifecycle claim

The shared core of `state/mod.rs`, `state/operation.rs` and the legacy migration of
`state/process_io.rs`: how operations are loaded and matched against a retry, how a container
record is loaded and checked against its snapshot, how generations are allocated, and how an
operation takes a container's single lifecycle claim.
-/

namespace OciRuntime

open Durable Program

variable (sdk : Sdk)

/-! ## Clock -/

/-- What the system clock answers during one call: `none` stands for a time before the Unix epoch.
    The event with sequence `n` is stamped with `stampNanos n`. -/
structure Clock where
  nowMillis : Option Nat
  stampNanos : Nat → Option Nat

/-- Reject work that would begin after the caller's deadline. -/
def validateDeadline (clock : Clock) (context : OperationContext) (operation : String) :
    Result Unit :=
  match context.deadlineUnixMs with
  | none => .ok ()
  | some deadline =>
    match clock.nowMillis with
    | none => .error (stateError .internal operation "system clock is before the Unix epoch")
    | some now =>
      if now ≥ deadline then
        .error (stateError .deadlineExceeded operation
          s!"operation deadline {deadline} has expired")
      else .ok ()

/-! ## Operation shapes -/

def StoredOperationKind.debug : StoredOperationKind → String
  | .create => "Create" | .start => "Start" | .kill => "Kill" | .delete => "Delete"
  | .exec => "Exec" | .signalProcess => "SignalProcess" | .writeStdin => "WriteStdin"
  | .closeStdin => "CloseStdin" | .resize => "Resize" | .pause => "Pause" | .resume => "Resume"
  | .update => "Update" | .file => "File" | .filesystem => "Filesystem"
  | .checkpoint => "Checkpoint" | .restore => "Restore" | .attest => "Attest"

def RequestDigests.forSchema (digests : RequestDigests) : OperationSchema → Option String
  | .v1 => some digests.legacy
  | .v2 | .v3 | .v4 | .v5 | .v6 => some digests.canonical
  | .other _ => none

def RequestDigests.current (digests : RequestDigests) : String := digests.canonical

/-- A retry must repeat the journaled request. -/
def validateRetry (stored : StoredOperation) (operationId : OperationId)
    (kind : StoredOperationKind) (containerId : ContainerId) (digests : RequestDigests)
    (operation : String) : Result Unit :=
  match digests.forSchema stored.schemaVersion with
  | none => .error (stateError .failedPrecondition operation
      (s!"operation ID {operationId.value} uses unsupported durable schema " ++
        stored.schemaVersion.text))
  | some expected =>
    if stored.kind ≠ kind ∨ stored.containerId ≠ containerId ∨ stored.requestDigest ≠ expected then
      .error (stateError .failedPrecondition operation
        s!"operation ID {operationId.value} was already used for a different request")
    else .ok ()

def checkpointRequestDigest (request : CheckpointRequest) : RequestDigests :=
  sdk.requestDigest (.checkpoint request.target request.artifactPath request.quiesce)

def restoreRequestDigest (request : RestoreRequest) : Result RequestDigests := do
  let reference ← request.requireReference
  return sdk.requestDigest (.restore request.id request.bundle request.artifactPath
    request.isolation request.attachments reference)

def attestationRequestDigest (request : TeeAttestationRequest) : RequestDigests :=
  sdk.requestDigest (.attest request.target request.reportData)

/-- The request was made for the operation's container, and for its generation if it named one. -/
def StoredOperation.requestTargetMatches (operation : StoredOperation)
    (target : ContainerTarget) : Bool :=
  target.id = operation.containerId ∧ target.generation.all (· = operation.generation)

/-- The response names the operation's exact container generation. -/
def StoredOperation.responseTargetMatches (operation : StoredOperation)
    (target : ContainerTarget) : Bool :=
  target.id = operation.containerId ∧ target.generation = some operation.generation

/-- Operation schemas that retain a request from version `n` on. -/
def OperationSchema.atLeast : Nat → OperationSchema → Bool
  | _, .other _ => false
  | n, .v1 => n ≤ 1
  | n, .v2 => n ≤ 2
  | n, .v3 => n ≤ 3
  | n, .v4 => n ≤ 4
  | n, .v5 => n ≤ 5
  | n, .v6 => n ≤ 6

/-- Why a journal entry does not have the shape its kind requires; `none` if it has. -/
def StoredOperation.shapeFault (operation : StoredOperation) : Option String :=
  match operation.kind with
  | .file =>
    if !operation.schemaVersion.atLeast 3 then
      some "File mutations require the current request-retaining schema"
    else
      match operation.request with
      | some (.file request) =>
        if request.op ≠ .upload ∨ !operation.requestTargetMatches request.target ∨
            request.context.map (·.operationId) ≠ some operation.operationId ∨
            (sdk.validateFile request).toOption.isNone then
          some "File mutation request does not match its durable identity"
        else
          match operation.outcome with
          | .prepared | .failed _ => none
          | .succeededFilesystem (.file response) =>
            if operation.responseTargetMatches response.target then none
            else some "File response targets a different container generation"
          | .succeededFilesystem (.filesystem _) =>
            some "File mutation contains a Filesystem response"
          | _ => some "File mutation contains an incompatible outcome"
      | _ => some "File mutation does not retain its exact request"
  | .filesystem =>
    if !operation.schemaVersion.atLeast 3 then
      some "Filesystem mutations require the current request-retaining schema"
    else
      match operation.request with
      | some (.filesystem request) =>
        if !request.op.isMutating ∨ !operation.requestTargetMatches request.target ∨
            request.context.map (·.operationId) ≠ some operation.operationId ∨
            (sdk.validateFilesystem request).toOption.isNone then
          some "Filesystem mutation request does not match its durable identity"
        else
          match operation.outcome with
          | .prepared | .failed _ => none
          | .succeededFilesystem (.filesystem response) =>
            if operation.responseTargetMatches response.target then none
            else some "Filesystem response targets a different container generation"
          | .succeededFilesystem (.file _) =>
            some "Filesystem mutation contains a File response"
          | _ => some "Filesystem mutation contains an incompatible outcome"
      | _ => some "Filesystem mutation does not retain its exact request"
  | .checkpoint =>
    if !operation.schemaVersion.atLeast 4 then
      some "Checkpoint mutations require the current request-retaining schema"
    else
      match operation.request with
      | some (.checkpoint request) =>
        if !operation.requestTargetMatches request.target ∨
            request.context.operationId ≠ operation.operationId ∨
            request.validate.toOption.isNone ∨
            (checkpointRequestDigest sdk request).current ≠ operation.requestDigest then
          some "Checkpoint request does not match its durable identity"
        else
          match operation.outcome with
          | .prepared | .failed _ => none
          | .succeededCheckpoint response =>
            if (response.validateForRequest request).toOption.isSome then none
            else some "Checkpoint response does not match its retained request"
          | _ => some "Checkpoint mutation contains an incompatible outcome"
      | _ => some "Checkpoint mutation does not retain its exact request"
  | .restore =>
    if !operation.schemaVersion.atLeast 5 then
      some "Restore mutations require the current request-retaining schema"
    else
      match operation.request with
      | some (.restore request) =>
        if request.id ≠ operation.containerId ∨
            request.context.operationId ≠ operation.operationId ∨
            (request.validate sdk).toOption.isNone ∨
            (restoreRequestDigest sdk request).toOption.map (·.current) ≠
              some operation.requestDigest then
          some "Restore request does not match its durable identity"
        else
          match operation.outcome with
          | .prepared | .failed _ => none
          | .succeededRestore response =>
            if response.restored.generation = operation.generation ∧
                (response.validateForRequest sdk request).toOption.isSome then none
            else some "Restore response does not match its retained request and generation"
          | _ => some "Restore mutation contains an incompatible outcome"
      | _ => some "Restore mutation does not retain its exact request"
  | .attest =>
    if operation.schemaVersion ≠ operationSchemaVersion then
      some "TEE attestation mutations require operation schema v6"
    else
      match operation.request with
      | some (.attest request) =>
        if !operation.responseTargetMatches request.target ∨
            request.context.operationId ≠ operation.operationId ∨
            request.validate.toOption.isNone ∨
            (attestationRequestDigest sdk request).current ≠ operation.requestDigest then
          some "TEE attestation request does not match its durable identity"
        else
          match operation.outcome with
          | .prepared | .failed _ => none
          | .succeededAttestation response =>
            if (response.validateForRequest sdk request).toOption.isSome then none
            else some "TEE attestation response does not match its retained request"
          | _ => some "TEE attestation mutation contains an incompatible outcome"
      | _ => some "TEE attestation mutation does not retain its exact request"
  | .create | .start | .kill | .delete | .exec | .signalProcess | .writeStdin | .closeStdin
  | .resize | .pause | .resume | .update =>
    match operation.request, operation.outcome with
    | some _, _ | _, .succeededFilesystem _ | _, .succeededCheckpoint _ | _, .succeededRestore _
    | _, .succeededAttestation _ =>
      some "non-filesystem operation contains filesystem mutation data"
    | none, _ => none

/-! ## Loading operations -/

/-- Load a journal entry and check it against its name and its shape. -/
def loadOperation (operationId : OperationId) (s : Store) : Result StoredOperation :=
  match s.operations.get? operationId with
  | none => .error (stateError .notFound "load-operation"
      s!"operation {operationId.value} does not exist")
  | some operation =>
    if !operation.schemaVersion.atLeast 1 ∨ operation.operationId ≠ operationId then
      .error (stateError .failedPrecondition "load-operation"
        s!"invalid durable operation record for {operationId.value}")
    else
      match operation.shapeFault sdk with
      | some message => .error (stateError .failedPrecondition "load-operation"
          s!"invalid durable operation record for {operation.operationId.value}: {message}")
      | none => .ok operation

def loadOperationIfPresent (operationId : OperationId) (s : Store) :
    Result (Option StoredOperation) :=
  if (s.operations.get? operationId).isNone then .ok none
  else (loadOperation sdk operationId s).map some

/-! ## Generations -/

/-- Allocate the next generation of a container ID. -/
def nextGeneration (id : ContainerId) : StoreM Nat := do
  let last ← read fun s =>
    match s.generations.get? id with
    | none => .ok 0
    | some stored =>
      if stored.schemaVersion ≠ generationSchemaVersion ∨ stored.id ≠ id then
        .error (stateError .failedPrecondition "allocate-generation"
          s!"invalid generation record for {id.value}")
      else .ok stored.lastGeneration
  rejectIf (last ≥ u64Max) (stateError .resourceExhausted "allocate-generation"
      s!"container {id.value} exhausted its generation counter")
  commit (·.writeGeneration ⟨generationSchemaVersion, id, last + 1⟩)
  return last + 1

def generationConflict (id : ContainerId) (expected actual : Nat) (operation : String) : Error :=
  stateError .conflict operation
    s!"container {id.value} generation mismatch: expected {expected}, current {actual}"

/-! ## Loading containers -/

/-- Decode the configuration snapshot of a container directory. -/
def loadBundleFromDirectory (stored : StoredContainer) (directory : ContainerDirectory) :
    Result OciBundle :=
  match directory.config with
  | none => .error ((stateError .unavailable "load-durable-bundle"
      s!"container {stored.id.value} has no configuration snapshot").retryable true)
  | some configJson => OciBundle.fromJson sdk stored.record.state.bundle configJson

/-- The isolation request that a stored record stands for. -/
def storedIsolationRequest (stored : StoredContainer) (attachments : CreateAttachments) :
    Result IsolationRequest :=
  match stored.record.isolation with
  | .dedicatedVm => .ok .dedicatedVm
  | .sharedHostKernel => .ok .sharedHostKernel
  | .sharedGuestKernel =>
    match attachments.guestSession with
    | some session => .ok (.sharedGuestKernel session.trustDomain)
    | none => .error (stateError .failedPrecondition "load-container-state"
        (s!"container {stored.id.value} shared-guest isolation has no durable " ++
          "guest-session attachment"))

/-- The attachment evidence of a record must match its manifest and its snapshot. -/
def validateStoredAttachments (stored : StoredContainer) (bundle : OciBundle) : Result Unit :=
  let record := stored.record
  let invalid (message : String) : Error :=
    stateError .failedPrecondition "load-container-state" s!"container {stored.id.value} {message}"
  match stored.attachments, record.attachmentsDigest with
  | some attachments, some expectedDigest => do
    sdk.validateAttachments attachments bundle
    let isolation ← storedIsolationRequest stored attachments
    (attachments.validateIsolation sdk isolation).mapError fun error => invalid
      ("guest-session evidence or TEE launch evidence does not match its durable isolation: " ++
        error.message)
    let expectedNetworkEnforcement ← sdk.networkEnforcement attachments bundle
    rejectIf ((record.guestSession.isSome ∧ record.isolation ≠ .sharedGuestKernel) ∨
        record.guestSession ≠ attachments.guestSession ∨
        record.networkEnforcement ≠ expectedNetworkEnforcement)
      (invalid
        ("guest-session evidence or network-enforcement evidence does not match its durable " ++
          "attachment contract"))
    rejectIf (sdk.attachmentsDigest attachments ≠ expectedDigest)
      (invalid "attachment digest does not match its durable contract")
  | none, none =>
    if record.guestSession.isNone ∧ record.networkEnforcement.isNone then .ok ()
    else .error (invalid "has incomplete durable attachment evidence")
  | _, _ => .error (invalid "has incomplete durable attachment evidence")

/-- Load the record in a container directory and check everything that binds it. -/
def loadStoredContainerFromDirectory (id : ContainerId)
    (directory : ContainerDirectory) : Result StoredContainer :=
  match directory.record with
  | none => .error ((stateError .unavailable "reconcile-container-state"
      s!"container {id.value} has no durable record").retryable true)
  | some stored =>
    if stored.schemaVersion ≠ containerSchemaVersion ∨ stored.id ≠ id ∨
        stored.record.generation = 0 ∨ stored.record.state.id ≠ id.value then
      .error (stateError .failedPrecondition "load-container-state"
        s!"invalid durable container record for {id.value}")
    else do
      validateState stored.record.state
      let bundle ← loadBundleFromDirectory sdk stored directory
      rejectIf (bundle.configDigest ≠ stored.record.configDigest)
        (stateError .failedPrecondition "load-container-state"
          s!"container {id.value} configuration digest does not match its snapshot")
      validateStoredAttachments sdk stored bundle
      return stored

def loadStoredContainer (id : ContainerId) (s : Store) : Result StoredContainer :=
  match s.containers.get? id with
  | none => .error (stateError .notFound "load-container-state"
      s!"container {id.value} does not exist")
  | some directory => loadStoredContainerFromDirectory sdk id directory

/-- Load the exact generation that a journal entry refers to. -/
def loadStoredExact (id : ContainerId) (generation : Nat) (s : Store) : Result StoredContainer :=
  match loadStoredContainer sdk id s with
  | .error error =>
    if error.code = .notFound then
      .error ((stateError .unavailable "reconcile-operation"
        (s!"operation journal references missing container {id.value} " ++
          s!"generation {generation}")).retryable true)
    else .error error
  | .ok stored =>
    if stored.record.generation ≠ generation then
      .error (generationConflict id generation stored.record.generation "reconcile-operation")
    else .ok stored

/-! ## The lifecycle claim -/

/-- Accept an unclaimed container or one that the operation itself claims. -/
def ensureActiveOperation (stored : StoredContainer) (operationId : OperationId)
    (operation : String) : Result Unit :=
  match stored.activeOperation with
  | none => .ok ()
  | some active =>
    if active = operationId then .ok ()
    else .error (stateError .conflict operation
      (s!"container {stored.id.value} is owned by active operation {active.value}, " ++
        s!"not {operationId.value}"))

/-- The claim commits whose identity the claim protocol reads. -/
inductive ClaimMutation
  | create | start | kill | pause | resume | update | delete | signalProcess | file | filesystem
  | checkpoint | restore | attestation
  deriving DecidableEq

def isProcessIoKind : StoredOperationKind → Bool
  | .writeStdin | .closeStdin | .resize => true
  | _ => false

/-- An older release kept init I/O in the lifecycle slot; the entry must still match it. -/
def validateLegacyIoOperation (operation : StoredOperation) (containerId : ContainerId)
    (generation : Nat) (init : Bool) : Result Unit :=
  if operation.containerId ≠ containerId ∨ operation.generation ≠ generation ∨
      !operation.processId.any (fun p => p.isInit == init) ∨ operation.outcome ≠ .prepared then
    .error (stateError .failedPrecondition "migrate-process-io-claim"
      (s!"legacy process I/O operation {operation.operationId.value} does not match its active " ++
        "durable claim"))
  else .ok ()

/-- Move a legacy init-I/O claim out of the lifecycle slot; `none` if there is none to move. -/
def migrateLegacyInitIoClaim (stored : StoredContainer) (s : Store) :
    Result (Option StoredContainer) :=
  match stored.activeOperation with
  | none => .ok none
  | some operationId => do
    let operation ← loadOperation sdk operationId s
    if !isProcessIoKind operation.kind then .ok none
    else do
      validateLegacyIoOperation operation stored.id stored.record.generation true
      return some { stored with
        activeOperation := none
        initIoOperations := insert operationId stored.initIoOperations }

/-- The record with an empty lifecycle slot, or `Conflict` if another operation holds it. -/
def vacateLifecycleClaim (stored : StoredContainer) (mutation : ClaimMutation)
    (operation : String) (s : Store) : Result StoredContainer :=
  match stored.activeOperation with
  | none => .ok stored
  | some active => do
    let migrated ← migrateLegacyInitIoClaim sdk stored s
    let vacated ← okOr migrated (stateError .conflict operation
      s!"container {stored.id.value} already has active operation {active.value}")
    rejectIf (mutation = .delete ∨ mutation = .checkpoint) ((stateError .conflict operation
        (s!"container {stored.id.value} init process is owned by active I/O operation " ++
          active.value)).retryable true)
    return vacated

/-- Take the lifecycle claim of a container, or fail with `Conflict`. Returns the record as it is
    now stored. -/
def claimActiveOperation (stored : StoredContainer) (operationId : OperationId)
    (mutation : ClaimMutation) (operation : String) : StoreM StoredContainer :=
  if stored.activeOperation = some operationId then pure stored
  else do
    let vacated ← read (vacateLifecycleClaim sdk stored mutation operation)
    let claimed := { vacated with activeOperation := some operationId }
    commit (·.writeContainer claimed)
    return claimed

end OciRuntime
