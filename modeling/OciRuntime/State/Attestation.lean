import OciRuntime.State.Restore

/-!
# `OciRuntime.State.Attestation` — TEE attestation

`state/attestation.rs`. An attestation binds evidence to the launch that a dedicated-VM generation
was created with.
-/

namespace OciRuntime

open Durable Program

variable (sdk : Sdk) (clock : Clock)

/-- The record to be attested and the launch it was created with. -/
structure AttestationSource where
  record : ContainerRecord
  launch : TeeLaunchRequest

abbrev AttestationOperationPreparation := Preparation AttestationSource TeeAttestationResponse

def invalidAttestationOutcome (operationId : OperationId) : Error :=
  stateError .failedPrecondition "attest"
    s!"TEE attestation operation {operationId.value} has an invalid durable outcome"

def attestationUnfenced : Error :=
  stateError .invalidArgument "attest" "TEE attestation requires an exact generation"

def validateAttestationRetry (operation : StoredOperation) (request : TeeAttestationRequest)
    (digest : RequestDigests) : Result Unit := do
  let operationId := request.context.operationId
  validateRetry operation operationId .attest request.target.id digest "attest"
  rejectIf (operation.request ≠ some (.attest request)) (stateError .failedPrecondition "attest"
    (s!"operation ID {operationId.value} was already used for a different TEE attestation " ++
      "request"))

/-- Rebuild the immutable launch bindings of a generation from its directory. -/
def validateAttestationBindings (stored : StoredContainer)
    (directory : ContainerDirectory) : Result AttestationSource := do
  let invalid := stateError .failedPrecondition "attest"
  rejectIf (stored.record.isolation ≠ .dedicatedVm)
    (invalid "TEE attestation source does not use dedicated-vm isolation")
  let attachments ← okOr stored.attachments
    (invalid "TEE attestation source has no durable attachment contract")
  let bundle ← loadBundleFromDirectory sdk stored directory
  let launched ← sdk.teeLaunch attachments bundle
  let launch ← okOr launched
    (invalid "container generation was not created with a TEE launch extension")
  return ⟨stored.record, launch⟩

/-- The live directory of a loaded container. -/
def Store.directory (s : Store) (stored : StoredContainer) : ContainerDirectory :=
  (s.containers.get? stored.id).getD .empty

def validateAttestationSource (stored : StoredContainer) (s : Store) :
    Result AttestationSource := do
  rejectIf (stored.record.state.status ≠ .created ∧ stored.record.state.status ≠ .running)
    (stateError .failedPrecondition "attest"
      (s!"container {stored.id.value} generation {stored.record.generation} must be created or " ++
        "running before TEE attestation"))
  validateAttestationBindings sdk stored (s.directory stored)

/-- Check durable replay; `none` is pending. -/
def lookupAttestation (request : TeeAttestationRequest) :
    StoreM (Option TeeAttestationResponse) := do
  let operationId := request.context.operationId
  check request.validate
  let digest := attestationRequestDigest sdk request
  let journaled ← read (loadOperationIfPresent sdk operationId)
  match journaled with
  | none => pure none
  | some operation => do
    check (validateAttestationRetry operation request digest)
    match operation.outcome with
    | .prepared => pure none
    | .succeededAttestation response => pure (some response)
    | .failed error => throw error
    | _ => throw (invalidAttestationOutcome operationId)

/-- Read and validate one exact TEE-backed source without reserving an operation. -/
def attestationSource (target : ContainerTarget) : StoreM AttestationSource := do
  let generation ← check (okOr target.generation attestationUnfenced)
  let stored ← read (loadStoredExact sdk target.id generation)
  read (validateAttestationSource sdk stored)

/-- Load the container of an attestation request, which always names a generation. -/
def loadAttestationTarget (target : ContainerTarget) (s : Store) : Result StoredContainer := do
  let expected ← okOr target.generation attestationUnfenced
  let stored ← loadStoredContainer sdk target.id s
  rejectIf (stored.record.generation ≠ expected)
    (generationConflict target.id expected stored.record.generation "attest")
  return stored

def prepareAttestation (request : TeeAttestationRequest) :
    StoreM AttestationOperationPreparation := do
  let name := "attest"
  let operationId := request.context.operationId
  check request.validate
  let digest := attestationRequestDigest sdk request
  let journaled ← read (loadOperationIfPresent sdk operationId)
  match journaled with
  | some operation => do
    check (validateAttestationRetry operation request digest)
    match operation.outcome with
    | .prepared => do
      let stored ← read (loadStoredExact sdk operation.containerId operation.generation)
      let source ← read (validateAttestationSource sdk stored)
      let _ ← claimActiveOperation sdk stored operationId .attestation name
      return .resume source
    | .succeededAttestation response => pure (.replayed response)
    | .failed error => throw error
    | _ => throw (invalidAttestationOutcome operationId)
  | none => do
    check (validateDeadline clock request.context name)
    let stored ← read (loadAttestationTarget sdk request.target)
    let source ← read (validateAttestationSource sdk stored)
    commit (·.writeOperation (preparedOperation operationId .attest stored.id
      stored.record.generation none (some (.attest request)) digest))
    let _ ← claimActiveOperation sdk stored operationId .attestation name
    return .prepared source

/-- Evidence must be about the request and the durable source. -/
def validateAttestationResponseBindings (source : AttestationSource)
    (operationId : OperationId) (request : TeeAttestationRequest)
    (response : TeeAttestationResponse) : Result Unit := do
  response.validateForRequest sdk request
  let attachmentsDigest ← okOr source.record.attachmentsDigest
    (stateError .failedPrecondition "attest" "TEE source has no attachment-manifest digest")
  rejectIf (response.target ≠ request.target ∨ response.launch ≠ source.launch ∨
      response.driver ≠ source.record.driver ∨
      response.configDigest ≠ source.record.configDigest ∨
      response.attachmentsDigest ≠ attachmentsDigest)
    (stateError .conflict "attest"
      (s!"TEE attestation operation {operationId.value} returned evidence that differs from " ++
        "durable source bindings"))

/-- Outcome of an attestation: `none` while it is prepared. -/
def attestationOutcome (outcome : StoredOperationStatus) (invalid : Error) :
    Result (Option TeeAttestationResponse) :=
  match outcome with
  | .prepared => .ok none
  | .succeededAttestation response => .ok (some response)
  | .failed error => .error error
  | _ => .error invalid

def retainedAttestationRequest (operation : StoredOperation) : Result TeeAttestationRequest :=
  match operation.request with
  | some (.attest request) => .ok request
  | _ => .error (stateError .failedPrecondition "attest"
      s!"TEE attestation operation {operation.operationId.value} has no retained request")

/-- Attributes of the attested event, in key order. -/
def attestedAttributes (operationId : OperationId) (response : TeeAttestationResponse) :
    List (String × String) :=
  [("evidence-digest", response.evidenceDigest), ("measurement", response.measurement),
    ("operation-id", operationId.value),
    ("tee-extension", response.launch.technology.extensionName)]

def completeAttestation (operationId : OperationId)
    (response : TeeAttestationResponse) : StoreM TeeAttestationResponse := do
  let name := "attest"
  let operation ← read (loadOperation sdk operationId)
  rejectIf (operation.kind ≠ .attest) (invalidAttestationOutcome operationId)
  let done ← check (attestationOutcome operation.outcome (invalidAttestationOutcome operationId))
  match done with
  | some response => pure response
  | none => do
    let request ← check (retainedAttestationRequest operation)
    let stored ← read (loadStoredExact sdk operation.containerId operation.generation)
    let source ← read (validateAttestationSource sdk stored)
    check (validateAttestationResponseBindings sdk source operationId request response)
    check (ensureActiveOperation stored operationId name)
    commit (·.writeContainer { stored with activeOperation := none })
    appendOperationEvent clock operationId .attested response.target .containerAttested
      (attestedAttributes operationId response)
    settle operation (.succeededAttestation response)
    return response

end OciRuntime
