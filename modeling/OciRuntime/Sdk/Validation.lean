import OciRuntime.Lib.Program
import OciRuntime.Lib.Directory
import OciRuntime.Sdk.Model

/-!
# `OciRuntime.Sdk.Validation` — request validation and document contracts

`Sdk` collects the pure checks that rest on code outside the durable store: JSON and schema
decoding, hashing, and the semantic rules of OCI documents and attachment manifests. Everything the
store's own decisions depend on (isolation, targets, generations, checkpoint and restore bindings)
is defined here as the SDK computes it (`validation.rs`, `attachment.rs`, `checkpoint/`, `tee.rs`).
-/

namespace OciRuntime

open Durable

/-- The fields a request digest covers, one constructor for each fingerprint of the store. -/
inductive RequestFingerprint
  | create (id : ContainerId) (bundle : OciBundle) (isolation : IsolationRequest)
      (attachments : CreateAttachments) (inheritedDescriptors : Option String)
  | start (target : ContainerTarget)
  | kill (target : ContainerTarget) (signal : Nat) (all : Bool)
  | delete (target : ContainerTarget) (mode : DeleteMode)
  | exec (container : ContainerTarget) (processId : ProcessId) (process : Document) (io : String)
  | signalProcess (process : ProcessTarget) (signal : Nat)
  | writeStdin (process : ProcessTarget) (data : List UInt8)
  | closeStdin (process : ProcessTarget)
  | resize (process : ProcessTarget) (size : TerminalSize)
  | freezer (target : ContainerTarget)
  | update (target : ContainerTarget) (resources : Document)
  | file (target : ContainerTarget) (op : FileOp) (path : String) (data user : Option String)
  | filesystem (target : ContainerTarget) (op : FilesystemOp) (path : String)
      (destination : Option String) (depth : Nat) (user : Option String)
  | checkpoint (target : ContainerTarget) (artifactPath : String) (quiesce : CheckpointQuiesce)
  | restore (id : ContainerId) (bundle : OciBundle) (artifactPath : String)
      (isolation : IsolationRequest) (attachments : CreateAttachments)
      (reference : CheckpointReference)
  | attest (target : ContainerTarget) (reportData : String)

def RequestFingerprint.mapDocument (f : Document → Document) :
    RequestFingerprint → RequestFingerprint
  | .exec container processId process io => .exec container processId (f process) io
  | .update target resources => .update target (f resources)
  | fingerprint => fingerprint

/-- Digests of one request: over its declaration-order JSON and over its canonical JSON. -/
structure RequestDigests where
  legacy : String
  canonical : String

/-- The pure checks and digests that the store takes from the rest of the SDK, and the listing order of
    the file system below it. -/
structure Sdk where
  listing : Durable.ListingOrder
  /-- `sha256:<hex>` of a text. -/
  sha256 : String → String
  /-- SHA-256 of the JSON of a fingerprint with its fields in the order of their declaration. -/
  legacyDigest : RequestFingerprint → String
  /-- The same with the fields in order; the keys of maps are in order before. -/
  canonicalDigest : RequestFingerprint → String
  /-- Decode and schema-check `config.json` for an (absolute) bundle directory. -/
  parseConfig : String → String → Result Spec
  validateForCreate : OciBundle → Result Unit
  validateAttachments : CreateAttachments → OciBundle → Result Unit
  usesTeeLaunch : CreateAttachments → Bool
  resolveProcessIo : CreateAttachments → OciBundle → Result Unit
  networkEnforcement : CreateAttachments → OciBundle → Result (Option NetworkEnforcementAttachment)
  teeLaunch : CreateAttachments → OciBundle → Result (Option TeeLaunchRequest)
  attachmentsDigest : CreateAttachments → String
  validateCompatibility : CheckpointReference → Result Unit
  validateProcess : ExecRequest → Result Unit
  validateResources : Document → Result Unit
  validateFile : FileRequest → Result Unit
  validateFilesystem : FilesystemRequest → Result Unit
  validateEvidence : TeeAttestationResponse → Result Unit

/-- `request_digest`. -/
def Sdk.requestDigest (sdk : Sdk) (fingerprint : RequestFingerprint) : RequestDigests :=
  ⟨sdk.legacyDigest fingerprint, sdk.canonicalDigest (fingerprint.mapDocument .sortKeys)⟩

/-! ## Bundles -/

/-- Construct an immutable bundle from exact `config.json` contents. -/
def OciBundle.fromJson (sdk : Sdk) (directory configJson : String) : Result OciBundle := do
  let spec ← sdk.parseConfig directory configJson
  return { directory, configDigest := sdk.sha256 configJson, configJson, spec }

/-- A bundle that `fromJson` built: the only way to obtain one. -/
def OciBundle.WellFormed (sdk : Sdk) (bundle : OciBundle) : Prop :=
  OciBundle.fromJson sdk bundle.directory bundle.configJson = .ok bundle

/-! ## Isolation -/

def invalidAttachment (message : String) : Error :=
  (Error.new .invalidArgument message).forOperation "validate-attachments"

def GuestSessionAttachment.validateIsolation (session : GuestSessionAttachment)
    (isolation : IsolationRequest) : Result Unit :=
  match isolation with
  | .sharedGuestKernel trustDomain =>
    if trustDomain = session.trustDomain then .ok ()
    else .error (invalidAttachment
      (s!"reusable guest-session trust domain {session.trustDomain} " ++
        s!"differs from create trust domain {trustDomain}"))
  | _ => .error (invalidAttachment
      "a reusable guest session requires shared-guest-kernel isolation")

/-- Bind reusable-session and TEE-launch evidence to an isolation request. -/
def CreateAttachments.validateIsolation (sdk : Sdk) (attachments : CreateAttachments)
    (isolation : IsolationRequest) : Result Unit :=
  if sdk.usesTeeLaunch attachments ∧ isolation ≠ .dedicatedVm then
    .error (invalidAttachment "TEE launch extensions require dedicated-vm isolation")
  else
    match attachments.guestSession, isolation with
    | some session, isolation => session.validateIsolation isolation
    | none, .sharedGuestKernel _ => .error (invalidAttachment
        "shared-guest-kernel isolation requires an explicit reusable guest session")
    | none, _ => .ok ()

/-! ## Requests -/

def invalidRequest (message : String) : Error :=
  (Error.new .invalidArgument message).forOperation "validate-sdk-request"

def CreateRequest.validate (sdk : Sdk) (request : CreateRequest) : Result Unit := do
  sdk.validateForCreate request.bundle
  sdk.validateAttachments request.attachments request.bundle
  request.attachments.validateIsolation sdk request.isolation
  sdk.resolveProcessIo request.attachments request.bundle

def ExecRequest.validate (sdk : Sdk) (request : ExecRequest) : Result Unit :=
  if request.processId.isInit then
    .error (invalidRequest
      "exec.process_id `init` is reserved for the container's configured process")
  else sdk.validateProcess request

def UpdateRequest.validate (sdk : Sdk) (request : UpdateRequest) : Result Unit :=
  sdk.validateResources request.resources

def maxStdinWriteBytes : Nat := 16 * 1024 * 1024

def WriteStdinRequest.validate (request : WriteStdinRequest) : Result Unit :=
  if request.data.length > maxStdinWriteBytes then
    .error (invalidRequest
      s!"write_stdin.data is {request.data.length} bytes; maximum is {maxStdinWriteBytes}")
  else .ok ()

def ResizeRequest.validate (request : ResizeRequest) : Result Unit :=
  if request.size.width = 0 ∨ request.size.height = 0 then
    .error (invalidRequest "resize.size width and height must both be positive")
  else .ok ()

/-! ## Checkpoint and restore contracts -/

def checkpointError (message : String) : Error :=
  (Error.new .invalidArgument message).forOperation "validate-checkpoint-contract"

def lowercaseHex (c : Char) : Bool := ('0' ≤ c && c ≤ '9') || ('a' ≤ c && c ≤ 'f')

theorem lowercaseHex_iff :
    lowercaseHex c = true ↔ 48 ≤ c.toNat ∧ c.toNat ≤ 57 ∨ 97 ≤ c.toNat ∧ c.toNat ≤ 102 := by
  simp only [lowercaseHex, Bool.or_eq_true, Bool.and_eq_true, decide_eq_true_eq, Char.le_def,
    UInt32.le_iff_toNat_le]
  rfl

/-- One exact `sha256:<lowercase-hex>` identity (`CheckpointDigest::new`). -/
def checkpointDigest (value : String) : Result String :=
  let hex := value.toList.drop 7
  if value.toList.take 7 == "sha256:".toList && hex.length == 64 && hex.all lowercaseHex then
    .ok value
  else .error (checkpointError "checkpoint digest must be a canonical lowercase SHA-256")

def checkpointReferenceSchema : String := "a3s.oci.checkpoint-reference.v1"

def requireExactTarget (target : ContainerTarget) (label : String) : Result Unit :=
  match target.generation with
  | none => .error (checkpointError s!"{label} requires an exact generation")
  | some generation =>
    if generation = 0 then
      .error (checkpointError s!"{label} generation must be greater than zero")
    else .ok ()

def ContainerRecord.isPaused (record : ContainerRecord) : Bool :=
  (record.state.annotations.bind (·.lookup pausedStateAnnotation)) == some "true"

def requirePausedRunning (record : ContainerRecord) (label : String) : Result Unit :=
  if record.state.status ≠ .running ∨ !record.isPaused then
    .error (checkpointError s!"{label} must be a paused running container generation")
  else .ok ()

/-- The exact target a record describes. -/
def exactRecordTarget (record : ContainerRecord) : Result ContainerTarget :=
  if record.generation = 0 then
    .error (checkpointError "checkpoint container generation must be greater than zero")
  else
    match ContainerId.new record.state.id with
    | .ok id => .ok (.exact id record.generation)
    | .error error => .error (checkpointError
        s!"checkpoint container state has an invalid ID: {error.message}")

def CheckpointReference.validate (sdk : Sdk) (reference : CheckpointReference) : Result Unit := do
  rejectIf (reference.schemaVersion ≠ checkpointReferenceSchema) (checkpointError
      s!"unsupported checkpoint reference schema {reference.schemaVersion.quote}")
  requireExactTarget reference.source "checkpoint reference source"
  sdk.validateCompatibility reference
  rejectIf (reference.artifactSizeBytes = 0)
    (checkpointError "checkpoint artifact size must be greater than zero")

def CheckpointRequest.validate (request : CheckpointRequest) : Result Unit := do
  requireExactTarget request.target "checkpoint request"
  rejectIf (request.legacyLeaveRunning.isSome) (checkpointError
      ("legacy checkpoint leave_running semantics are unsupported; " ++
        "protocol v8 requires paused quiescence"))

/-- Revalidate a checkpoint response against the request that produced it. -/
def CheckpointResponse.validateForRequest (response : CheckpointResponse)
    (request : CheckpointRequest) : Result Unit := do
  request.validate
  let target ← exactRecordTarget response.source
  rejectIf (target ≠ request.target ∨ response.reference.quiesce ≠ request.quiesce) (checkpointError
      "checkpoint response does not match the exact request target and quiescence")

/-- Borrow the required immutable reference or reject a decoded legacy request. -/
def RestoreRequest.requireReference (request : RestoreRequest) : Result CheckpointReference :=
  match request.reference with
  | some reference => .ok reference
  | none => .error (checkpointError "restore request has no immutable checkpoint reference")

def RestoreRequest.validate (sdk : Sdk) (request : RestoreRequest) : Result Unit := do
  sdk.validateForCreate request.bundle
  sdk.validateAttachments request.attachments request.bundle
  request.attachments.validateIsolation sdk request.isolation
  sdk.resolveProcessIo request.attachments request.bundle
  let reference ← request.requireReference
  reference.validate sdk
  rejectIf (request.bundle.configDigest ≠ reference.sourceConfigDigest) (checkpointError
      "restore bundle digest does not match the immutable checkpoint source")
  rejectIf (request.isolation.class ≠ reference.isolation) (checkpointError
      "restore isolation does not match the immutable checkpoint reference")

/-- Bind a newly restored paused generation to the consumed reference. -/
def RestoreResponse.new (sdk : Sdk) (restored : ContainerRecord)
    (reference : CheckpointReference) : Result RestoreResponse := do
  reference.validate sdk
  requirePausedRunning restored "checkpoint restore result"
  let target ← exactRecordTarget restored
  rejectIf (target.id = reference.source.id ∧
      target.generation.getD 0 ≤ reference.source.generation.getD 0)
    (checkpointError "checkpoint restore must create a generation newer than its same-ID source")
  let restoredAttachments ← okOr restored.attachmentsDigest
    (checkpointError "checkpoint restore result has no attachment-manifest digest")
  let _ ← checkpointDigest restoredAttachments
  rejectIf (restored.configDigest ≠ reference.sourceConfigDigest ∨
      restored.driver ≠ reference.driver ∨ restored.isolation ≠ reference.isolation)
    (checkpointError "restored record does not match immutable checkpoint compatibility evidence")
  return { restored, reference }

/-- Revalidate a restore response against the request that produced it. -/
def RestoreResponse.validateForRequest (sdk : Sdk) (response : RestoreResponse)
    (request : RestoreRequest) : Result Unit := do
  request.validate sdk
  let reference ← request.requireReference
  rejectIf (response.reference ≠ reference ∨ response.restored.state.id ≠ request.id.value ∨
      response.restored.state.bundle ≠ request.bundle.directory ∨
      response.restored.attachmentsDigest ≠ some (sdk.attachmentsDigest request.attachments))
    (checkpointError ("restore response does not match the requested reference, ID, bundle, " ++
        "and attachments"))

/-! ## Attestation contracts -/

def teeError (message : String) : Error :=
  (Error.new .invalidArgument message).forOperation "validate-tee-contract"

def TeeAttestationRequest.validate (request : TeeAttestationRequest) : Result Unit :=
  match request.target.generation with
  | none => .error (teeError "TEE attestation requires an exact container generation")
  | some generation =>
    if generation = 0 then
      .error (teeError "TEE attestation generation must be greater than zero")
    else .ok ()

/-- Revalidate an attestation response against the request that produced it. -/
def TeeAttestationResponse.validateForRequest (sdk : Sdk) (response : TeeAttestationResponse)
    (request : TeeAttestationRequest) : Result Unit := do
  request.validate
  sdk.validateEvidence response
  rejectIf (response.target ≠ request.target ∨ response.reportData ≠ request.reportData) (teeError
      "TEE attestation response does not match the exact request target and report data")

end OciRuntime
