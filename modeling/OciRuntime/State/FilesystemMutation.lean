import OciRuntime.State.Delete

/-!
# `OciRuntime.State.FilesystemMutation` — durable file and filesystem mutations

`state/filesystem_mutation.rs`. File uploads and mutating filesystem operations retain their whole
request in the journal. Both are one function over a profile.
-/

namespace OciRuntime

open Durable Program

variable (sdk : Sdk) (clock : Clock)

/-- What distinguishes the two families of mutations. -/
structure FilesystemMutationProfile where
  kind : StoredOperationKind
  name : String
  claim : ClaimMutation

def fileProfile : FilesystemMutationProfile := ⟨.file, "file", .file⟩

def filesystemProfile : FilesystemMutationProfile := ⟨.filesystem, "filesystem", .filesystem⟩

abbrev FilesystemMutationPreparation (α : Type) := Preparation ContainerTarget α

def invalidOperationOutcome (operationId : OperationId) (profile : FilesystemMutationProfile) :
    Error :=
  stateError .failedPrecondition profile.name
    s!"{profile.name} operation {operationId.value} has an invalid durable outcome"

def ensureLiveFilesystem (stored : StoredContainer) (operation : String) : Result Unit :=
  match stored.record.state.status with
  | .created | .running => .ok ()
  | status => .error (stateError .failedPrecondition operation
      (s!"container {stored.id.value} generation {stored.record.generation} cannot mutate its " ++
        s!"filesystem while {status.text}"))

def prepareFilesystemMutationOperation (context : OperationContext)
    (requested : ContainerTarget) (digest : RequestDigests) (retained : StoredOperationRequest)
    (profile : FilesystemMutationProfile) :
    StoreM (FilesystemMutationPreparation StoredFilesystemMutationResponse) := do
  let name := profile.name
  let operationId := context.operationId
  let journaled ← read (loadOperationIfPresent sdk operationId)
  match journaled with
  | some operation => do
    check (validateRetry operation operationId profile.kind requested.id digest name)
    match operation.outcome with
    | .prepared => do
      let stored ← read (loadStoredExact sdk operation.containerId operation.generation)
      check (ensureLiveFilesystem stored name)
      let claimed ← claimActiveOperation sdk stored operationId profile.claim name
      return .resume (.exact claimed.id claimed.record.generation)
    | .succeededFilesystem response => pure (.replayed response)
    | .failed error => throw error
    | _ => throw (invalidOperationOutcome operationId profile)
  | none => do
    check (validateDeadline clock context name)
    let stored ← read (loadRequested sdk requested name)
    check (ensureLiveFilesystem stored name)
    commit (·.writeOperation (preparedOperation operationId profile.kind stored.id
      stored.record.generation none (some retained) digest))
    let claimed ← claimActiveOperation sdk stored operationId profile.claim name
    return .prepared (.exact claimed.id claimed.record.generation)

/-- Replace the replayed response of a preparation. -/
def Preparation.mapReplay {α β γ : Type} (project : β → Result γ) :
    Preparation α β → Result (Preparation α γ)
  | .prepared value => .ok (.prepared value)
  | .resume value => .ok (.resume value)
  | .replayed value => (project value).map .replayed

def prepareFileMutation (request : FileRequest) :
    StoreM (FilesystemMutationPreparation FileResponse) := do
  check (sdk.validateFile request)
  rejectIf (request.op ≠ .upload) (stateError .invalidArgument "file"
    "only File uploads are durable mutations")
  let context ← check (okOr request.context (stateError .invalidArgument "file"
    "File upload has no operation context"))
  let digest := sdk.requestDigest
    (.file request.target request.op request.path request.data request.user)
  let preparation ← prepareFilesystemMutationOperation sdk clock context request.target digest
    (.file request) fileProfile
  check (preparation.mapReplay fun
    | .file response => .ok response
    | .filesystem _ => .error (invalidOperationOutcome context.operationId fileProfile))

def prepareFilesystemMutation (request : FilesystemRequest) :
    StoreM (FilesystemMutationPreparation FilesystemResponse) := do
  check (sdk.validateFilesystem request)
  rejectIf (!request.op.isMutating) (stateError .invalidArgument "filesystem"
    "only mutating Filesystem operations use the durable journal")
  let context ← check (okOr request.context (stateError .invalidArgument "filesystem"
    "Filesystem mutation has no operation context"))
  let digest := sdk.requestDigest (.filesystem request.target request.op request.path
    request.destination request.depth request.user)
  let preparation ← prepareFilesystemMutationOperation sdk clock context request.target digest
    (.filesystem request) filesystemProfile
  check (preparation.mapReplay fun
    | .filesystem response => .ok response
    | .file _ => .error (invalidOperationOutcome context.operationId filesystemProfile))

/-! ## Completion -/

def StoredFilesystemMutationResponse.target : StoredFilesystemMutationResponse → ContainerTarget
  | .file response => response.target
  | .filesystem response => response.target

/-- Outcome of a filesystem mutation: `none` while it is prepared. -/
def filesystemOutcome (outcome : StoredOperationStatus) (invalid : Error) :
    Result (Option StoredFilesystemMutationResponse) :=
  match outcome with
  | .prepared => .ok none
  | .succeededFilesystem response => .ok (some response)
  | .failed error => .error error
  | _ => .error invalid

def completeFilesystemMutationOperation (operationId : OperationId)
    (response : StoredFilesystemMutationResponse) (profile : FilesystemMutationProfile) :
    StoreM StoredFilesystemMutationResponse := do
  let name := profile.name
  let operation ← read (loadOperation sdk operationId)
  rejectIf (operation.kind ≠ profile.kind) (invalidOperationOutcome operationId profile)
  let done ← check (filesystemOutcome operation.outcome
    (invalidOperationOutcome operationId profile))
  match done with
  | some response => pure response
  | none => do
    rejectIf (!operation.responseTargetMatches response.target) (stateError .conflict name
      (s!"driver response for operation {operationId.value} targets a different container " ++
        "generation"))
    let stored ← read (loadStoredExact sdk operation.containerId operation.generation)
    check (ensureLiveFilesystem stored name)
    check (ensureActiveOperation stored operationId name)
    commit (·.writeContainer { stored with activeOperation := none })
    settle operation (.succeededFilesystem response)
    return response

def completeFileMutation (operationId : OperationId) (response : FileResponse) :
    StoreM FileResponse := do
  let done ← completeFilesystemMutationOperation sdk operationId (.file response) fileProfile
  match done with
  | .file response => pure response
  | .filesystem _ => throw (invalidOperationOutcome operationId fileProfile)

def completeFilesystemMutation (operationId : OperationId)
    (response : FilesystemResponse) : StoreM FilesystemResponse := do
  let done ← completeFilesystemMutationOperation sdk operationId (.filesystem response)
    filesystemProfile
  match done with
  | .filesystem response => pure response
  | .file _ => throw (invalidOperationOutcome operationId filesystemProfile)

end OciRuntime
