import OciRuntime.Lib.Directory
import OciRuntime.Sdk.Validation

/-!
# `OciRuntime.State.Model` — what the durable store keeps on disk

The stored documents of `state/model.rs` and the directory tree they live in. Every file is decoded:
a document whose bytes do not decode is rejected by every reader before any rule below applies.
Names that do not parse as an identifier of their directory are listed as `strays`, and transaction
files left by an interrupted atomic write as `transactions`.
-/

namespace OciRuntime

open Durable

/-! ## Schema versions -/

def containerSchemaVersion : String := "a3s.oci.container-record.v1"
def generationSchemaVersion : String := "a3s.oci.generation.v1"
def processSchemaVersion : String := "a3s.oci.process-record.v1"
def eventCursorSchemaVersion : String := "a3s.oci.event-cursor.v1"
def eventClaimSchemaVersion : String := "a3s.oci.event-claim.v1"
def eventRecordSchemaVersion : String := "a3s.oci.event-record.v1"

/-- Operation schemas `a3s.oci.operation.v1` to `.v6`; `other` is an unsupported text. -/
inductive OperationSchema
  | v1 | v2 | v3 | v4 | v5 | v6
  | other (text : String)
  deriving DecidableEq

/-- The schema new operations are written with. -/
def operationSchemaVersion : OperationSchema := .v6

def OperationSchema.text : OperationSchema → String
  | .v1 => "a3s.oci.operation.v1"
  | .v2 => "a3s.oci.operation.v2"
  | .v3 => "a3s.oci.operation.v3"
  | .v4 => "a3s.oci.operation.v4"
  | .v5 => "a3s.oci.operation.v5"
  | .v6 => "a3s.oci.operation.v6"
  | .other text => text

/-! ## Stored documents -/

/-- Last generation allocated for a container ID. -/
structure StoredGeneration where
  schemaVersion : String
  id : ContainerId
  lastGeneration : Nat

/-- Durable record of one container generation, with the claims on it. -/
structure StoredContainer where
  schemaVersion : String
  id : ContainerId
  record : ContainerRecord
  attachments : Option CreateAttachments
  activeOperation : Option OperationId
  initIoOperations : Finset OperationId
  initExitStatus : Option ExitStatus

/-- Durable record of one executed process, with the claims on it. -/
structure StoredProcess where
  schemaVersion : String
  record : ProcessRecord
  activeOperation : Option OperationId
  activeIoOperations : Finset OperationId
  exitStatus : Option ExitStatus

structure StoredEventCursor where
  schemaVersion : String
  lastSequence : Nat

/-- What happened, as the last part of an event identity. -/
inductive EventSuffix
  | creating | created | started | stopped | deleted | exited
  | restoring | restoreCreated | restoreStarted | restorePaused
  | pause | resume | resourcesUpdated | attested
  deriving DecidableEq

/-- Identity under which an event is journaled at most once. -/
inductive EventIdentity
  | container (id : ContainerId) (generation : Nat) (suffix : EventSuffix)
  | process (id : ContainerId) (generation : Nat) (processId : ProcessId) (suffix : EventSuffix)
  | operation (operationId : OperationId) (suffix : EventSuffix)
  deriving DecidableEq

structure StoredEventClaim where
  schemaVersion : String
  identity : EventIdentity
  event : RuntimeEvent

structure StoredEventRecord where
  schemaVersion : String
  event : RuntimeEvent
  deriving DecidableEq

inductive StoredOperationKind
  | create | start | kill | delete | exec | signalProcess | writeStdin | closeStdin | resize
  | pause | resume | update | file | filesystem | checkpoint | restore | attest
  deriving DecidableEq

/-- Complete request retained for mutations that a replacement driver may have to reconstruct. -/
inductive StoredOperationRequest
  | file (request : FileRequest)
  | filesystem (request : FilesystemRequest)
  | checkpoint (request : CheckpointRequest)
  | restore (request : RestoreRequest)
  | attest (request : TeeAttestationRequest)
  deriving DecidableEq

inductive StoredFilesystemMutationResponse
  | file (response : FileResponse)
  | filesystem (response : FilesystemResponse)
  deriving DecidableEq

/-- Outcome of a journaled operation. -/
inductive StoredOperationStatus
  | prepared
  | succeeded (response : ContainerRecord)
  | succeededProcess (response : ProcessRecord)
  | succeededFilesystem (response : StoredFilesystemMutationResponse)
  | succeededCheckpoint (response : CheckpointResponse)
  | succeededRestore (response : RestoreResponse)
  | succeededAttestation (response : TeeAttestationResponse)
  | succeededEmpty
  | failed (error : Error)
  deriving DecidableEq

/-- One entry of the operation journal. -/
structure StoredOperation where
  schemaVersion : OperationSchema
  operationId : OperationId
  kind : StoredOperationKind
  containerId : ContainerId
  generation : Nat
  processId : Option ProcessId
  request : Option StoredOperationRequest
  requestDigest : String
  outcome : StoredOperationStatus

/-! ## The directory tree -/

/-- `containers/<id>`, and the same directory once it was moved to `quarantine/`. -/
structure ContainerDirectory where
  config : Option String
  record : Option StoredContainer
  processes : Option (Directory ProcessId StoredProcess)
  configTransaction : Bool
  recordTransaction : Bool
  strays : List String

/-- A directory just after it was created. -/
def ContainerDirectory.empty : ContainerDirectory := ⟨none, none, none, false, false, []⟩

/-- Why a container directory was quarantined: the suffix of its tombstone. -/
inductive TombstoneKind
  | deleted | failedCreate | failedRestore
  deriving DecidableEq

/-- `quarantine/<operation>.<suffix>`. -/
structure Tombstone where
  operationId : OperationId
  kind : TombstoneKind
  deriving DecidableEq

/-- `events/`: the cursor file, the claims, and the records by sequence. A claim's file is named by
    the SHA-256 of its identity text, which is taken to be collision free: `keys` is indexed by the
    identity itself. -/
structure EventJournal where
  cursor : Option StoredEventCursor
  cursorTransaction : Bool
  keys : Directory EventIdentity StoredEventClaim
  records : Directory Nat StoredEventRecord
  strays : List String

/-- The durable runtime root. -/
structure Store where
  operations : Directory OperationId StoredOperation
  generations : Directory ContainerId StoredGeneration
  containers : Directory ContainerId ContainerDirectory
  quarantine : Directory Tombstone ContainerDirectory
  events : EventJournal
  strays : List String

def EventJournal.empty : EventJournal := ⟨none, false, .empty, .empty, []⟩

/-- A freshly initialised root. -/
def Store.empty : Store := ⟨.empty, .empty, .empty, .empty, .empty, []⟩

/-- The record of a live container. -/
def Store.recordOf (s : Store) (id : ContainerId) : Option StoredContainer :=
  (s.containers.get? id).bind (·.record)

/-- The operation that holds the lifecycle claim of a container. -/
def Store.lifecycleClaim (s : Store) (id : ContainerId) : Option OperationId :=
  (s.recordOf id).bind (·.activeOperation)

/-- Programs of the store. -/
abbrev StoreM (α : Type) := Program Store Error α

/-! ## Single-file commits -/

def Store.writeOperation (s : Store) (operation : StoredOperation) : Store :=
  { s with operations := s.operations.write operation.operationId operation }

def Store.writeGeneration (s : Store) (generation : StoredGeneration) : Store :=
  { s with generations := s.generations.write generation.id generation }

/-- Change the directory of `id`; callers have checked that it exists. -/
def Store.modifyContainer (s : Store) (id : ContainerId)
    (change : ContainerDirectory → ContainerDirectory) : Store :=
  match s.containers.get? id with
  | some directory => { s with containers := s.containers.write id (change directory) }
  | none => s

def Store.writeContainer (s : Store) (stored : StoredContainer) : Store :=
  s.modifyContainer stored.id fun d => { d with record := some stored, recordTransaction := false }

end OciRuntime
