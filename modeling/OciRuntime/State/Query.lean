import OciRuntime.State.Calls

/-!
# `OciRuntime.State.Query` — the calls that only read

`state`, `operation_exists`, `bundle` and `attachment_contract` of `state/mod.rs`, and
`resolve_process_target` of `state/process.rs`; with the calls they make up the methods of the store.
-/

namespace OciRuntime

open Durable Program

variable (sdk : Sdk)

/-- Load a durable record and enforce an optional generation fence. -/
def state (target : ContainerTarget) (s : Store) : Result ContainerRecord := do
  let stored ← loadRequested sdk target "state" s
  return stored.record

/-- Check whether an operation journal already exists without changing it. -/
def operationExists (operationId : OperationId) (s : Store) : Result Bool := do
  let journaled ← loadOperationIfPresent sdk operationId s
  return journaled.isSome

/-- Reconstruct the immutable bundle from the durable config snapshot. -/
def bundle (target : ContainerTarget) (s : Store) : Result OciBundle := do
  let stored ← loadRequested sdk target "load-durable-bundle" s
  loadBundleFromDirectory sdk stored (s.directory stored)

/-- Load the exact attachment contract bound to a durable generation. -/
def attachmentContract (target : ContainerTarget) (s : Store) :
    Result (Option CreateAttachments) := do
  let stored ← loadRequested sdk target "load-durable-attachments" s
  return stored.attachments

/-- Resolve a caller target to the exact current generation and verify that the durable process was
    fully created. -/
def resolveProcessTarget (requested : ProcessTarget) (operation : String) (s : Store) :
    Result ProcessTarget := do
  let container ← loadStoredContainer sdk requested.container.id s
  validateRequestedGeneration container requested.container operation
  let target := exactProcessTarget container requested.processId
  if target.processId.isInit then do
    rejectIf (container.record.state.status = .creating) (noPreparedInit container operation)
    return target
  else do
    let process ← loadStoredProcess target s
    rejectIf process.record.pid.isNone (execIncomplete target.processId operation)
    return target

/-! ## The methods of the store -/

/-- A method that only reads the store. -/
inductive Query
  | lookupAttestation (request : TeeAttestationRequest)
  | attestationSource (target : ContainerTarget)
  | auditStartupState
  | list (request : ListRequest)
  | state (target : ContainerTarget)
  | operationExists (operationId : OperationId)
  | bundle (target : ContainerTarget)
  | attachmentContract (target : ContainerTarget)
  | resolveProcessTarget (requested : ProcessTarget) (operation : String)

def Query.invocation : Query → Invocation
  | .lookupAttestation request => answering (OciRuntime.lookupAttestation sdk request)
  | .attestationSource target => answering (OciRuntime.attestationSource sdk target)
  | .auditStartupState => answering (read (OciRuntime.auditStartupState sdk))
  | .list request => answering (read (OciRuntime.list sdk request))
  | .state target => answering (read (OciRuntime.state sdk target))
  | .operationExists operationId => answering (read (OciRuntime.operationExists sdk operationId))
  | .bundle target => answering (read (OciRuntime.bundle sdk target))
  | .attachmentContract target => answering (read (OciRuntime.attachmentContract sdk target))
  | .resolveProcessTarget requested operation =>
    answering (read (OciRuntime.resolveProcessTarget sdk requested operation))

inductive StoreMethod (sdk : Sdk)
  | call (call : Call sdk)
  | query (query : Query)

variable {sdk} in
def StoreMethod.invocation : StoreMethod sdk → Invocation
  | .call mutation => mutation.invocation
  | .query question => question.invocation sdk

end OciRuntime
