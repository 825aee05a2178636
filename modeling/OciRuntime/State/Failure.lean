import OciRuntime.State.ProcessIo

/-!
# `OciRuntime.State.Failure` — journaling driver failures

`state/failure.rs`. A terminal driver failure is journaled so that a retry replays the exact error
and the container is not blocked by an abandoned claim. A failed creation is journaled first and
quarantined afterwards; every other operation releases its claim first.
-/

namespace OciRuntime

open Durable Program

variable (sdk : Sdk)

/-- Operations whose claim may be on a process rather than on the container's lifecycle. -/
def StoredOperationKind.isProcessOperation : StoredOperationKind → Bool
  | .exec | .signalProcess | .writeStdin | .closeStdin | .resize => true
  | _ => false

/-- Finish the quarantine of a creation whose failure is already journaled. -/
def reconcileFailure (operation : StoredOperation) : StoreM Unit :=
  if operation.kind.isCreation then reconcileFailedCreation sdk operation else pure ()

/-- Release whatever the operation holds and journal its failure. -/
def recordFailure (operation : StoredOperation) (error : Error) : StoreM Unit :=
  if operation.kind.isCreation then do
    -- journal first: a retry then still finds the error and finishes the cleanup
    settle operation (.failed error)
    reconcileFailedCreation sdk { operation with outcome := .failed error }
  else if operation.kind.isProcessOperation then do
    releaseFailedProcessOperation sdk operation
    settle operation (.failed error)
  else do
    let stored ← read (loadStoredExact sdk operation.containerId operation.generation)
    check (ensureActiveOperation stored operation.operationId "fail-operation")
    commit (·.writeContainer { stored with activeOperation := none })
    settle operation (.failed error)

/-- Persist a terminal driver failure; a retryable one leaves the operation prepared. -/
def failOperation (operationId : OperationId) (error : Error) : StoreM Unit :=
  if error.isRetryable then pure ()
  else do
    let operation ← read (loadOperation sdk operationId)
    match operation.outcome with
    | .prepared => recordFailure sdk operation error
    | .failed durable =>
      if durable = error then reconcileFailure sdk operation
      else throw (stateError .conflict "fail-operation"
        s!"operation {operationId.value} already has a different failure")
    | _ => throw (stateError .conflict "fail-operation"
        s!"operation {operationId.value} already succeeded")

end OciRuntime
