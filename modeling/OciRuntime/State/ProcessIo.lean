import OciRuntime.State.Attestation

/-!
# `OciRuntime.State.ProcessIo` — stdin and terminal operations

`state/process_io.rs`. Writing and closing stdin and resizing a terminal are one function over a
profile. Any number of them may own the init process or an executed process at once, next to a
lifecycle operation; only Delete and Checkpoint exclude them.
-/

namespace OciRuntime

open Durable Program

variable (sdk : Sdk) (clock : Clock)

abbrev ProcessIoPreparation := Preparation ProcessTarget Unit

/-- What distinguishes the process I/O operations. -/
structure ProcessIoOperation where
  kind : StoredOperationKind
  name : String

def writeStdinProfile : ProcessIoOperation := ⟨.writeStdin, "write-stdin"⟩

def closeStdinProfile : ProcessIoOperation := ⟨.closeStdin, "close-stdin"⟩

def resizeProfile : ProcessIoOperation := ⟨.resize, "resize"⟩

/-- A container whose lifecycle claim is held by Delete or Checkpoint admits no process I/O. -/
def ensureInitIoLifecycleCompatible (container : StoredContainer) (name : String)
    (s : Store) : Result Unit :=
  match container.activeOperation with
  | none => .ok ()
  | some activeId => do
    let active ← loadOperation sdk activeId s
    rejectIf (active.kind = .delete ∨ active.kind = .checkpoint) ((stateError .conflict name
      (s!"container {container.id.value} is fenced by active {active.kind.debug} operation " ++
        activeId.value)).retryable true)

def ensureProcessIoLifecycleCompatible (container : StoredContainer) (name : String)
    (s : Store) : Result Unit :=
  ensureInitIoLifecycleCompatible sdk container name s

def validateProcessIoTarget (container : StoredContainer) (target : ProcessTarget)
    (operation : String) (s : Store) : Result Unit :=
  if target.processId.isInit then
    rejectIf (container.record.state.status = .creating) (noPreparedInit container operation)
  else do
    let process ← loadStoredProcess target s
    rejectIf process.record.pid.isNone (execIncomplete target.processId operation)

/-- Add the operation to the init process's owners. -/
def claimInitIoOperation (container : StoredContainer) (operationId : OperationId) : StoreM Unit :=
  if operationId ∈ container.initIoOperations then pure ()
  else commit (·.writeContainer { container with
    -- an older release kept the init I/O claim in the lifecycle slot: move it
    activeOperation :=
      if container.activeOperation = some operationId then none else container.activeOperation
    initIoOperations := insert operationId container.initIoOperations })

/-- Add the operation to an executed process's owners. -/
def claimExecIoOperation (process : StoredProcess) (operationId : OperationId) : StoreM Unit :=
  if operationId ∈ process.activeIoOperations then pure ()
  else commit (·.writeProcess { process with
    activeOperation :=
      if process.activeOperation = some operationId then none else process.activeOperation
    activeIoOperations := insert operationId process.activeIoOperations })

def claimProcessIoOperation (operation : StoredOperation) (name : String) :
    StoreM ProcessTarget := do
  let container ← read (loadStoredExact sdk operation.containerId operation.generation)
  let processId ← check (requiredOperationProcessId operation name)
  let target := exactProcessTarget container processId
  if processId.isInit then do
    read (ensureInitIoLifecycleCompatible sdk container name)
    claimInitIoOperation container operation.operationId
    return target
  else do
    read (ensureProcessIoLifecycleCompatible sdk container name)
    let process ← read (loadStoredProcess target)
    claimExecIoOperation process operation.operationId
    return target

def prepareProcessIoOperation (context : OperationContext)
    (requested : ProcessTarget) (digest : RequestDigests) (profile : ProcessIoOperation) :
    StoreM ProcessIoPreparation := do
  let name := profile.name
  let operationId := context.operationId
  let journaled ← read (loadOperationIfPresent sdk operationId)
  match journaled with
  | some operation => do
    check (validateProcessRetry operation operationId profile.kind requested.container.id
      requested.processId digest name)
    match operation.outcome with
    | .prepared => do
      let target ← claimProcessIoOperation sdk operation name
      return .resume target
    | .succeededEmpty => pure (.replayed ())
    | .failed error => throw error
    | _ => throw (stateError .failedPrecondition name
        s!"{name} operation {operationId.value} has an invalid outcome")
  | none => do
    check (validateDeadline clock context name)
    let container ← read (loadStoredContainer sdk requested.container.id)
    check (validateRequestedGeneration container requested.container name)
    -- the source asks the same question for init and for executed processes
    read (ensureInitIoLifecycleCompatible sdk container name)
    read (validateProcessIoTarget container (exactProcessTarget container requested.processId) name)
    let operation := preparedOperation operationId profile.kind container.id
      container.record.generation (some requested.processId) none digest
    commit (·.writeOperation operation)
    let target ← claimProcessIoOperation sdk operation name
    return .prepared target

def prepareWriteStdin (request : WriteStdinRequest) : StoreM ProcessIoPreparation := do
  check request.validate
  prepareProcessIoOperation sdk clock request.context request.process
    (sdk.requestDigest (.writeStdin request.process request.data)) writeStdinProfile

def prepareCloseStdin (request : CloseStdinRequest) : StoreM ProcessIoPreparation :=
  prepareProcessIoOperation sdk clock request.context request.process
    (sdk.requestDigest (.closeStdin request.process)) closeStdinProfile

def prepareResize (request : ResizeRequest) : StoreM ProcessIoPreparation := do
  check request.validate
  prepareProcessIoOperation sdk clock request.context request.process
    (sdk.requestDigest (.resize request.process request.size)) resizeProfile

def completeProcessIoOperation (operationId : OperationId)
    (profile : ProcessIoOperation) : StoreM Unit := do
  let name := profile.name
  let operation ← read (loadOperation sdk operationId)
  rejectIf (operation.kind ≠ profile.kind) (stateError .failedPrecondition name
    s!"operation {operationId.value} is not a {name} operation")
  let done ← check (emptyOutcome operation.outcome (stateError .failedPrecondition name
    s!"{name} operation {operationId.value} has an invalid outcome"))
  if done then pure ()
  else do
    releaseProcessOperationClaim sdk operation operationId name
    settle operation .succeededEmpty

def completeWriteStdin (operationId : OperationId) : StoreM Unit :=
  completeProcessIoOperation sdk operationId writeStdinProfile

def completeCloseStdin (operationId : OperationId) : StoreM Unit :=
  completeProcessIoOperation sdk operationId closeStdinProfile

def completeResize (operationId : OperationId) : StoreM Unit :=
  completeProcessIoOperation sdk operationId resizeProfile

end OciRuntime
