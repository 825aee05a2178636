import OciRuntime.State.Update

/-!
# `OciRuntime.State.ProcessRecord` — process records and the claims on them

The shared part of `state/process.rs`: how a process record is loaded, how an operation takes and
releases a claim on the init process or on an executed one, and the fence that Delete and Checkpoint
put around every process of a container.
-/

namespace OciRuntime

open Durable Program

variable (sdk : Sdk)

/-! ## Targets and retries -/

/-- Address a process of the exact generation that is loaded. -/
def exactProcessTarget (container : StoredContainer) (processId : ProcessId) : ProcessTarget :=
  ⟨.exact container.id container.record.generation, processId⟩

def validateRequestedGeneration (container : StoredContainer) (target : ContainerTarget)
    (operation : String) : Result Unit :=
  match target.generation with
  | none => .ok ()
  | some expected =>
    if container.record.generation ≠ expected then
      .error (generationConflict target.id expected container.record.generation operation)
    else .ok ()

def ensureContainerUnclaimed (container : StoredContainer) (operation : String) : Result Unit :=
  match container.activeOperation with
  | none => .ok ()
  | some active => .error ((stateError .conflict operation
      (s!"container {container.id.value} is owned by active operation " ++
        active.value)).retryable true)

/-- A retry of a process operation must also name the journaled process. -/
def validateProcessRetry (stored : StoredOperation) (operationId : OperationId)
    (kind : StoredOperationKind) (containerId : ContainerId) (processId : ProcessId)
    (digest : RequestDigests) (operation : String) : Result Unit := do
  validateRetry stored operationId kind containerId digest operation
  rejectIf (stored.processId ≠ some processId) (stateError .failedPrecondition operation
    s!"operation ID {operationId.value} was already used for a different process")

def requiredOperationProcessId (operation : StoredOperation) (name : String) : Result ProcessId :=
  okOr operation.processId (stateError .failedPrecondition name
    s!"process operation {operation.operationId.value} has no durable process ID")

def noPreparedInit (container : StoredContainer) (operation : String) : Error :=
  stateError .failedPrecondition operation
    (s!"container {container.id.value} generation {container.record.generation} has no prepared " ++
      "init process")

def execIncomplete (processId : ProcessId) (operation : String) : Error :=
  stateError .failedPrecondition operation s!"process {processId.value} has not completed exec"

/-! ## Loading -/

/-- Check a process record that was found under its target's name. -/
def loadStoredProcessFromPath (target : ProcessTarget) (process : StoredProcess) :
    Result StoredProcess :=
  match target.container.generation with
  | none => .error (stateError .invalidArgument "load-process-state"
      "durable process lookup requires an exact container generation")
  | some generation => do
    rejectIf (process.schemaVersion ≠ processSchemaVersion ∨ process.record.target ≠ target ∨
        process.record.target.container.generation ≠ some generation ∨
        process.record.pid = some 0)
      (stateError .failedPrecondition "load-process-state"
        (s!"invalid durable process record for {target.processId.value} in container " ++
          s!"{target.container.id.value} generation {generation}"))
    match process.exitStatus with
    | none => return process
    | some exit => do
      exit.validate
      return process

/-- The process record a target names, if its directory and file exist. -/
def Store.process? (s : Store) (target : ProcessTarget) : Option StoredProcess := do
  let directory ← s.containers.get? target.container.id
  let processes ← directory.processes
  processes.get? target.processId

def loadStoredProcess (target : ProcessTarget) (s : Store) : Result StoredProcess :=
  match target.container.generation with
  | none => .error (stateError .invalidArgument "load-process-state"
      "durable process lookup requires an exact container generation")
  | some generation =>
    match s.process? target with
    | none => .error (stateError .notFound "load-process-state"
        (s!"process {target.processId.value} does not exist in container " ++
          s!"{target.container.id.value} generation {generation}"))
    | some process => loadStoredProcessFromPath target process

/-! ## Commits -/

/-- Change the process directory of a container; callers have checked that it exists. -/
def Store.writeProcess (s : Store) (process : StoredProcess) : Store :=
  s.modifyContainer process.record.target.container.id fun d =>
    { d with processes := d.processes.map (·.write process.record.target.processId process) }

def Store.createProcessDirectory (s : Store) (id : ContainerId) : Store :=
  s.modifyContainer id fun d => { d with processes := some .empty }

def ensureProcessDirectory (id : ContainerId) : StoreM Unit := do
  let processes ← read fun s => .ok ((s.containers.get? id).bind (·.processes))
  match processes with
  | some _ => pure ()
  | none => commit (·.createProcessDirectory id)

/-! ## Claims on one process -/

section
variable (process : StoredProcess)

/-- Accept an unclaimed process or one that the operation itself claims. -/
def ensureActiveProcessOperation (operationId : OperationId) (operation : String) : Result Unit :=
  match process.activeOperation with
  | none => .ok ()
  | some active =>
    if active = operationId then .ok ()
    else .error (stateError .conflict operation
      (s!"process {process.record.target.processId.value} is owned by active operation " ++
        s!"{active.value}, not {operationId.value}"))

/-- Move a legacy I/O claim out of a process's mutation slot; `none` if there is none to move. -/
def migrateLegacyProcessIoClaim (s : Store) : Result (Option StoredProcess) :=
  match process.activeOperation with
  | none => .ok none
  | some operationId => do
    let operation ← loadOperation sdk operationId s
    if !isProcessIoKind operation.kind then .ok none
    else do
      let target := process.record.target
      let generation ← okOr target.container.generation
        (stateError .failedPrecondition "migrate-process-io-claim"
          "legacy process I/O claim does not have an exact container generation")
      validateLegacyIoOperation operation target.container.id generation target.processId.isInit
      rejectIf (operation.processId ≠ some target.processId)
        (stateError .failedPrecondition "migrate-process-io-claim"
          s!"legacy process I/O operation {operationId.value} targets a different process")
      return some { process with
        activeOperation := none
        activeIoOperations := insert operationId process.activeIoOperations }

/-- The process with an empty mutation slot, or `Conflict` if another operation holds it. -/
def vacateProcessClaim (operation : String) (s : Store) : Result StoredProcess :=
  match process.activeOperation with
  | none => .ok process
  | some active => do
    let migrated ← migrateLegacyProcessIoClaim sdk process s
    okOr migrated (stateError .conflict operation
      (s!"process {process.record.target.processId.value} already has active operation " ++
        active.value))

/-- Take the mutation claim of a process, or fail with `Conflict`. -/
def claimActiveProcessOperation (operationId : OperationId)
    (operation : String) : StoreM StoredProcess :=
  if process.activeOperation = some operationId then pure process
  else do
    let vacated ← read (vacateProcessClaim sdk process operation)
    let claimed := { vacated with activeOperation := some operationId }
    commit (·.writeProcess claimed)
    return claimed

/-! ## Releasing -/

def ensureActiveInitIoOperation (container : StoredContainer) (operationId : OperationId)
    (operation : String) : Result Unit :=
  if operationId ∈ container.initIoOperations then .ok ()
  else if container.activeOperation = some operationId then .ok ()
  else .error (stateError .conflict operation
    s!"container {container.id.value} init I/O is not owned by operation {operationId.value}")

def ensureActiveProcessIoOperation (operationId : OperationId) (operation : String) : Result Unit :=
  if operationId ∈ process.activeIoOperations ∨ process.activeOperation = some operationId then
    .ok ()
  else .error (stateError .conflict operation
    (s!"process {process.record.target.processId.value} I/O is not owned by operation " ++
      operationId.value))

/-- The record without any claim of the operation. -/
def StoredContainer.releaseInit (container : StoredContainer) (operationId : OperationId) :
    StoredContainer :=
  { container with
    initIoOperations := container.initIoOperations.erase operationId
    -- journals of an older release kept the init I/O claim in the lifecycle slot
    activeOperation :=
      if container.activeOperation = some operationId then none else container.activeOperation }

def StoredProcess.release (operationId : OperationId) : StoredProcess :=
  { process with
    activeIoOperations := process.activeIoOperations.erase operationId
    activeOperation :=
      if process.activeOperation = some operationId then none else process.activeOperation }

end

/-- Drop the claim a process operation holds; it must hold one. -/
def releaseProcessOperationClaim (operation : StoredOperation)
    (operationId : OperationId) (name : String) : StoreM Unit := do
  let container ← read (loadStoredExact sdk operation.containerId operation.generation)
  let processId ← check (requiredOperationProcessId operation name)
  if processId.isInit then do
    check (ensureActiveInitIoOperation container operationId name)
    commit (·.writeContainer (container.releaseInit operationId))
  else do
    let process ← read (loadStoredProcess (exactProcessTarget container processId))
    check (ensureActiveProcessIoOperation process operationId name)
    commit (·.writeProcess (process.release operationId))

def releaseFailedProcessOperation (operation : StoredOperation) : StoreM Unit :=
  releaseProcessOperationClaim sdk operation operation.operationId "fail-process-operation"

/-! ## The process fence -/

def StoredProcess.isClaimed (process : StoredProcess) : Bool :=
  process.activeOperation.isSome || process.activeIoOperations ≠ ∅

def stripSuffix (suffix name : String) : Option String :=
  (name.toList.dropSuffix? suffix.toList).map String.ofList

def processFileName (processId : ProcessId) : String := processId.value ++ ".json"

/-- The file an interrupted write of a process record leaves behind. -/
def processTransactionName (processId : ProcessId) : String :=
  "." ++ processId.value ++ ".json.next"

/-- The names in a process directory, as the file system lists them. -/
def processListing (processes : Directory ProcessId StoredProcess) : List String :=
  sdk.listing.sort (processes.entries.map (processFileName ·.1) ++
    processes.transactions.map processTransactionName ++ processes.strays)

/-- The process whose record has this file name. -/
def parseProcessFileName (operation fileName : String) : Result ProcessId :=
  match stripSuffix ".json" fileName with
  | none => .error (stateError .failedPrecondition operation
      s!"unexpected file in process state directory: {fileName}")
  | some value => (ProcessId.new value).mapError fun error =>
      stateError .failedPrecondition operation
        s!"invalid process record filename {fileName}: {error.message}"

theorem stripSuffix_eq_some {suffix name value : String} :
    stripSuffix suffix name = some value ↔ name = value ++ suffix := by
  simp only [stripSuffix, Option.map_eq_some_iff, List.dropSuffix?_eq_some_iff, beq_iff_eq,
    exists_eq_right]
  constructor
  · rintro ⟨start, hn, rfl⟩
    rw [← String.toList_inj, hn, String.toList_append, String.toList_ofList]
  · rintro rfl
    exact ⟨value.toList, String.toList_append, String.ofList_toList⟩

variable {sdk} in
@[simp] theorem mem_processListing {processes : Directory ProcessId StoredProcess} :
    fileName ∈ processListing sdk processes ↔
      (∃ e ∈ processes.entries, processFileName e.1 = fileName) ∨
        (∃ p ∈ processes.transactions, processTransactionName p = fileName) ∨
          fileName ∈ processes.strays := by
  simp only [processListing, ListingOrder.mem_sort, List.mem_append, List.mem_map, or_assoc]

@[simp] theorem parseProcessFileName_record (operation : String) (p : ProcessId) :
    parseProcessFileName operation (processFileName p) = .ok p := by
  have hs : stripSuffix ".json" (processFileName p) = some p.value := stripSuffix_eq_some.mpr rfl
  rw [parseProcessFileName, hs]
  dsimp only
  rw [ProcessId.new_value]
  rfl

/-- A transaction file does not have the suffix of a record. -/
theorem stripSuffix_transaction (p : ProcessId) :
    stripSuffix ".json" (processTransactionName p) = none := by
  rw [Option.eq_none_iff_forall_ne_some]
  intro value hv
  have hl := congrArg (fun name : String => name.toList.getLast?) (stripSuffix_eq_some.mp hv)
  simp [processTransactionName, List.getLast?_cons, List.getLast?_append] at hl

/-- The listed file is the record of a process that is not claimed. -/
def ensureProcessUnclaimed (container : StoredContainer) (operation fileName : String)
    (s : Store) : Result Unit := do
  let processId ← parseProcessFileName operation fileName
  let process ← loadStoredProcess (exactProcessTarget container processId) s
  rejectIf process.isClaimed ((stateError .conflict operation
    (s!"container {container.id.value} process {processId.value} is owned by an active mutation " ++
      s!"or {process.activeIoOperations.card} active I/O operation(s)")).retryable true)

/-- The init process is not owned by an I/O operation of either representation. -/
def ensureInitUnclaimed (container : StoredContainer) (operation : String)
    (s : Store) : Result Unit := do
  rejectIf (container.initIoOperations ≠ ∅) ((stateError .conflict operation
    (s!"container {container.id.value} init process is owned by " ++
      s!"{container.initIoOperations.card} active I/O operation(s)")).retryable true)
  match container.activeOperation with
  | none => .ok ()
  | some operationId => do
    let active ← loadOperation sdk operationId s
    rejectIf (isProcessIoKind active.kind) ((stateError .conflict operation
      (s!"container {container.id.value} init process is owned by active I/O operation " ++
        operationId.value)).retryable true)

/-- Neither the init process nor any executed process is owned by an operation. The listing also holds
    transaction files, which are not told from other unexpected names. -/
def ensureNoActiveProcessOperations (container : StoredContainer) (operation : String)
    (s : Store) : Result Unit := do
  ensureInitUnclaimed sdk container operation s
  match (s.containers.get? container.id).bind (·.processes) with
  | none => .ok ()
  | some processes =>
    (processListing sdk processes).forM (ensureProcessUnclaimed container operation · s)

end OciRuntime
