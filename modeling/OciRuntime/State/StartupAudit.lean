import OciRuntime.State.Observe

/-!
# `OciRuntime.State.StartupAudit` — the audit of a store that is opened

`state/startup_audit.rs`, `startup_audit/{quarantine,event}.rs` and `event/audit.rs`: before a store
is used, every document in it is checked on its own and against the others. `list` enumerates the
live containers of an opened store (`state/list.rs`).

The inventories that the source builds while it validates the `operations` and `generations`
directories are those directories themselves.
-/

namespace OciRuntime

open Durable Program

variable (sdk : Sdk)

abbrev OperationInventory := Directory OperationId StoredOperation
abbrev GenerationInventory := Directory ContainerId StoredGeneration

def auditError (operation message : String) : Error :=
  stateError .failedPrecondition operation message

/-- Fail on the first entry whose name does not belong into a directory. -/
def rejectStrays (strays : List String) (operation label : String) : Result Unit :=
  match strays with
  | [] => .ok ()
  | name :: _ => .error (auditError operation s!"{label} {name.quote}")

/-! ## Root, operations and generations -/

def auditRootEntries (s : Store) : Result Unit :=
  rejectStrays s.strays "audit-state-root" "runtime state root contains unexpected entry"

def auditGenerationEntry (entry : ContainerId × StoredGeneration) : Result Unit :=
  let stored := entry.2
  let fileName := (entry.1.value ++ ".json").quote
  rejectIf (stored.schemaVersion ≠ generationSchemaVersion ∨ stored.id ≠ entry.1 ∨
      stored.lastGeneration = 0)
    (auditError "audit-generation-state" s!"invalid durable generation record {fileName}")

def auditGenerationEntries (s : Store) : Result GenerationInventory := do
  rejectStrays s.generations.strays "audit-generation-state" "invalid generation record filename"
  s.generations.entries.forM auditGenerationEntry
  return s.generations

def auditOperationEntries (s : Store) : Result OperationInventory := do
  rejectStrays s.operations.strays "audit-operation-state" "invalid operation record filename"
  s.operations.entries.forM fun entry => (loadOperation sdk entry.1 s).map fun _ => ()
  return s.operations

/-- The generation of an operation was allocated. -/
def auditOperationGeneration (generations : GenerationInventory) (operation : StoredOperation) :
    Result Unit := do
  let name := "audit-operation-state"
  let id := operation.containerId
  let last ← okOr (generations.get? id) (auditError name
    (s!"operation {operation.operationId.value} references container {id.value} without a " ++
      "generation record"))
  rejectIf (operation.generation = 0 ∨ operation.generation > last.lastGeneration) (auditError name
      (s!"operation {operation.operationId.value} generation {operation.generation} exceeds " ++
        s!"container {id.value} generation {last.lastGeneration}"))

/-- Every operation has an allocated generation, and no generation has two creations. `owners`
    lists the generations whose creation was seen. -/
def auditOperationGenerations (generations : GenerationInventory) (owners : List (ContainerId × Nat)) :
    List StoredOperation → Result Unit
  | [] => .ok ()
  | operation :: rest => do
    let key := (operation.containerId, operation.generation)
    auditOperationGeneration generations operation
    rejectIf (operation.kind.isCreation ∧ key ∈ owners) (auditError "audit-operation-state"
      (s!"container {operation.containerId.value} generation {operation.generation} has more " ++
        "than one creation operation"))
    auditOperationGenerations generations
      (if operation.kind.isCreation then key :: owners else owners) rest

/-! ## Claims -/

/-- The audit accepts the claim of a prepared operation, and the lifecycle claim of a failed
    creation that has not been quarantined yet. -/
def recoverableOutcome (operation : StoredOperation) (processId : Option ProcessId) : Bool :=
  operation.outcome = .prepared ∨
    (processId.isNone ∧ operation.kind.isCreation ∧ operation.outcome.isFailed)

section
variable (operations : OperationInventory)

def validateClaim (containerId : ContainerId) (generation : Nat)
    (processId : Option ProcessId) (owner : String) (operationId : OperationId) : Result Unit := do
  let name := "audit-operation-claims"
  let operation ← okOr (operations.get? operationId)
    (auditError name s!"{owner} references missing operation {operationId.value}")
  rejectIf (operation.containerId ≠ containerId ∨ operation.generation ≠ generation ∨
      (processId.isSome ∧ operation.processId ≠ processId) ∨
      !recoverableOutcome operation processId)
    (auditError name s!"{owner} claim {operationId.value} disagrees with its durable operation")

/-- Every member of a claim set satisfies the check. -/
def auditClaimSet (claims : Finset OperationId) (accepts : OperationId → Result Unit)
    (fault : Error) : Result Unit :=
  rejectIf (∃ operationId ∈ claims, (accepts operationId).toOption = none) fault

def auditContainerClaims (stored : StoredContainer) : Result Unit := do
  stored.activeOperation.toList.forM
    (validateClaim operations stored.id stored.record.generation none "container")
  auditClaimSet stored.initIoOperations
    (validateClaim operations stored.id stored.record.generation (some .init) "init process I/O")
    (auditError "audit-operation-claims"
      "init process I/O claim disagrees with its durable operation")

/-! ## Processes -/

def hasExec (container : StoredContainer) (processId : ProcessId) : Bool :=
  operations.entries.any fun entry =>
    entry.2.kind = .exec ∧ entry.2.containerId = container.id ∧
      entry.2.generation = container.record.generation ∧ entry.2.processId = some processId

def auditProcessEntry (container : StoredContainer)
    (allowActiveClaims : Bool) (entry : ProcessId × StoredProcess) : Result Unit := do
  let name := "audit-process-state"
  let processId := entry.1
  rejectIf processId.isInit (auditError name
    "init process state must remain in the container record")
  let process ← loadStoredProcessFromPath (exactProcessTarget container processId) entry.2
  rejectIf (!allowActiveClaims ∧ process.isClaimed) (auditError name
    s!"quarantined process {processId.value} retains an active operation claim")
  rejectIf (!hasExec operations container processId) (auditError name
    s!"process {processId.value} has no durable Exec operation")
  process.activeOperation.toList.forM (validateClaim operations container.id
    container.record.generation (some processId) "process")
  auditClaimSet process.activeIoOperations
    (validateClaim operations container.id container.record.generation (some processId)
      "process I/O")
    (auditError "audit-operation-claims" "process I/O claim disagrees with its durable operation")

def auditProcessEntries (container : StoredContainer)
    (directory : ContainerDirectory) (allowActiveClaims : Bool) : Result Unit :=
  match directory.processes with
  | none => .ok ()
  | some processes => do
    rejectStrays processes.strays "audit-process-state" "invalid process record filename"
    processes.entries.forM (auditProcessEntry operations container allowActiveClaims)

/-! ## Containers -/

/-- Check the entries of a container directory; the answer is whether it has a record. -/
def auditContainerLayout (directory : ContainerDirectory) (id : ContainerId) : Result Bool := do
  rejectStrays directory.strays "audit-container-state"
    s!"container {id.value} contains unexpected state entry"
  rejectIf (directory.processes.isSome ∧ directory.record.isNone)
    (auditError "audit-container-state"
      s!"container {id.value} has process state without a container record")
  return directory.record.isSome

/-- The evidence of a completed attestation still matches the generation it attests. -/
def auditAttestationOutcome (stored : StoredContainer)
    (directory : ContainerDirectory) (operation : StoredOperation) : Result Unit :=
  let name := "audit-operation-state"
  let label := s!"TEE attestation operation {operation.operationId.value}"
  match operation.outcome with
  | .succeededAttestation response =>
    if operation.kind = .attest ∧ operation.containerId = stored.id ∧
        operation.generation = stored.record.generation then do
      let request ← (retainedAttestationRequest operation).mapError fun _ =>
        auditError name s!"{label} has no retained request"
      let source ← (validateAttestationBindings sdk stored directory).mapError fun error =>
        auditError name s!"{label} has an invalid durable source: {error.message}"
      (validateAttestationResponseBindings sdk source operation.operationId request
        response).mapError fun error =>
          auditError name s!"{label} has invalid durable evidence: {error.message}"
    else .ok ()
  | _ => .ok ()

/-- A creation of exactly this generation is journaled. -/
def hasCreation (id : ContainerId) (generation : Nat)
    (accepts : StoredOperationStatus → Bool) : Bool :=
  operations.entries.any fun entry =>
    entry.2.kind.isCreation ∧ entry.2.containerId = id ∧ entry.2.generation = generation ∧
      accepts entry.2.outcome

/-- A directory without a record is the trace of a creation that was interrupted. -/
def auditHalfCreated (generations : GenerationInventory) (id : ContainerId) : Result Unit :=
  rejectIf (!(generations.get? id).any fun last =>
      hasCreation operations id last.lastGeneration (· = .prepared))
    (auditError "audit-container-state"
      (s!"container state directory {id.value.quote} has no record or prepared creation " ++
        "operation"))

def auditContainerEntry
    (generations : GenerationInventory) (s : Store) (entry : ContainerId × ContainerDirectory) :
    Result Unit := do
  let name := "audit-container-state"
  let id := entry.1
  let hasRecord ← auditContainerLayout entry.2 id
  if !hasRecord then auditHalfCreated operations generations id
  else do
    let stored ← loadStoredContainer sdk id s
    let last ← okOr (generations.get? id)
      (auditError name s!"container {id.value} has no durable generation record")
    rejectIf (stored.record.generation ≠ last.lastGeneration) (auditError name
      (s!"container {id.value} generation {stored.record.generation} disagrees with durable " ++
        s!"generation {last.lastGeneration}"))
    rejectIf (!hasCreation operations id stored.record.generation fun _ => true) (auditError name
      (s!"container {id.value} generation {stored.record.generation} has no durable creation " ++
        "operation"))
    operations.entries.forM fun operation =>
      auditAttestationOutcome sdk stored entry.2 operation.2
    auditContainerClaims operations stored
    auditProcessEntries operations stored entry.2 true

def auditContainerEntries (generations : GenerationInventory) (s : Store) : Result Unit := do
  rejectStrays s.containers.strays "audit-container-state" "invalid container state entry"
  s.containers.entries.forM (auditContainerEntry sdk operations generations s)

/-! ## Quarantine -/

def TombstoneKind.text : TombstoneKind → String
  | .deleted => "deleted"
  | .failedCreate => "failed-create"
  | .failedRestore => "failed-restore"

def Tombstone.name (tombstone : Tombstone) : String :=
  (s!"{tombstone.operationId.value}.{tombstone.kind.text}").quote

/-- The operation kind whose directory a tombstone holds. -/
def TombstoneKind.operationKind : TombstoneKind → StoredOperationKind
  | .deleted => .delete
  | .failedCreate => .create
  | .failedRestore => .restore

/-- A deletion may still be prepared; a failed creation is journaled before it is moved. -/
def TombstoneKind.acceptsOutcome : TombstoneKind → StoredOperationStatus → Bool
  | .deleted, .prepared | .deleted, .succeededEmpty => true
  | .deleted, _ => false
  | _, .failed _ => true
  | _, _ => false

/-- The quarantined generation is no longer live. -/
def auditNotLive (operation : StoredOperation) (s : Store) : Result Unit :=
  match s.containers.get? operation.containerId with
  | none => .ok ()
  | some _ => do
    let live ← loadStoredContainer sdk operation.containerId s
    rejectIf (live.record.generation = operation.generation) (auditError "audit-quarantine-state"
      (s!"container {operation.containerId.value} generation {operation.generation} is both " ++
        "live and quarantined"))

def auditQuarantineEntry (s : Store) (entry : Tombstone × ContainerDirectory) : Result Unit := do
  let name := "audit-quarantine-state"
  let tombstone := entry.1
  let operation ← okOr (operations.get? tombstone.operationId) (auditError name
    s!"quarantine entry {tombstone.name} has no durable operation")
  let disagrees := auditError name
    s!"quarantine entry {tombstone.name} disagrees with its durable operation"
  rejectIf (operation.kind ≠ tombstone.kind.operationKind ∨
    !tombstone.kind.acceptsOutcome operation.outcome) disagrees
  let hasRecord ← auditContainerLayout entry.2 operation.containerId
  rejectIf (!hasRecord) (auditError name
    s!"quarantine entry {tombstone.name} has no durable container record")
  let stored ← (loadStoredContainerFromDirectory sdk operation.containerId entry.2).mapError
    fun error => auditError name s!"invalid quarantine entry {tombstone.name}: {error.message}"
  rejectIf (stored.record.generation ≠ operation.generation ∨
    stored.activeOperation ≠ some operation.operationId ∨ stored.initIoOperations ≠ ∅) disagrees
  auditNotLive sdk operation s
  auditProcessEntries operations stored entry.2 false

def auditQuarantineEntries (s : Store) : Result Unit := do
  rejectStrays s.quarantine.strays "audit-quarantine-state" "quarantine contains unexpected entry"
  s.quarantine.entries.forM (auditQuarantineEntry sdk operations s)

end

/-! ## Events -/

/-- Check every claim and collect the claimed events; no sequence is claimed twice. -/
def auditEventClaims (lastSequence : Nat) (claims : List RuntimeEvent) :
    List (EventIdentity × StoredEventClaim) → Result (List RuntimeEvent)
  | [] => .ok claims
  | (identity, claim) :: rest => do
    let name := "audit-runtime-events"
    rejectIf (claim.schemaVersion ≠ eventClaimSchemaVersion ∨ claim.identity ≠ identity ∨
        claim.event.sequence = 0 ∨ claim.event.sequence > lastSequence)
      (stateError .failedPrecondition name
        s!"invalid durable runtime event claim {identity.text.quote}")
    validateExactEventTarget claim.event
    validateEventIdentity claim.identity claim.event
    rejectIf (claims.any fun other => other.sequence = claim.event.sequence)
      (stateError .failedPrecondition name
        "runtime event sequence has more than one durable identity claim")
    auditEventClaims lastSequence (claim.event :: claims) rest

def validateEventRecord (stored : StoredEventRecord) (sequence lastSequence : Nat) :
    Result Unit := do
  rejectIf (stored.schemaVersion ≠ eventRecordSchemaVersion ∨ sequence = 0 ∨
      stored.event.sequence ≠ sequence ∨ sequence > lastSequence)
    (stateError .failedPrecondition "poll-runtime-events"
      s!"invalid durable runtime event record at sequence {sequence}")
  validateExactEventTarget stored.event

/-- A stored record repeats the event that claimed its sequence. -/
def auditEventRecord (lastSequence : Nat) (claims : List RuntimeEvent)
    (entry : Nat × StoredEventRecord) : Result Unit := do
  let name := "audit-runtime-events"
  validateEventRecord entry.2 entry.1 lastSequence
  match claims.find? fun event => event.sequence = entry.1 with
  | some claimed =>
    if claimed = entry.2.event then .ok ()
    else .error (stateError .failedPrecondition name
      s!"runtime event sequence {entry.1} disagrees with its durable identity claim")
  | none => .error (stateError .failedPrecondition name
      s!"runtime event sequence {entry.1} has no durable identity claim")

def auditEventJournal (s : Store) : Result Unit := do
  let lastSequence ← loadEventCursor s
  let claims ← auditEventClaims lastSequence [] s.events.keys.entries
  s.events.records.entries.forM (auditEventRecord lastSequence claims)

def auditEventEntries (s : Store) : Result Unit := do
  let name := "audit-runtime-events"
  rejectStrays s.events.strays name "runtime event directory contains unexpected entry"
  rejectStrays s.events.keys.strays name "invalid runtime event record filename"
  rejectStrays s.events.records.strays name "invalid runtime event record filename"
  auditEventJournal s

/-! ## The audit and the listing -/

/-- Check a whole store before it is used. -/
def auditStartupState (s : Store) : Result Unit := do
  auditRootEntries s
  let operations ← auditOperationEntries sdk s
  let generations ← auditGenerationEntries s
  auditOperationGenerations generations [] (operations.entries.map Prod.snd)
  auditContainerEntries sdk operations generations s
  auditQuarantineEntries sdk operations s
  auditEventEntries s

/-- Load every live container, in directory order. -/
def loadListed (sdk : Sdk) (s : Store) : List ContainerId → Result (List ContainerRecord)
  | [] => .ok []
  | id :: rest => do
    let stored ← loadStoredContainer sdk id s
    let others ← loadListed sdk s rest
    return stored.record :: others

/-- Return one deterministic snapshot of every live durable container. -/
def list (request : ListRequest) (s : Store) : Result (List ContainerRecord) := do
  rejectStrays s.containers.strays "list-container-state"
    "container state directory contains invalid entry"
  let records ← loadListed sdk s (s.containers.entries.map Prod.fst)
  return (records.filter fun record => request.isolation.all (· = record.isolation)).insertionSort
    fun left right => left.state.id ≤ right.state.id

end OciRuntime
