import OciRuntime.Commit.StateStep

/-!
# `OciRuntime.Commit.Relation` — the commits the store can make

`Write sdk actor s t`: one indivisible commit, made on behalf of the operation `actor`, can turn the
store `s` into `t`. There is one constructor for each kind of file, and the relations below say for
each what its new contents may be and what the code has checked by then. Every call of the store is
a sequence of such commits, so an invariant of `Write` is an invariant of the store.

## Contents
- **Journal.** `OperationStep`: an entry is added, settled, or follows a replaced process ID.
- **Containers.** `RecordStep`, `ProcessStep`, `DirectoryStep`: one file of a container directory.
- **Events.** `EventStep`: the cursor, a claim or a record of the event journal.
- **The relation.** `Write`.
-/

namespace OciRuntime

open Durable

/-! ## The operation journal -/

/-- The operation takes the container's single lifecycle claim. -/
def StoredOperation.isLifecycle (op : StoredOperation) : Bool :=
  match op.kind with
  | .exec | .writeStdin | .closeStdin | .resize => false
  | .signalProcess => op.processId = some .init
  | _ => true

/-- Operations that exclude every process operation while they hold the lifecycle claim. -/
def StoredOperationKind.isFencing : StoredOperationKind → Bool
  | .delete | .checkpoint => true
  | _ => false

/-- A journaled operation of one generation. -/
structure JournaledAt (ops : OperationInventory) (id : ContainerId) (generation : Nat)
    (op : StoredOperation) : Prop where
  found : ops.get? op.operationId = some op
  container : op.containerId = id
  generation : op.generation = generation

/-- A journaled operation of one generation that has no outcome yet. -/
structure PendingAt (ops : OperationInventory) (id : ContainerId) (generation : Nat)
    (op : StoredOperation) : Prop extends JournaledAt ops id generation op where
  prepared : op.outcome = .prepared

/-- Some claim file of the operation's container names the operation. -/
def HoldsClaim (s : Store) (op : StoredOperation) : Prop :=
  ∃ d stored, s.containers.get? op.containerId = some d ∧ d.record = some stored ∧
    (stored.activeOperation = some op.operationId ∨ op.operationId ∈ stored.initIoOperations ∨
      ∃ ps p process, d.processes = some ps ∧ ps.get? p = some process ∧
        (process.activeOperation = some op.operationId ∨
          op.operationId ∈ process.activeIoOperations))

/-- What the store knows about the container when it journals a new operation on it. -/
structure JournalGuard (op : StoredOperation) (stored : StoredContainer) : Prop where
  process : op.kind.isProcessOperation = true → op.processId.isSome
  exec : op.kind = .exec → op.processId ≠ some .init
  start : op.kind = .start → stored.record.state.status = .created
  notCreation : op.kind.isCreation = false

/-- Operations whose response repeats what the store knows about the live generation. -/
def StoredOperationKind.bindsResponse : StoredOperationKind → Bool
  | .create | .restore | .start | .attest => true
  | _ => false

/-- The state in a recorded response is one that the runtime writes. -/
def StoredOperationStatus.Normal : StoredOperationStatus → Prop
  | .succeeded record => record.state.Normal
  | .succeededRestore response => response.restored.state.Normal
  | _ => True

/-- The response that a settled operation journals: the live record of its generation, or the
    evidence about it. -/
inductive ResponseBasis (sdk : Sdk) (s : Store) (op : StoredOperation) :
    StoredOperationStatus → Prop
  | record {stored : StoredContainer} (bound : op.kind.bindsResponse = true)
      (live : Live sdk s op.containerId stored)
      (generation : stored.record.generation = op.generation)
      (created : op.kind = .create → stored.record.state.status = .created)
      (started : op.kind = .start → 2 ≤ stored.record.state.status.rank) :
      ResponseBasis sdk s op (.succeeded stored.record)
  | restored {stored : StoredContainer} {request : RestoreRequest} {response : RestoreResponse}
      (live : Live sdk s op.containerId stored)
      (generation : stored.record.generation = op.generation)
      (request_eq : op.request = some (.restore request))
      (response_ok : restoreResponse sdk request stored.record = .ok response) :
      ResponseBasis sdk s op (.succeededRestore response)
  /-- The evidence of an attestation agrees with the launch bindings of the live generation. -/
  | attested {d : ContainerDirectory} {stored : StoredContainer} {request : TeeAttestationRequest}
      {source : AttestationSource} {response : TeeAttestationResponse}
      (live : s.containers.get? op.containerId = some d)
      (loadable : Loadable sdk op.containerId d stored)
      (generation : stored.record.generation = op.generation)
      (request_eq : op.request = some (.attest request))
      (bindings : validateAttestationBindings sdk stored d = .ok source)
      (evidence : validateAttestationResponseBindings sdk source op.operationId request response =
        .ok ()) :
      ResponseBasis sdk s op (.succeededAttestation response)
  | other {outcome : StoredOperationStatus} (unbound : op.kind.bindsResponse = false)
      (deleted : op.kind = .delete → outcome = .succeededEmpty) (normal : outcome.Normal) :
      ResponseBasis sdk s op outcome
  /-- A delete fails only while its container is live. -/
  | failed {error : Error} (live : op.kind = .delete →
        ∃ stored, Live sdk s op.containerId stored ∧ stored.record.generation = op.generation) :
      ResponseBasis sdk s op (.failed error)

/-- The record with another process ID. -/
def ContainerRecord.withPid (record : ContainerRecord) (pid : Option Int) : ContainerRecord :=
  { record with state := { record.state with pid } }

/-- The response of a replay: the old one with another process ID. -/
inductive Rebound (sdk : Sdk) (op : StoredOperation) : StoredOperationStatus → Prop
  | record {response : ContainerRecord} {pid : Option Int} (was : op.outcome = .succeeded response)
      (fits : PidFits response.state.status pid) : Rebound sdk op (.succeeded (response.withPid pid))
  | restored {response : RestoreResponse} {pid : Option Int} {request : RestoreRequest}
      (was : op.outcome = .succeededRestore response)
      (fits : PidFits response.restored.state.status pid)
      (request_eq : op.request = some (.restore request))
      (response_ok : restoreResponse sdk request (response.restored.withPid pid) =
        .ok { response with restored := response.restored.withPid pid }) :
      Rebound sdk op (.succeededRestore { response with restored := response.restored.withPid pid })
  | process {response : ProcessRecord} {pid : Option Nat}
      (was : op.outcome = .succeededProcess response) :
      Rebound sdk op (.succeededProcess { response with pid })

/-- New contents of a journal entry. -/
inductive OperationStep (sdk : Sdk) (s : Store) : StoredOperation → Prop
  /-- A creation is journaled with the generation that was just allocated for it. -/
  | create {op : StoredOperation} {last : StoredGeneration}
      (fresh : s.operations.get? op.operationId = none)
      (kind : op.kind.isCreation = true)
      (schema : op.schemaVersion = operationSchemaVersion)
      (shape : op.shapeFault sdk = none)
      (prepared : op.outcome = .prepared)
      (absent : s.containers.get? op.containerId = none)
      (allocated : s.generations.get? op.containerId = some last)
      (last_eq : last.lastGeneration = op.generation)
      (first : ∀ o other, s.operations.get? o = some other →
        other.containerId = op.containerId → other.generation ≠ op.generation) :
      OperationStep sdk s op
  /-- Every other operation is journaled for a live generation. -/
  | journal {op : StoredOperation} {stored : StoredContainer}
      (fresh : s.operations.get? op.operationId = none)
      (schema : op.schemaVersion = operationSchemaVersion)
      (shape : op.shapeFault sdk = none)
      (prepared : op.outcome = .prepared)
      (live : Live sdk s op.containerId stored)
      (generation : stored.record.generation = op.generation)
      (guard : JournalGuard op stored) :
      OperationStep sdk s op
  /-- A prepared operation gets its outcome once it holds no claim; the failure of a creation is
      journaled before its directory is moved. -/
  | settle {op : StoredOperation} {outcome : StoredOperationStatus}
      (found : s.operations.get? op.operationId = some op)
      (prepared : op.outcome = .prepared)
      (settled : outcome ≠ .prepared)
      (shape : ({ op with outcome } : StoredOperation).shapeFault sdk = none)
      (released : ¬HoldsClaim s op ∨ (op.kind.isCreation = true ∧ outcome.isFailed = true))
      (response : ResponseBasis sdk s op outcome) :
      OperationStep sdk s { op with outcome }
  /-- A replay stores the response with the process ID that recovery has given the container. -/
  | rebind {op : StoredOperation} {outcome : StoredOperationStatus}
      (found : s.operations.get? op.operationId = some op)
      (rebound : Rebound sdk op outcome)
      (shape : ({ op with outcome } : StoredOperation).shapeFault sdk = none) :
      OperationStep sdk s { op with outcome }

/-! ## Container directories -/

/-- No process operation owns the init process or any process of the directory. -/
def Unowned (d : ContainerDirectory) (stored : StoredContainer) : Prop :=
  stored.initIoOperations = ∅ ∧
    ∀ ps p process, d.processes = some ps → ps.get? p = some process → process.isClaimed = false

/-- The operation that holds the lifecycle claim, if any, admits process I/O. -/
def AdmitsIo (ops : OperationInventory) (stored : StoredContainer) : Prop :=
  ∀ o op, stored.activeOperation = some o → ops.get? o = some op → op.kind.isFencing = false

/-- New contents of a container record. -/
inductive RecordStep (ops : OperationInventory) (actor : Option OperationId)
    (d : ContainerDirectory) (a : StoredContainer) : StoredContainer → Prop
  /-- An operation takes the free lifecycle claim. -/
  | claim {op : StoredOperation} (pending : PendingAt ops a.id a.record.generation op)
      (lifecycle : op.isLifecycle = true) (by_actor : actor = some op.operationId)
      (free : a.activeOperation = none)
      (fence : op.kind.isFencing = true → Unowned d a) :
      RecordStep ops actor d a { a with activeOperation := some op.operationId }
  /-- A process I/O operation joins the owners of the init process. -/
  | ioClaim {op : StoredOperation} (pending : PendingAt ops a.id a.record.generation op)
      (kind : isProcessIoKind op.kind = true) (init : op.processId = some .init)
      (admitted : AdmitsIo ops a) :
      RecordStep ops actor d a
        { a with initIoOperations := insert op.operationId a.initIoOperations }
  /-- The state advances or claims are dropped; a lifecycle claim only by its own operation. -/
  | change {state : State} {active : Option OperationId} {io : Finset OperationId}
      {exit : Option ExitStatus}
      (state_step : StateStep a.record.state state)
      (born : a.record.state.status = .creating → state.status ≠ .creating →
        ∃ op, JournaledAt ops a.id a.record.generation op ∧
          (op.kind = .create ∧ state.status = .created ∨
            op.kind = .restore ∧ state.status = .running))
      (active_kept : active = a.activeOperation ∨ active = none ∧ a.activeOperation = actor)
      (io_kept : io ⊆ a.initIoOperations) :
      RecordStep ops actor d a { a with
        record := { a.record with state }, activeOperation := active, initIoOperations := io,
        initExitStatus := exit }

/-- New contents of a process record, in the process directory `ps` of the container `stored`. -/
inductive ProcessStep (ops : OperationInventory) (stored : StoredContainer)
    (ps : Directory ProcessId StoredProcess) : StoredProcess → Prop
  /-- An exec creates the record it claims. -/
  | create {op : StoredOperation} {p : ProcessId} {terminal : Bool}
      (pending : PendingAt ops stored.id stored.record.generation op)
      (kind : op.kind = .exec) (process : op.processId = some p) (absent : ps.get? p = none)
      (unclaimed : stored.activeOperation = none) :
      ProcessStep ops stored ps
        { schemaVersion := processSchemaVersion
          record := { target := exactProcessTarget stored p, pid := none, terminal }
          activeOperation := some op.operationId
          activeIoOperations := ∅
          exitStatus := none }
  /-- An exec or a signal takes the free mutation claim. -/
  | claim {op : StoredOperation} {p : ProcessId} {a : StoredProcess}
      (pending : PendingAt ops stored.id stored.record.generation op)
      (kind : op.kind = .exec ∨ op.kind = .signalProcess) (process : op.processId = some p)
      (found : ps.get? p = some a) (free : a.activeOperation = none)
      (unclaimed : stored.activeOperation = none) :
      ProcessStep ops stored ps { a with activeOperation := some op.operationId }
  /-- A process I/O operation joins the owners of the process. -/
  | ioClaim {op : StoredOperation} {p : ProcessId} {a : StoredProcess}
      (pending : PendingAt ops stored.id stored.record.generation op)
      (kind : isProcessIoKind op.kind = true) (process : op.processId = some p)
      (found : ps.get? p = some a) (admitted : AdmitsIo ops stored) :
      ProcessStep ops stored ps
        { a with activeIoOperations := insert op.operationId a.activeIoOperations }
  /-- The process ID or the result is stored, or claims are dropped. -/
  | change {p : ProcessId} {a : StoredProcess} {pid : Option Nat} {exit : Option ExitStatus}
      {active : Option OperationId} {io : Finset OperationId}
      (found : ps.get? p = some a) (pid_ne : pid ≠ some 0)
      (exit_valid : ∀ status, exit = some status → status.validate = .ok ())
      (active_kept : active = a.activeOperation ∨ active = none)
      (io_kept : io ⊆ a.activeIoOperations) :
      ProcessStep ops stored ps { a with
        record := { a.record with pid }, activeOperation := active, activeIoOperations := io,
        exitStatus := exit }

/-- The pending creation on whose behalf a directory comes into existence. -/
structure PendingCreation (ops : OperationInventory) (id : ContainerId) (op : StoredOperation) :
    Prop extends PendingAt ops id op.generation op where
  kind : op.kind.isCreation = true

/-- Once it is journaled, the operation that acts is one on this generation of the container. -/
def ActsOn (ops : OperationInventory) (actor : Option OperationId) (id : ContainerId)
    (generation : Nat) : Prop :=
  ∀ o op, actor = some o → ops.get? o = some op → op.containerId = id ∧ op.generation = generation

/-- New contents of a container directory whose present contents are `old`. -/
inductive DirectoryStep (sdk : Sdk) (ops : OperationInventory) (actor : Option OperationId)
    (id : ContainerId) : Option ContainerDirectory → ContainerDirectory → Prop
  | create {op : StoredOperation} (creation : PendingCreation ops id op)
      (by_actor : actor = some op.operationId) :
      DirectoryStep sdk ops actor id none .empty
  | config {op : StoredOperation} {d : ContainerDirectory} {configJson : String}
      (creation : PendingCreation ops id op) (by_actor : actor = some op.operationId)
      (absent : d.config = none) :
      DirectoryStep sdk ops actor id (some d)
        { d with config := some configJson, configTransaction := false }
  /-- The record of a creation starts `Creating` and claimed by its operation. -/
  | record {op : StoredOperation} {d : ContainerDirectory} {stored : StoredContainer}
      (creation : PendingCreation ops id op) (by_actor : actor = some op.operationId)
      (absent : d.record = none)
      (loadable :
        Loadable sdk id { d with record := some stored, recordTransaction := false } stored)
      (normal : stored.record.state.Normal)
      (status : stored.record.state.status = .creating)
      (generation : stored.record.generation = op.generation)
      (active : stored.activeOperation = some op.operationId)
      (io : stored.initIoOperations = ∅) :
      DirectoryStep sdk ops actor id (some d)
        { d with record := some stored, recordTransaction := false }
  | update {d : ContainerDirectory} {a b : StoredContainer}
      (loadable : Loadable sdk id d a) (acts : ActsOn ops actor id a.record.generation)
      (step : RecordStep ops actor d a b) :
      DirectoryStep sdk ops actor id (some d)
        { d with record := some b, recordTransaction := false }
  | processDirectory {d : ContainerDirectory} {stored : StoredContainer}
      (recorded : d.record = some stored) (acts : ActsOn ops actor id stored.record.generation)
      (absent : d.processes = none) :
      DirectoryStep sdk ops actor id (some d) { d with processes := some .empty }
  | process {d : ContainerDirectory} {stored : StoredContainer}
      {ps : Directory ProcessId StoredProcess} {process : StoredProcess}
      (loadable : Loadable sdk id d stored) (acts : ActsOn ops actor id stored.record.generation)
      (processes : d.processes = some ps) (step : ProcessStep ops stored ps process) :
      DirectoryStep sdk ops actor id (some d)
        { d with processes := some (ps.write process.record.target.processId process) }

/-! ## Events -/

/-- Position of a lifecycle event; other events have none. -/
def RuntimeEventKind.lifecycleRank : RuntimeEventKind → Option Nat
  | .containerCreating => some 0
  | .containerCreated => some 1
  | .containerStarted => some 2
  | .containerStopped => some 3
  | .containerDeleted => some 4
  | _ => none

/-- What a new lifecycle event rests on: its identity says which event of which generation it is,
    and the events of a creation or a start come from an operation of that kind. -/
inductive EventBasis (ops : OperationInventory) : EventIdentity → RuntimeEvent → Prop
  | created {id : ContainerId} {generation : Nat} {suffix : EventSuffix} {event : RuntimeEvent}
      {op : StoredOperation} (container : event.container = .exact id generation)
      (kind : suffix = .creating ∧ event.kind = .containerCreating ∨
        suffix = .created ∧ event.kind = .containerCreated)
      (found : JournaledAt ops id generation op) (basis : op.kind = .create) :
      EventBasis ops (.container id generation suffix) event
  | started {id : ContainerId} {generation : Nat} {event : RuntimeEvent} {op : StoredOperation}
      (container : event.container = .exact id generation) (kind : event.kind = .containerStarted)
      (found : JournaledAt ops id generation op) (basis : op.kind = .start) :
      EventBasis ops (.container id generation .started) event
  | ended {id : ContainerId} {generation : Nat} {suffix : EventSuffix} {event : RuntimeEvent}
      (container : event.container = .exact id generation)
      (kind : suffix = .stopped ∧ event.kind = .containerStopped ∨
        suffix = .deleted ∧ event.kind = .containerDeleted) :
      EventBasis ops (.container id generation suffix) event
  | restored {op : StoredOperation} {suffix : EventSuffix} {event : RuntimeEvent}
      (container : event.container = .exact op.containerId op.generation)
      (kind : suffix = .restoring ∧ event.kind = .containerCreating ∨
        suffix = .restoreCreated ∧ event.kind = .containerCreated ∨
        suffix = .restoreStarted ∧ event.kind = .containerStarted)
      (found : ops.get? op.operationId = some op) (basis : op.kind = .restore) :
      EventBasis ops (.operation op.operationId suffix) event
  | other {identity : EventIdentity} {event : RuntimeEvent}
      (kind : event.kind.lifecycleRank = none) : EventBasis ops identity event

/-- New contents of the event journal. -/
inductive EventStep (s : Store) : EventJournal → Prop
  | cursor {last : Nat} (loaded : loadEventCursor s = .ok last) (bounded : last < u64Max) :
      EventStep s { s.events with
        cursor := some ⟨eventCursorSchemaVersion, last + 1⟩, cursorTransaction := false }
  /-- An identity is claimed under a sequence that no earlier event has reached. -/
  | claim {identity : EventIdentity} {event : RuntimeEvent}
      (fresh : s.events.keys.get? identity = none)
      (target : validateExactEventTarget event = .ok ())
      (identified : validateEventIdentity identity event = .ok ())
      (cursor : loadEventCursor s = .ok event.sequence)
      (latest : ∀ identity' claim, s.events.keys.get? identity' = some claim →
        claim.event.sequence < event.sequence)
      (basis : EventBasis s.operations identity event) :
      EventStep s { s.events with
        keys := s.events.keys.write identity ⟨eventClaimSchemaVersion, identity, event⟩ }
  | record {identity : EventIdentity} {claim : StoredEventClaim}
      (claimed : s.events.keys.get? identity = some claim)
      (absent : s.events.records.get? claim.event.sequence = none) :
      EventStep s { s.events with
        records := s.events.records.write claim.event.sequence
          ⟨eventRecordSchemaVersion, claim.event⟩ }

/-! ## The relation -/

/-- The operation whose directory is moved, and the tombstone it is moved to. -/
inductive MoveGuard (op : StoredOperation) : Tombstone → Prop
  | deleted (kind : op.kind = .delete) (prepared : op.outcome = .prepared) :
      MoveGuard op (deleteTombstone op.operationId)
  | failed (kind : op.kind.isCreation = true) (failed : op.outcome.isFailed = true) :
      MoveGuard op (failedCreationTombstone op)

/-- One commit of the store, on behalf of the operation `actor`. -/
inductive Write (sdk : Sdk) (actor : Option OperationId) (s : Store) : Store → Prop
  | operation {op : StoredOperation} (by_actor : actor = some op.operationId)
      (step : OperationStep sdk s op) :
      Write sdk actor s (s.writeOperation op)
  /-- A generation is allocated while the ID has no directory, for an operation that is new. -/
  | generation {id : ContainerId} {last : Nat}
      (fresh : ∀ o, actor = some o → s.operations.get? o = none)
      (absent : s.containers.get? id = none)
      (last_eq : last = ((s.generations.get? id).map (·.lastGeneration)).getD 0)
      (bounded : last < u64Max) :
      Write sdk actor s (s.writeGeneration ⟨generationSchemaVersion, id, last + 1⟩)
  | directory {id : ContainerId} {d : ContainerDirectory}
      (step : DirectoryStep sdk s.operations actor id (s.containers.get? id) d) :
      Write sdk actor s (s.setDirectory id d)
  /-- A directory that no other operation owns is moved to quarantine. -/
  | quarantine {op : StoredOperation} {d : ContainerDirectory} {stored : StoredContainer}
      {tombstone : Tombstone}
      (found : JournaledAt s.operations op.containerId op.generation op)
      (by_actor : actor = some op.operationId)
      (live : s.containers.get? op.containerId = some d)
      (loadable : Loadable sdk op.containerId d stored)
      (generation : stored.record.generation = op.generation)
      (owner : stored.activeOperation = none ∨ stored.activeOperation = some op.operationId)
      (absent : s.quarantine.get? tombstone = none)
      (guard : MoveGuard op tombstone) :
      Write sdk actor s { s with
        containers := s.containers.remove op.containerId
        quarantine := s.quarantine.write tombstone d }
  | event {journal : EventJournal} (step : EventStep s journal) :
      Write sdk actor s { s with events := journal }

end OciRuntime
