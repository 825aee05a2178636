import OciRuntime.Lib.Composition
import OciRuntime.Commit.Bare

/-!
# `OciRuntime.Commit.Routine` — every program of the store is put together from the same pieces

A program of the store only ever queries files, replaces one file or directory, and appends events.
`Routine` says so, as a class: the instances for sequencing and branching let instance search walk
through a program, so that a program needs a proof only where it matches on what it has read.

The one query that also looks at transaction files is the process fence,
`ensureNoActiveProcessOperations`; the index of `Routine` says whether a program may use it.

## Contents
- **Pieces.** `StorePiece`, `Routine` and its rules.
- **Programs.** One instance for every program, in the order of the modules that define them.
-/

namespace OciRuntime

open Durable Program

/-! ## Pieces -/

/-- The elementary programs of the store. -/
inductive StorePiece : Bool → ∀ α : Type, StoreM α → Prop
  | read {scans : Bool} {α : Type} {query : Store → Result α} (h : Blind query) :
      StorePiece scans α (read query)
  | scan (sdk : Sdk) (stored : StoredContainer) (name : String) :
      StorePiece true Unit (Program.read (ensureNoActiveProcessOperations sdk stored name))
  | writeOperation {scans : Bool} (op : StoredOperation) :
      StorePiece scans Unit (commit (·.writeOperation op))
  | writeGeneration {scans : Bool} (generation : StoredGeneration) :
      StorePiece scans Unit (commit (·.writeGeneration generation))
  | createContainerDirectory {scans : Bool} (id : ContainerId) :
      StorePiece scans Unit (commit (·.createContainerDirectory id))
  | writeConfig {scans : Bool} (id : ContainerId) (configJson : String) :
      StorePiece scans Unit (commit (·.writeConfig id configJson))
  | writeContainer {scans : Bool} (stored : StoredContainer) :
      StorePiece scans Unit (commit (·.writeContainer stored))
  | quarantineContainer {scans : Bool} (id : ContainerId) (tombstone : Tombstone) :
      StorePiece scans Unit (commit (·.quarantineContainer id tombstone))
  | createProcessDirectory {scans : Bool} (id : ContainerId) :
      StorePiece scans Unit (commit (·.createProcessDirectory id))
  | writeProcess {scans : Bool} (process : StoredProcess) :
      StorePiece scans Unit (commit (·.writeProcess process))
  | writeEventRecord {scans : Bool} (record : StoredEventRecord) :
      StorePiece scans Unit (commit (·.writeEventRecord record))
  | appendEvent {scans : Bool} (clock : Clock) (identity : EventIdentity)
      (target : ContainerTarget) (operationId : Option OperationId) (processId : Option ProcessId)
      (kind : RuntimeEventKind) (attributes : List (String × String)) :
      StorePiece scans Unit
        (appendEvent clock identity target operationId processId kind attributes)

/-- The program is put together from pieces; `scans` allows the process fence among them. -/
class Routine (scans : Bool) {α : Type} (m : StoreM α) : Prop where
  composed : Composed (StorePiece scans) m

section Rules

variable {scans : Bool} {α β γ : Type}

theorem Routine.of_piece (h : StorePiece scans α m) : Routine scans m :=
  ⟨.piece h⟩

instance routine_pure (a : α) : Routine scans (pure a) := ⟨.pure a⟩

instance (e : Error) : Routine scans (throw e : StoreM α) := ⟨.throw e⟩

instance (verdict : Result α) : Routine scans (check verdict) := ⟨.check verdict⟩

instance {c : Prop} [Decidable c] (e : Error) :
    Routine scans (rejectIf c e : StoreM Unit) := ⟨.rejectIf⟩

instance routine_map (f : α → β) [h : Routine scans m] :
    Routine scans (f <$> m) := ⟨.map h.composed⟩

instance routine_bind {f : α → StoreM β} [hm : Routine scans m]
    [hf : ∀ a, Routine scans (f a)] : Routine scans (m >>= f) :=
  ⟨.bind hm.composed fun a => (hf a).composed⟩

instance {c : Prop} [Decidable c] [hm : Routine scans m]
    [hn : Routine scans n] : Routine scans (if c then m else n) := by
  split
  · exact hm
  · exact hn

instance {query : Store → Result α} [h : Blind query] :
    Routine scans (read query) := .of_piece (.read h)

/-- Sequencing, where the answer is matched on. -/
theorem Routine.bind_option {m : StoreM (Option α)} [hm : Routine scans m]
    [hn : Routine scans (f none)] (hs : ∀ a, Routine scans (f (some a))) :
    Routine scans (m >>= f) := by
  refine ⟨.bind hm.composed fun a => ?_⟩
  cases a with
  | none => exact hn.composed
  | some a => exact (hs a).composed

instance (priority := low) {m : StoreM (Option α)} {f : Option α → StoreM β}
    [Routine scans m] [Routine scans (f none)] [∀ a, Routine scans (f (some a))] :
    Routine scans (m >>= f) :=
  .bind_option fun _ => inferInstance

/-- Sequencing, with what follows given as a proof: the answer is matched on. -/
theorem Routine.bind [Routine scans m] (hf : ∀ a, Routine scans (f a)) : Routine scans (m >>= f) :=
  routine_bind

/-- A query of which only the presence of an answer matters. -/
theorem Routine.read_isSome {query : Store → Option α} {f : Option α → StoreM β}
    [h : Blind fun s => .ok (query s).isSome] (hs : ∀ a b, f (some a) = f (some b))
    (hf : ∀ a, Routine scans (f a)) : Routine scans ((read fun s => .ok (query s)) >>= f) := by
  obtain ⟨g, hg, hr⟩ :
      ∃ g : Bool → StoreM β, f = (fun a => g a.isSome) ∧ ∀ b, Routine scans (g b) := by
    rcases isEmpty_or_nonempty α with he | ⟨⟨sample⟩⟩
    · exact ⟨fun _ => f none, funext fun a => by rw [Subsingleton.elim a none], fun _ => hf none⟩
    · refine ⟨fun b => if b then f (some sample) else f none, funext fun a => ?_, fun b => ?_⟩
      · cases a with
        | none => rfl
        | some a => exact hs a sample
      · cases b
        · exact hf none
        · exact hf (some sample)
  rw [hg]
  exact ⟨.read_through Option.isSome (.read h) fun b => (hr b).composed⟩

instance (op : StoredOperation) :
    Routine scans (commit (·.writeOperation op)) := .of_piece (.writeOperation op)

instance (generation : StoredGeneration) :
    Routine scans (commit (·.writeGeneration generation)) := .of_piece (.writeGeneration generation)

instance (id : ContainerId) : Routine scans (commit (·.createContainerDirectory id)) :=
  .of_piece (.createContainerDirectory id)

instance (id : ContainerId) (configJson : String) :
    Routine scans (commit (·.writeConfig id configJson)) := .of_piece (.writeConfig id configJson)

instance (stored : StoredContainer) :
    Routine scans (commit (·.writeContainer stored)) := .of_piece (.writeContainer stored)

instance (id : ContainerId) (tb : Tombstone) :
    Routine scans (commit (·.quarantineContainer id tb)) :=
  .of_piece (.quarantineContainer id tb)

instance (id : ContainerId) :
    Routine scans (commit (·.createProcessDirectory id)) := .of_piece (.createProcessDirectory id)

instance (process : StoredProcess) :
    Routine scans (commit (·.writeProcess process)) := .of_piece (.writeProcess process)

instance (rc : StoredEventRecord) :
    Routine scans (commit (·.writeEventRecord rc)) := .of_piece (.writeEventRecord rc)

instance (clock : Clock) (i : EventIdentity)
    (target : ContainerTarget) (oid : Option OperationId) (processId : Option ProcessId)
    (kind : RuntimeEventKind) (attributes : List (String × String)) :
    Routine scans (appendEvent clock i target oid processId kind attributes) :=
  .of_piece (.appendEvent clock i target oid processId kind attributes)

instance (sdk : Sdk) (stored : StoredContainer) (name : String) :
    Routine true (read (ensureNoActiveProcessOperations sdk stored name)) :=
  .of_piece (.scan sdk stored name)

end Rules

section Programs

variable {scans : Bool} {sdk : Sdk} {clock : Clock} {id : ContainerId} {generation : Nat}
  {o : OperationId} {op : StoredOperation} {stored : StoredContainer} {process : StoredProcess}
  {target : ContainerTarget} {context : OperationContext} {digest : RequestDigests}
  {driver : DriverKind} {sta : ContainerState} {pid : Option Int} {paused : Bool}
  {action : FreezerAction} {ob : DriverState} {recreated : RecreatedProcess}
  {completed : Option StoredOperation} {error : Error} {name : String} {suffix : EventSuffix}
  {kind : RuntimeEventKind} {attributes : List (String × String)}

/-! ## The journal and the creation of containers -/

instance : Routine scans (nextGeneration id) := by
  unfold nextGeneration
  have : Blind fun s : Store =>
      match s.generations.get? id with
      | none => .ok 0
      | some stored =>
        if stored.schemaVersion ≠ generationSchemaVersion ∨ stored.id ≠ id then
          .error (stateError .failedPrecondition "allocate-generation"
            s!"invalid generation record for {id.value}")
        else .ok stored.lastGeneration := ⟨fun _ => rfl⟩
  infer_instance

instance : Routine scans (claimActiveOperation sdk stored o mutation name) := by
  unfold claimActiveOperation
  infer_instance

instance : Routine scans (settle op outcome) := by
  unfold settle
  infer_instance

instance : Routine scans (ensureContainerDirectory id) := by
  refine .read_isSome (fun _ _ => rfl) fun dr => ?_
  cases dr <;> infer_instance

instance {bundle : OciBundle} : Routine scans (ensureConfigSnapshot id bundle name) := by
  unfold ensureConfigSnapshot
  infer_instance

instance {inputs : CreationInputs} :
    Routine scans (reconcilePreparedContainer sdk inputs generation o name) := by
  unfold reconcilePreparedContainer
  infer_instance

instance : Routine scans (reconcileFailedCreation sdk op) := by
  refine .bind fun _ => .bind fun _ => .bind fun live => .bind fun quarantined => ?_
  cases live <;> cases quarantined <;> infer_instance

instance : Routine scans (reconcileFailedCreate sdk op) := by
  unfold reconcileFailedCreate
  infer_instance

instance : Routine scans (reconcileFailedRestore sdk op) := by
  unfold reconcileFailedRestore
  infer_instance

instance : Routine scans (reconcilePreparedCreate sdk r driver generation) := by
  unfold reconcilePreparedCreate
  infer_instance

instance : Routine scans (reconcileSucceededCreate sdk op rp) := by
  unfold reconcileSucceededCreate
  infer_instance

instance : Routine scans (appendContainerEvent clock suffix id generation kind attributes) := by
  unfold appendContainerEvent
  infer_instance

instance {processId : ProcessId} :
    Routine scans (appendProcessEvent clock suffix id generation processId kind attributes) := by
  unfold appendProcessEvent
  infer_instance

instance : Routine scans (appendOperationEvent clock o suffix target kind attributes) := by
  unfold appendOperationEvent
  infer_instance

instance {r : CreateRequest} {descriptors : Option String} :
    Routine scans (prepareCreate sdk clock r driver descriptors) := by
  refine .bind fun _ => .bind fun journaled => ?_
  cases journaled with
  | some op =>
    refine .bind fun _ => ?_
    split <;> infer_instance
  | none =>
    refine .bind fun _ => .read_isSome (fun _ _ => rfl) fun dr => ?_
    infer_instance

instance {pid : Int} : Routine scans (completeCreate sdk clock o pid) := by
  exact .bind fun _ => .bind fun op => .bind fun _ => .bind_option fun _ => inferInstance

/-! ## Start, kill, pause, resume and update -/

instance : Routine scans (releaseIfClaimed stored) := by
  unfold releaseIfClaimed
  split <;> infer_instance

instance : Routine scans (appendStoppedEvent clock id generation) := by
  unfold appendStoppedEvent
  infer_instance

instance : Routine scans (appendStoppedEventFor clock id generation sta) := by
  unfold appendStoppedEventFor
  infer_instance

instance : Routine scans (appendStartEvents clock id generation sta) := by
  unfold appendStartEvents
  infer_instance

instance : Routine scans (resumeStart sdk clock r op) := by
  refine .bind fun stored => ?_
  split <;> infer_instance

instance : Routine scans (reconcileSucceededStart sdk op rp) := by
  unfold reconcileSucceededStart
  infer_instance

instance : Routine scans (prepareStart sdk clock r) := by
  refine .bind_option fun op => .bind fun _ => ?_
  split <;> infer_instance

instance : Routine scans (completeStart sdk clock o sta pid) := by
  exact .bind fun _ => .bind fun _ => .bind fun _ => .bind_option fun _ => inferInstance

instance : Routine scans (resumeKill sdk clock r op) := by
  unfold resumeKill
  infer_instance

instance : Routine scans (prepareKill sdk clock r) := by
  refine .bind_option fun op => .bind fun _ => ?_
  split <;> infer_instance

instance : Routine scans (completeKill sdk clock o sta pid) := by
  exact .bind fun _ => .bind fun _ => .bind fun _ => .bind_option fun _ => inferInstance

instance : Routine scans (appendFreezerEvent clock op action) := by
  unfold appendFreezerEvent
  infer_instance

instance : Routine scans (resumeFreezer sdk clock r action op) := by
  unfold resumeFreezer
  infer_instance

instance : Routine scans (reconcileSucceededFreezer sdk op rp action) := by
  unfold reconcileSucceededFreezer
  infer_instance

instance : Routine scans (prepareFreezer sdk clock r action) := by
  refine .bind_option fun op => .bind fun _ => ?_
  split <;> infer_instance

instance : Routine scans (completeFreezer sdk clock o sta pid paused action) := by
  exact .bind fun _ => .bind fun _ => .bind fun _ => .bind_option fun _ => inferInstance

instance : Routine scans (reconcileSucceededUpdate sdk op rp) := by
  unfold reconcileSucceededUpdate
  infer_instance

instance : Routine scans (prepareUpdate sdk clock r) := by
  refine .bind fun _ => .bind_option fun op => .bind fun _ => ?_
  split <;> infer_instance

instance : Routine scans (completeUpdate sdk clock o sta pid paused) := by
  exact .bind fun _ => .bind fun _ => .bind fun _ => .bind_option fun _ => inferInstance

/-! ## Processes -/

instance : Routine scans (ensureProcessDirectory id) := by
  refine .read_isSome (fun _ _ => rfl) fun processes => ?_
  cases processes <;> infer_instance

instance : Routine scans (claimActiveProcessOperation sdk process o name) := by
  unfold claimActiveProcessOperation
  infer_instance

instance : Routine scans (releaseProcessOperationClaim sdk op o name) := by
  unfold releaseProcessOperationClaim
  infer_instance

instance : Routine scans (releaseFailedProcessOperation sdk op) := by
  unfold releaseFailedProcessOperation
  infer_instance

instance : Routine scans (reconcilePreparedExec sdk r op) := by
  exact .bind fun ct => .bind fun _ => .bind fun processId => .bind fun _ =>
    .bind_option fun _ => inferInstance

instance {process : ProcessRecord} : Routine scans (appendExecEvents clock process) := by
  unfold appendExecEvents
  infer_instance

instance : Routine scans (releaseProcessIfClaimed process) := by
  unfold releaseProcessIfClaimed
  split <;> infer_instance

instance : Routine scans (resumeExec sdk clock r op) := by
  unfold resumeExec
  infer_instance

instance : Routine scans (reconcileSucceededExec sdk op rp) := by
  unfold reconcileSucceededExec
  infer_instance

instance {r : ExecRequest} : Routine scans (prepareExec sdk clock r) := by
  refine .bind fun _ => .bind fun journaled => ?_
  cases journaled with
  | none =>
    refine .bind fun _ => .bind fun ct => .bind fun _ => .bind fun _ => ?_
    infer_instance
  | some op =>
    refine .bind fun _ => ?_
    split <;> infer_instance

instance {pid : Int} {terminal : Bool} : Routine scans (completeExec sdk clock o pid terminal) := by
  exact .bind fun _ => .bind fun _ => .bind fun _ => .bind_option fun _ => inferInstance

instance : Routine scans (claimSignalProcess sdk op o) := by
  unfold claimSignalProcess
  infer_instance

instance : Routine scans (prepareSignalProcess sdk clock r) := by
  refine .bind fun journaled => ?_
  cases journaled with
  | none =>
    refine .bind fun _ => .bind fun ct => .bind fun _ => .bind fun _ => ?_
    infer_instance
  | some op =>
    refine .bind fun _ => ?_
    split <;> infer_instance

instance : Routine scans (completeSignalProcess sdk o) := by
  unfold completeSignalProcess
  infer_instance

instance : Routine scans (prepareWaitProcess sdk requested) := by
  refine .bind fun ct => .bind fun _ => ?_
  dsimp only
  split
  · split <;> infer_instance
  · refine .bind fun process => ?_
    split <;> infer_instance

instance {target : ProcessTarget} {sta : ExitStatus} :
    Routine scans (completeInitWait clock stored target sta) := by
  unfold completeInitWait
  split <;> infer_instance

instance {target : ProcessTarget} {sta : ExitStatus} :
    Routine scans (completeProcessWait sdk clock target sta) := by
  refine .bind fun _ => .bind fun generation => .bind fun ct => ?_
  split
  · infer_instance
  · refine .bind fun process => ?_
    split <;> infer_instance

instance {du : StoredProcess} {ob : ProcessRecord} : Routine scans (rebindExecProcess du ob) := by
  unfold rebindExecProcess
  infer_instance

instance (du : List (ProcessId × StoredProcess) ) (ob : List ProcessRecord) :
    Routine scans (rebindExecProcesses du ob) := by
  induction ob with
  | nil => exact routine_pure ()
  | cons process rest ih =>
    unfold rebindExecProcesses
    infer_instance

instance {ob : List ProcessRecord} :
    Routine scans (observeRecreatedExecProcesses sdk target ob) := by
  unfold observeRecreatedExecProcesses
  infer_instance

instance : Routine scans (claimInitIoOperation stored o) := by
  unfold claimInitIoOperation
  infer_instance

instance : Routine scans (claimExecIoOperation process o) := by
  unfold claimExecIoOperation
  infer_instance

instance : Routine scans (claimProcessIoOperation sdk op name) := by
  unfold claimProcessIoOperation
  infer_instance

instance :
    Routine scans (prepareProcessIoOperation sdk clock context requested digest profile) := by
  refine .bind fun journaled => ?_
  cases journaled with
  | none =>
    refine .bind fun _ => .bind fun ct => .bind fun _ => .bind fun _ => ?_
    infer_instance
  | some op =>
    refine .bind fun _ => ?_
    split <;> infer_instance

instance : Routine scans (prepareWriteStdin sdk clock r) := by
  unfold prepareWriteStdin
  infer_instance

instance : Routine scans (prepareCloseStdin sdk clock r) := by
  unfold prepareCloseStdin
  infer_instance

instance : Routine scans (prepareResize sdk clock r) := by
  unfold prepareResize
  infer_instance

instance : Routine scans (completeProcessIoOperation sdk o profile) := by
  unfold completeProcessIoOperation
  infer_instance

instance : Routine scans (completeWriteStdin sdk o) := by
  unfold completeWriteStdin
  infer_instance

instance : Routine scans (completeCloseStdin sdk o) := by
  unfold completeCloseStdin
  infer_instance

instance : Routine scans (completeResize sdk o) := by
  unfold completeResize
  infer_instance

/-! ## Delete, filesystem mutations, checkpoint, restore and attestation -/

instance : Routine scans (appendDeleteEvent clock op) := by
  unfold appendDeleteEvent
  infer_instance

instance : Routine scans (settleDelete clock op) := by
  unfold settleDelete
  infer_instance

instance : Routine true (resumeDelete sdk clock r op) := by
  refine .bind fun presence => ?_
  split <;> infer_instance

instance : Routine true (prepareDelete sdk clock r) := by
  refine .bind_option fun op => .bind fun _ => ?_
  split <;> infer_instance

instance : Routine scans (moveDeleted sdk op) := by
  refine .bind fun presence => ?_
  split <;> infer_instance

instance : Routine scans (completeDelete sdk clock o) := by
  unfold completeDelete
  infer_instance

instance {retained : StoredOperationRequest} : Routine scans
      (prepareFilesystemMutationOperation sdk clock context target digest retained profile) := by
  refine .bind_option fun op => .bind fun _ => ?_
  split <;> infer_instance

instance : Routine scans (prepareFileMutation sdk clock r) := by
  unfold prepareFileMutation
  infer_instance

instance : Routine scans (prepareFilesystemMutation sdk clock r) := by
  unfold prepareFilesystemMutation
  infer_instance

instance : Routine scans (completeFilesystemMutationOperation sdk o rp profile) := by
  exact .bind fun _ => .bind fun _ => .bind_option fun _ => inferInstance

instance : Routine scans (completeFileMutation sdk o rp) := by
  refine .bind fun done => ?_
  cases done <;> infer_instance

instance : Routine scans (completeFilesystemMutation sdk o rp) := by
  refine .bind fun done => ?_
  cases done <;> infer_instance

instance : Routine true (prepareCheckpoint sdk clock r) := by
  refine .bind fun _ => .bind_option fun op => .bind fun _ => .bind fun _ => ?_
  split <;> infer_instance

instance : Routine scans (completeCheckpoint sdk o rp) := by
  refine .bind fun op => .bind fun _ => .bind fun done => ?_
  cases done with
  | some rp => infer_instance
  | none =>
    refine .bind fun r => .bind fun _ => .bind fun stored => ?_
    infer_instance

instance : Routine scans (reconcilePreparedRestore sdk r driver generation) := by
  unfold reconcilePreparedRestore
  infer_instance

instance : Routine scans (appendRestoreCreatingEvent clock r generation) := by
  unfold appendRestoreCreatingEvent
  infer_instance

instance : Routine scans (reconcileSucceededRestore sdk op rp) := by
  unfold reconcileSucceededRestore
  infer_instance

instance : Routine scans (lookupRestore sdk r) := by
  refine .bind fun _ => .bind fun _ => .bind_option fun op => .bind fun _ => ?_
  split <;> infer_instance

instance : Routine scans (prepareRestore sdk clock r driver) := by
  refine .bind fun _ => .bind fun _ => .bind fun journaled => ?_
  cases journaled with
  | some op =>
    refine .bind fun _ => ?_
    split <;> infer_instance
  | none =>
    refine .bind fun _ => .read_isSome (fun _ _ => rfl) fun dr => ?_
    infer_instance

instance : Routine scans (appendRestoredEvents clock op) := by
  unfold appendRestoredEvents
  infer_instance

instance {pid : Int} : Routine scans (completeRestore sdk clock o pid) := by
  exact .bind fun _ => .bind fun _ => .bind fun _ => .bind_option fun _ => inferInstance

instance : Routine scans (lookupAttestation sdk r) := by
  refine .bind fun _ => .bind_option fun op => .bind fun _ => ?_
  split <;> infer_instance

instance : Routine scans (attestationSource sdk target) := by
  unfold attestationSource
  infer_instance

instance : Routine scans (prepareAttestation sdk clock r) := by
  refine .bind fun _ => .bind_option fun op => .bind fun _ => ?_
  split <;> infer_instance

instance : Routine scans (completeAttestation sdk clock o rp) := by
  exact .bind fun _ => .bind fun _ => .bind_option fun _ => inferInstance

/-! ## Failures and observations -/

instance : Routine scans (reconcileFailure sdk op) := by
  unfold reconcileFailure
  infer_instance

instance : Routine scans (recordFailure sdk op error) := by
  unfold recordFailure
  infer_instance

instance : Routine scans (failOperation sdk o error) := by
  unfold failOperation
  split
  · infer_instance
  · refine .bind fun op => ?_
    split <;> infer_instance

instance : Routine scans (appendObservedEvent clock op) := by
  unfold appendObservedEvent
  split <;> infer_instance

instance {record : ContainerRecord} : Routine scans (settleObserved completed record) := by
  unfold settleObserved
  cases completed <;> infer_instance

instance : Routine scans (appendCompletedEvent clock completed) := by
  unfold appendCompletedEvent
  cases completed <;> infer_instance

instance : Routine scans (appendObservedStop clock stored ob) := by
  unfold appendObservedStop
  infer_instance

instance : Routine scans (writeObserved stored changed) := by
  unfold writeObserved
  infer_instance

instance : Routine scans (observeStateInner sdk clock target ob recreated) := by
  refine .bind fun _ => .bind fun stored => .bind fun active => .bind fun _ => .bind fun state => ?_
  infer_instance

instance : Routine scans
      (observeRecreatedProcess sdk clock target ob sta paused recreated name message) := by
  unfold observeRecreatedProcess
  infer_instance

instance : Routine scans (observeRecreatedCreatedProcess sdk clock target ob) := by
  unfold observeRecreatedCreatedProcess
  infer_instance

instance : Routine scans (observeRecreatedRunningProcess sdk clock target ob) := by
  unfold observeRecreatedRunningProcess
  infer_instance

instance : Routine scans (observeRecreatedPausedRunningProcess sdk clock target ob) := by
  unfold observeRecreatedPausedRunningProcess
  infer_instance

/-! ## Polls -/

instance {event : RuntimeEvent} : Routine scans (ensureEventRecord event) := by
  unfold ensureEventRecord
  infer_instance

instance (last : Nat) (claimed : List Nat) (l : List (EventIdentity × StoredEventClaim)) :
    Routine scans (repairEventClaims last claimed l) := by
  induction l generalizing claimed with
  | nil => exact routine_pure claimed
  | cons entry rest ih =>
    unfold repairEventClaims
    infer_instance

instance {filter : Option ContainerTarget} {after limit : Nat} :
    Routine scans (pollEvents filter after limit) := by
  unfold pollEvents repairPendingEventRecords
  infer_instance

instance {α β : Type} {m : StoreM (Preparation α β)} [h : Routine scans m] :
    Routine scans (granting m).program := h

instance {α : Type} {m : StoreM α} [h : Routine scans m] : Routine scans (answering m).program := h

instance {invocation : Invocation} [Routine scans invocation.program] :
    Routine scans invocation.run :=
  routine_map _

/-- Every call of the store. -/
instance routine_call (call : Call sdk) : Routine true call.run := by
  cases call <;> dsimp only [Call.run, Call.invocation] <;> infer_instance

end Programs

end OciRuntime
