import OciRuntime.Commit.BareAudit
import OciRuntime.Commit.Calls
import OciRuntime.Commit.Routine

/-!
# `OciRuntime.Property.Transactions` — what leftover transaction files can change

An operation of the store behaves the same on two stores that differ in transaction files only,
except where it reaches the process fence: `ensure_no_active_process_operations` rejects every name
that is not a process record, so a transaction file of an interrupted process write blocks the
deletion or the checkpoint of its container.

## Contents
- **Agreement.** `Routine.agrees`: programs without the fence.
- **The fence.** `Store.stopsAt`, `DeleteScans`, `CheckpointScans`: where it is reached, and what it
  then says.
- **Methods.** `StoreMethod.Obstructed`, `agree_iff_unobstructed`.
-/

namespace OciRuntime

open Durable Program

variable {sdk : Sdk} {s t : Store}

variable {α : Type} {stored : StoredContainer} {name : String} {m : StoreM α}

/-! ## Agreement -/

theorem agrees_blind (h : Blind query) : Agrees SameFiles (read query) :=
  .read fun _ _ hs => h.sameFiles hs

theorem agrees_check (verdict : Result α) : Agrees SameFiles (check verdict) :=
  .read fun _ _ _ => rfl

theorem agrees_rejectIf {c : Prop} [Decidable c] (e : Error) :
    Agrees SameFiles (rejectIf c e : StoreM Unit) := by
  unfold rejectIf
  split <;> exact fun _ _ hs => ⟨rfl, .cons hs .nil⟩

theorem agrees_ensureEventRecord (event : RuntimeEvent) :
    Agrees SameFiles (ensureEventRecord event) := by
  refine (agrees_blind inferInstance).bind fun stored => ?_
  cases stored with
  | none => exact .commit fun _ _ hs => hs.writeEventRecord _
  | some actual => exact agrees_rejectIf _

theorem agrees_appendNewEvent (clock : Clock) (i : EventIdentity)
    (target : ContainerTarget) (oid : Option OperationId) (processId : Option ProcessId)
    (kind : RuntimeEventKind) (ats : List (String × String)) :
    Agrees SameFiles (appendNewEvent clock i target oid processId kind ats) := by
  refine (agrees_blind inferInstance).bind fun last => (agrees_rejectIf _).bind fun _ => ?_
  refine (Agrees.commit fun _ _ hs => hs.writeCursor _).bind fun _ => ?_
  refine (agrees_check _).bind fun stamp => (agrees_check _).bind fun _ => ?_
  refine (Agrees.commit fun _ _ hs => hs.writeEventClaim _).bind fun _ => ?_
  exact agrees_ensureEventRecord _

theorem agrees_appendEvent (clock : Clock) (i : EventIdentity) (target : ContainerTarget)
    (oid : Option OperationId) (processId : Option ProcessId) (kind : RuntimeEventKind)
    (ats : List (String × String)) :
    Agrees SameFiles (appendEvent clock i target oid processId kind ats) := by
  refine (agrees_check _).bind fun _ => (agrees_blind inferInstance).bind fun claimed => ?_
  cases claimed with
  | none => exact agrees_appendNewEvent clock i target oid processId kind ats
  | some stored =>
    refine (agrees_blind inferInstance).bind fun claim => (agrees_check _).bind fun _ => ?_
    exact agrees_ensureEventRecord _

theorem StorePiece.agrees (h : StorePiece false α m) : Agrees SameFiles m := by
  cases h with
  | read h => exact agrees_blind h
  | writeOperation => exact .commit fun _ _ hs => hs.writeOperation _
  | writeGeneration => exact .commit fun _ _ hs => hs.writeGeneration _
  | createContainerDirectory => exact .commit fun _ _ hs => hs.createContainerDirectory
  | writeConfig => exact .commit fun _ _ hs => hs.writeConfig _
  | writeContainer => exact .commit fun _ _ hs => hs.writeContainer _
  | quarantineContainer => exact .commit fun _ _ hs => hs.quarantineContainer _
  | createProcessDirectory => exact .commit fun _ _ hs => hs.createProcessDirectory
  | writeProcess => exact .commit fun _ _ hs => hs.writeProcess _
  | writeEventRecord => exact .commit fun _ _ hs => hs.writeEventRecord _
  | appendEvent => exact agrees_appendEvent _ _ _ _ _ _ _

/-- **Programs without the fence.** They cannot tell stores with the same files apart. -/
theorem Routine.agrees (h : Routine false m) : Agrees SameFiles m :=
  h.composed.agrees StorePiece.agrees

/-! ## The fence -/

/-- The process directory of a container. -/
def Store.processDirectory (s : Store) (id : ContainerId) : Option (Directory ProcessId StoredProcess) :=
  (s.containers.get? id).bind (·.processes)

/-- The file at which the fence of an operation stops: the first one listed that is not the record of
    an unclaimed process. -/
def Store.stopsAt (s : Store) (sdk : Sdk) (operation : String) (stored : StoredContainer) :
    Option String :=
  (s.processDirectory stored.id).bind fun ps => (processListing sdk ps).find? fun fileName =>
    !(ensureProcessUnclaimed stored operation fileName s).isOk

/-- The fence's answer to a name without the suffix of a record. -/
def blocked (name fileName : String) : Error :=
  stateError .failedPrecondition name s!"unexpected file in process state directory: {fileName}"

/-- The process directories of one container hold the same files. -/
theorem SameFiles.processDirectory (h : SameFiles s t) (id : ContainerId) :
    (s.processDirectory id).map (·.bare) = (t.processDirectory id).map (·.bare) := by
  have hs := Store.bare_processes id s
  have ht := Store.bare_processes id t
  rw [show s.bare = t.bare from h] at hs
  exact hs.symm.trans ht

theorem SameFiles.ensureProcessUnclaimed (h : SameFiles s t) (fileName : String) :
    ensureProcessUnclaimed stored name fileName s = ensureProcessUnclaimed stored name fileName t := by
  refine Blind.sameFiles ⟨fun u => ?_⟩ h
  simp only [OciRuntime.ensureProcessUnclaimed, (blind_loadStoredProcess _).unchanged]

theorem SameFiles.ensureInitUnclaimed (h : SameFiles s t) :
    ensureInitUnclaimed sdk stored name s = ensureInitUnclaimed sdk stored name t :=
  Blind.sameFiles ⟨fun _ => rfl⟩ h

theorem forM_eq_find? (files : List String) (check : String → Result Unit) :
    files.forM check = ((files.find? fun file => !(check file).isOk).elim (.ok ()) check) := by
  induction files with
  | nil => rfl
  | cons file rest ih =>
    rw [List.find?_cons, List.forM]
    cases hc : check file with
    | error e => exact hc.symm
    | ok u => exact ih

/-- The fence says what it has to say about the file at which it stops. -/
theorem fence_eq (hn : ensureInitUnclaimed sdk stored name s = .ok ()) :
    ensureNoActiveProcessOperations sdk stored name s =
      (s.stopsAt sdk name stored).elim (.ok ()) (ensureProcessUnclaimed stored name · s) := by
  rw [ensureNoActiveProcessOperations, bind_of_ok hn, Store.stopsAt, Store.processDirectory]
  split
  · rename_i hp
    rw [hp]
    rfl
  · rename_i ps hp
    rw [hp]
    exact forM_eq_find? _ _

/-- The fence answers the same if it stops at the same file. -/
theorem fence_agrees (h : SameFiles s t) (hsm : ensureInitUnclaimed sdk stored name s = .ok () →
      s.stopsAt sdk name stored = t.stopsAt sdk name stored) :
    ensureNoActiveProcessOperations sdk stored name s =
      ensureNoActiveProcessOperations sdk stored name t := by
  cases hv : ensureInitUnclaimed sdk stored name s with
  | error e =>
    have hv' := h.ensureInitUnclaimed.symm.trans hv
    rw [ensureNoActiveProcessOperations, ensureNoActiveProcessOperations, hv, hv']
    rfl
  | ok _ =>
    rw [fence_eq hv, fence_eq (h.ensureInitUnclaimed.symm.trans hv), hsm hv]
    simp only [h.ensureProcessUnclaimed]

/-- A file of one store that the other one does not have is a transaction file. -/
theorem SameFiles.listed (sdk : Sdk) {id : ContainerId} (h : SameFiles s t)
    (hps : s.processDirectory id = some ps)
    (hps' : t.processDirectory id = some ps') (hf : fileName ∈ processListing sdk ps) :
    fileName ∈ processListing sdk ps' ∨ ∃ p, fileName = processTransactionName p := by
  have hd := h.processDirectory id
  rw [hps, hps'] at hd
  have hs : ps.strays = ps'.strays := congrArg (·.strays) (Option.some.inj hd)
  have hn : ps.entries = ps'.entries := congrArg (·.entries) (Option.some.inj hd)
  rw [mem_processListing, hn, hs] at hf
  rcases hf with hf | ⟨p, -, rfl⟩ | hf
  · exact .inl (mem_processListing.mpr (.inl hf))
  · exact .inr ⟨p, rfl⟩
  · exact .inl (mem_processListing.mpr (.inr (.inr hf)))

/-- Where one store stops the fence at a file that both have, the other one stops it there or at a
    transaction file. -/
theorem SameFiles.stopsAt (h : SameFiles s t) (hs : s.stopsAt sdk name stored = some fileName)
    (hne : t.stopsAt sdk name stored ≠ some fileName) :
    (∃ p, fileName = processTransactionName p) ∨
      ∃ p, t.stopsAt sdk name stored = some (processTransactionName p) := by
  obtain ⟨ps, hps, hf⟩ := Option.bind_eq_some_iff.mp hs
  have hd := h.processDirectory stored.id
  rw [hps] at hd
  obtain ⟨ps', hps', -⟩ := Option.map_eq_some_iff.mp hd.symm
  obtain ⟨hm, hb, hmin⟩ := sdk.listing.find?_sort hf
  rcases h.listed sdk hps hps' (List.mem_of_find?_eq_some hf) with hm' | hp
  · rw [h.ensureProcessUnclaimed] at hb
    cases ht : t.stopsAt sdk name stored with
    | none =>
      unfold Store.stopsAt at ht
      rw [hps', Option.bind_some, List.find?_eq_none] at ht
      exact absurd hb (ht fileName hm')
    | some other =>
      obtain ⟨_, hps'', hf'⟩ := Option.bind_eq_some_iff.mp ht
      cases hps'.symm.trans hps''
      obtain ⟨-, hb', hmin'⟩ := sdk.listing.find?_sort hf'
      have hle' := hmin' fileName (sdk.listing.mem_sort.mp hm') hb
      rcases SameFiles.listed sdk (Eq.symm h) hps' hps (List.mem_of_find?_eq_some hf')
        with hmo | ⟨p, rfl⟩
      · rw [← h.ensureProcessUnclaimed] at hb'
        have hle := hmin other (sdk.listing.mem_sort.mp hmo) hb'
        rw [ht, sdk.listing.antisymm hle hle'] at hne
        exact absurd rfl hne
      · exact .inr ⟨p, rfl⟩
  · exact .inl hp

/-- The error is not one of the fence's complaints about a name. -/
def Error.Foreign (name : String) (e : Error) : Prop :=
  e.code = .failedPrecondition → e.operation ≠ some name

theorem blocked_not_foreign (name fileName : String) : ¬(blocked name fileName).Foreign name :=
  fun h => h rfl rfl

theorem blocked_injective (h : blocked name a = blocked name b) : a = b := by
  have hc := congrArg (fun e => e.message.toList) h
  simp only [blocked, stateError, Error.new, Error.forOperation, String.toList_append,
    List.append_right_inj] at hc
  exact String.toList_inj.mp hc

theorem ensureProcessUnclaimed_transaction (p : ProcessId) :
    ensureProcessUnclaimed stored name (processTransactionName p) s =
      .error (blocked name (processTransactionName p)) := by
  rw [ensureProcessUnclaimed, parseProcessFileName, stripSuffix_transaction]
  rfl

/-- The names under which the fence is used are not those of the checks around it. -/
def FenceName (name : String) : Prop :=
  name ≠ "load-process-state" ∧ name ≠ "load-operation" ∧ name ≠ "migrate-process-io-claim"

theorem Error.Foreign.of_code {e : Error} (h : e.code ≠ .failedPrecondition) : e.Foreign name :=
  fun hc => absurd hc h

theorem Error.Foreign.of_operation {other message : String} {code : ErrorCode} (h : name ≠ other) :
    (stateError code other message).Foreign name :=
  fun _ hs => h (Option.some.inj hs).symm

theorem loadStoredProcess_foreign (hn : FenceName name) (target : ProcessTarget) :
    OnlyFails (·.Foreign name) (loadStoredProcess target s) := by
  unfold loadStoredProcess loadStoredProcessFromPath
  split
  · exact .error (.of_code (by simp))
  · split
    · exact .error (.of_code (by simp))
    · refine (OnlyFails.rejectIf fun _ => .of_operation hn.1).bind fun _ _ => ?_
      split
      · exact .pure _
      · refine OnlyFails.bind ?_ fun _ _ => .pure _
        unfold ExitStatus.validate
        dsimp only
        split
        · split
          · exact .ok ()
          · exact .error (.of_code (by decide))
        · split
          · exact .ok ()
          · exact .error (.of_code (by decide))
        · exact .error (.of_code (by decide))

/-- The fence complains in these words about this name only. -/
theorem eq_of_blocked (hnm : FenceName name)
    (h : ensureProcessUnclaimed stored name fileName s = .error (blocked name other)) :
    fileName = other := by
  unfold ensureProcessUnclaimed at h
  cases hp : parseProcessFileName name fileName with
  | error e =>
    rw [hp] at h
    obtain rfl : e = blocked name other := Except.error.inj h
    unfold parseProcessFileName at hp
    split at hp
    · exact blocked_injective (Except.error.inj hp)
    · cases hv : ProcessId.new _ with
      | ok p => rw [hv] at hp; cases hp
      | error e =>
        rw [hv] at hp
        have hc := congrArg (fun e => e.message.toList.head?) (Except.error.inj hp)
        simp [blocked, stateError, Error.new, Error.forOperation, toString] at hc
  | ok p =>
    rw [hp, bind_of_ok rfl] at h
    have hf := (loadStoredProcess_foreign hnm _).bind
      (fun _ _ => .rejectIf fun _ => .of_code (by simp)) _ h
    exact absurd hf (blocked_not_foreign name other)

theorem loadOperation_foreign (hn : FenceName name) (o : OperationId) :
    OnlyFails (·.Foreign name) (loadOperation sdk o s) := by
  unfold loadOperation
  split
  · exact .error (.of_code (by simp))
  · split
    · exact .error (.of_operation hn.2.1)
    · split
      · exact .error (.of_operation hn.2.1)
      · exact .ok _

theorem migrateLegacyInitIoClaim_foreign (hn : FenceName name) :
    OnlyFails (·.Foreign name) (migrateLegacyInitIoClaim sdk stored s) := by
  unfold migrateLegacyInitIoClaim
  split
  · exact .ok _
  · refine (loadOperation_foreign hn _).bind fun op _ => ?_
    split
    · exact .ok _
    · refine OnlyFails.bind ?_ fun _ _ => .pure _
      unfold validateLegacyIoOperation
      split
      · exact .error (.of_operation hn.2.2)
      · exact .ok _

theorem vacateLifecycleClaim_foreign {mutation : ClaimMutation} (hn : FenceName name) :
    OnlyFails (·.Foreign name) (vacateLifecycleClaim sdk stored mutation name s) := by
  unfold vacateLifecycleClaim
  split
  · exact .ok _
  · refine (migrateLegacyInitIoClaim_foreign hn).bind fun migrated _ => ?_
    refine (OnlyFails.okOr (.of_code (by simp))).bind fun _ _ => ?_
    exact (OnlyFails.rejectIf fun _ => .of_code (by simp)).bind fun _ _ => .pure _

theorem claimActiveOperation_foreign (hn : FenceName name) :
    OnlyFails (·.Foreign name) ((claimActiveOperation sdk stored o mutation name).result s) := by
  unfold claimActiveOperation
  split
  · exact .ok _
  · refine onlyFails_result_bind (vacateLifecycleClaim_foreign hn) fun vacated => ?_
    exact .ok _

/-- Started in `s`, the program comes to list the process directory of `stored`; whatever it does
    afterwards, it does not complain about that directory. -/
def Scans {α : Type} (sdk : Sdk) (m : StoreM α) (name : String) (s : Store)
    (stored : StoredContainer) : Prop :=
  ensureInitUnclaimed sdk stored name s = .ok () ∧ ∃ rest : StoreM α, m.result s =
      (read (ensureNoActiveProcessOperations sdk stored name) >>= fun _ => rest).result s ∧
    ∀ u, OnlyFails (·.Foreign name) (rest.result u)

theorem Scans.stopped (h : Scans sdk m name s stored) (hb : s.stopsAt sdk name stored = some fileName)
    (he : ensureProcessUnclaimed stored name fileName s = .error e) : m.result s = .error e := by
  obtain ⟨hn, rest, hr, -⟩ := h
  have hf : (read (ensureNoActiveProcessOperations sdk stored name)).result s = .error e := by
    have hq := fence_eq hn
    rw [hb] at hq
    exact hq.trans he
  rw [hr, result_bind, hf]

theorem Scans.foreign (h : Scans sdk m name s stored) (hb : s.stopsAt sdk name stored = none) :
    OnlyFails (·.Foreign name) (m.result s) := by
  obtain ⟨hn, rest, hr, hrs⟩ := h
  rw [hr]
  have hf := fence_eq hn
  rw [hb] at hf
  refine onlyFails_result_bind (fun e he => ?_) fun _ => hrs _
  cases hf.symm.trans he

theorem stopsAt_fails (h : s.stopsAt sdk name stored = some fileName) :
    ∃ e, ensureProcessUnclaimed stored name fileName s = .error e := by
  obtain ⟨ps, -, hf⟩ := Option.bind_eq_some_iff.mp h
  have hb := List.find?_some hf
  cases he : ensureProcessUnclaimed stored name fileName s with
  | error e => exact ⟨e, rfl⟩
  | ok _ => simp [he, Except.isOk, Except.toBool] at hb

/-- Stopped at a transaction file in one store only, the program gives different answers. -/
theorem Scans.results_differ_of_transaction (hn : FenceName name) (hs : Scans sdk m name s stored)
    (ht : Scans sdk m name t stored)
    (hb : s.stopsAt sdk name stored = some (processTransactionName p))
    (hne : t.stopsAt sdk name stored ≠ some (processTransactionName p)) :
    m.result s ≠ m.result t := by
  rw [hs.stopped hb (ensureProcessUnclaimed_transaction p)]
  intro hsm
  cases hb' : t.stopsAt sdk name stored with
  | none => exact blocked_not_foreign name _ (ht.foreign hb' _ hsm.symm)
  | some fileName =>
    obtain ⟨e, he⟩ := stopsAt_fails hb'
    rw [ht.stopped hb' he] at hsm
    rw [← Except.error.inj hsm] at he
    rw [hb', eq_of_blocked hn he] at hne
    exact hne rfl

/-- A program whose fence stops at different files. -/
theorem Scans.results_differ (hn : FenceName name) (hst : SameFiles s t)
    (hs : Scans sdk m name s stored) (ht : Scans sdk m name t stored)
    (hd : s.stopsAt sdk name stored ≠ t.stopsAt sdk name stored) : m.result s ≠ m.result t := by
  cases hb : s.stopsAt sdk name stored with
  | some fileName =>
    rw [hb] at hd
    rcases hst.stopsAt hb hd.symm with ⟨p, rfl⟩ | ⟨p, hb'⟩
    · exact results_differ_of_transaction hn hs ht hb hd.symm
    · refine (results_differ_of_transaction hn ht hs hb' ?_).symm
      rw [hb, ← hb']
      exact hd
  | none =>
    rw [hb] at hd
    obtain ⟨fileName, hb'⟩ := Option.ne_none_iff_exists'.mp hd.symm
    rcases SameFiles.stopsAt (Eq.symm hst) hb' (by simp [hb]) with ⟨p, rfl⟩ | ⟨p, hp⟩
    · exact (results_differ_of_transaction hn ht hs hb' (by simp [hb])).symm
    · rw [hb] at hp
      cases hp

/-! ### Deletion -/

section Delete

variable {clock : Clock} {request : DeleteRequest}

/-- In this state a prepare of the delete comes to list the processes of `stored`. -/
inductive DeleteScans (sdk : Sdk) (clock : Clock) (request : DeleteRequest) (s : Store) :
    StoredContainer → Prop
  | retry {op : StoredOperation} {stored : StoredContainer}
      (journaled : loadOperationIfPresent sdk request.context.operationId s = .ok (some op))
      (accepted : validateRetry op request.context.operationId .delete request.target.id
        (sdk.requestDigest (.delete request.target request.mode)) "prepare-delete" = .ok ())
      (prepared : op.outcome = .prepared) (unmoved : deletePresence op s = (true, false))
      (loaded : loadStoredExact sdk op.containerId op.generation s = .ok stored)
      (init : ensureInitUnclaimed sdk stored "prepare-delete" s = .ok ()) :
      DeleteScans sdk clock request s stored
  | fresh {stored : StoredContainer}
      (journaled : loadOperationIfPresent sdk request.context.operationId s = .ok none)
      (timely : validateDeadline clock request.context "prepare-delete" = .ok ())
      (loaded : loadRequested sdk request.target "prepare-delete" s = .ok stored)
      (accepted : validateDeleteMode request stored.record.state.status = .ok ())
      (init : ensureInitUnclaimed sdk stored "prepare-delete" s = .ok ()) :
      DeleteScans sdk clock request s stored

theorem deleteFenceName : FenceName "prepare-delete" := by
  unfold FenceName
  decide

theorem DeleteScans.scans (h : DeleteScans sdk clock request s stored) :
    Scans sdk (prepareDelete sdk clock request) "prepare-delete" s stored := by
  cases h with
  | retry journaled accepted prepared unmoved loaded init =>
    refine ⟨init, claimActiveOperation sdk stored request.context.operationId .delete
      "prepare-delete" >>= fun claimed => pure (.resume claimed.record), ?_, fun u => ?_⟩
    · unfold prepareDelete
      rw [result_read_bind journaled]
      dsimp only
      rw [result_check_bind accepted, prepared]
      dsimp only
      unfold resumeDelete
      rw [result_read_ok_bind unmoved]
      dsimp only
      rw [result_read_bind loaded]
    · exact onlyFails_result_bind (claimActiveOperation_foreign deleteFenceName) fun _ => .ok _
  | fresh journaled timely loaded accepted init =>
    refine ⟨init, do
      commit (·.writeOperation (preparedOperation request.context.operationId .delete
        request.target.id stored.record.generation none none
        (sdk.requestDigest (.delete request.target request.mode))))
      let claimed ← claimActiveOperation sdk stored request.context.operationId .delete
        "prepare-delete"
      return .prepared claimed.record, ?_, fun u => ?_⟩
    · unfold prepareDelete
      rw [result_read_bind journaled]
      dsimp only
      rw [result_check_bind timely, result_read_bind loaded, result_check_bind accepted]
    · refine onlyFails_result_bind (.ok _) fun _ => ?_
      exact onlyFails_result_bind (claimActiveOperation_foreign deleteFenceName) fun _ => .ok _

theorem DeleteScans.sameFiles (h : DeleteScans sdk clock request s stored) (hs : SameFiles s t) :
    DeleteScans sdk clock request t stored := by
  have hp : ∀ op, deletePresence op s = deletePresence op t := fun op =>
    Except.ok.inj (Blind.sameFiles (blind_deletePresence op) hs)
  have hn : ensureInitUnclaimed sdk stored "prepare-delete" s =
      ensureInitUnclaimed sdk stored "prepare-delete" t := hs.ensureInitUnclaimed
  cases h with
  | retry journaled accepted prepared unmoved loaded init =>
    exact .retry ((blind_loadOperationIfPresent sdk _).sameFiles hs ▸ journaled) accepted
      prepared (hp _ ▸ unmoved) ((blind_loadStoredExact sdk _ _).sameFiles hs ▸ loaded)
      (hn ▸ init)
  | fresh journaled timely loaded accepted init =>
    exact .fresh ((blind_loadOperationIfPresent sdk _).sameFiles hs ▸ journaled) timely
      ((blind_loadRequested sdk _ _).sameFiles hs ▸ loaded) accepted (hn ▸ init)

theorem prepareDelete_agrees (hst : SameFiles s t)
    (hsm : ∀ stored, DeleteScans sdk clock request s stored →
      s.stopsAt sdk "prepare-delete" stored = t.stopsAt sdk "prepare-delete" stored) :
    AgreesAt SameFiles (prepareDelete sdk clock request) s t := by
  refine .read_bind hst (Blind.sameFiles inferInstance hst) fun journaled hj => ?_
  cases journaled with
  | some op =>
    refine .check_bind hst fun _ ha => ?_
    cases hpp : op.outcome with
    | prepared =>
      dsimp only
      refine .read_bind hst (Blind.sameFiles (blind_deletePresence op) hst) fun presence hp => ?_
      split
      · refine .read_bind hst (Blind.sameFiles inferInstance hst) fun stored hs => ?_
        refine .read_bind hst (fence_agrees hst fun hn => ?_) fun _ _ => ?_
        · exact hsm stored (.retry hj ha hpp (Except.ok.inj hp) hs hn)
        · exact Routine.agrees inferInstance _ _ hst
      all_goals exact Routine.agrees inferInstance _ _ hst
    | _ => exact Routine.agrees inferInstance _ _ hst
  | none =>
    refine .check_bind hst fun _ ht => ?_
    refine .read_bind hst (Blind.sameFiles inferInstance hst) fun stored hs => ?_
    refine .check_bind hst fun _ ha => ?_
    refine .read_bind hst (fence_agrees hst fun hn => ?_) fun _ _ => ?_
    · exact hsm stored (.fresh hj ht hs ha hn)
    · exact Routine.agrees inferInstance _ _ hst

end Delete

/-! ### Checkpoints -/

section Checkpoint

variable {clock : Clock} {request : CheckpointRequest}

/-- In this state a prepare of the checkpoint comes to list the processes of `stored`. -/
inductive CheckpointScans (sdk : Sdk) (clock : Clock) (request : CheckpointRequest) (s : Store) :
    StoredContainer → Prop
  | retry {op : StoredOperation} {stored : StoredContainer} (valid : request.validate = .ok ())
      (journaled : loadOperationIfPresent sdk request.context.operationId s = .ok (some op))
      (accepted : validateRetry op request.context.operationId .checkpoint request.target.id
        (checkpointRequestDigest sdk request) "checkpoint" = .ok ())
      (retained : op.request = some (.checkpoint request)) (prepared : op.outcome = .prepared)
      (loaded : loadStoredExact sdk op.containerId op.generation s = .ok stored)
      (source : ensureCheckpointSource stored.record = .ok ())
      (init : ensureInitUnclaimed sdk stored "checkpoint" s = .ok ()) :
      CheckpointScans sdk clock request s stored
  | fresh {stored : StoredContainer} (valid : request.validate = .ok ())
      (journaled : loadOperationIfPresent sdk request.context.operationId s = .ok none)
      (timely : validateDeadline clock request.context "checkpoint" = .ok ())
      (loaded : loadCheckpointTarget sdk request.target s = .ok stored)
      (source : ensureCheckpointSource stored.record = .ok ())
      (init : ensureInitUnclaimed sdk stored "checkpoint" s = .ok ()) :
      CheckpointScans sdk clock request s stored

theorem checkpointFenceName : FenceName "checkpoint" := by
  unfold FenceName
  decide

theorem CheckpointScans.scans (h : CheckpointScans sdk clock request s stored) :
    Scans sdk (prepareCheckpoint sdk clock request) "checkpoint" s stored := by
  cases h with
  | retry valid journaled accepted retained prepared loaded source init =>
    refine ⟨init, claimActiveOperation sdk stored request.context.operationId .checkpoint
      "checkpoint" >>= fun claimed => pure (.resume claimed.record), ?_, fun u => ?_⟩
    · unfold prepareCheckpoint
      rw [result_check_bind valid, result_read_bind journaled]
      dsimp only
      rw [result_check_bind accepted, result_rejectIf_bind (not_not.mpr retained), prepared]
      dsimp only
      rw [result_read_bind loaded, result_check_bind source]
    · exact onlyFails_result_bind (claimActiveOperation_foreign checkpointFenceName) fun _ => .ok _
  | fresh valid journaled timely loaded source init =>
    refine ⟨init, do
      commit (·.writeOperation (preparedOperation request.context.operationId .checkpoint
        stored.id stored.record.generation none (some (.checkpoint request))
        (checkpointRequestDigest sdk request)))
      let claimed ← claimActiveOperation sdk stored request.context.operationId .checkpoint
        "checkpoint"
      return .prepared claimed.record, ?_, fun u => ?_⟩
    · unfold prepareCheckpoint
      rw [result_check_bind valid, result_read_bind journaled]
      dsimp only
      rw [result_check_bind timely, result_read_bind loaded, result_check_bind source]
    · refine onlyFails_result_bind (.ok _) fun _ => ?_
      exact onlyFails_result_bind (claimActiveOperation_foreign checkpointFenceName) fun _ => .ok _

theorem CheckpointScans.sameFiles (h : CheckpointScans sdk clock request s stored)
    (hs : SameFiles s t) : CheckpointScans sdk clock request t stored := by
  have hn : ensureInitUnclaimed sdk stored "checkpoint" s =
      ensureInitUnclaimed sdk stored "checkpoint" t := hs.ensureInitUnclaimed
  cases h with
  | retry valid journaled accepted retained prepared loaded source init =>
    exact .retry valid ((blind_loadOperationIfPresent sdk _).sameFiles hs ▸ journaled) accepted
      retained prepared ((blind_loadStoredExact sdk _ _).sameFiles hs ▸ loaded) source
      (hn ▸ init)
  | fresh valid journaled timely loaded source init =>
    exact .fresh valid ((blind_loadOperationIfPresent sdk _).sameFiles hs ▸ journaled) timely
      ((blind_loadCheckpointTarget sdk _).sameFiles hs ▸ loaded) source (hn ▸ init)

theorem prepareCheckpoint_agrees (hst : SameFiles s t)
    (hsm : ∀ stored, CheckpointScans sdk clock request s stored →
      s.stopsAt sdk "checkpoint" stored = t.stopsAt sdk "checkpoint" stored) :
    AgreesAt SameFiles (prepareCheckpoint sdk clock request) s t := by
  refine .check_bind hst fun _ hv => ?_
  refine .read_bind hst (Blind.sameFiles inferInstance hst) fun journaled hj => ?_
  cases journaled with
  | some op =>
    refine .check_bind hst fun _ ha => .rejectIf_bind hst fun hr => ?_
    cases hp : op.outcome with
    | prepared =>
      dsimp only
      refine .read_bind hst (Blind.sameFiles inferInstance hst) fun stored hso => ?_
      refine .check_bind hst fun _ hs => ?_
      refine .read_bind hst (fence_agrees hst fun hn => ?_) fun _ _ => ?_
      · exact hsm stored (.retry hv hj ha (not_not.mp hr) hp hso hs hn)
      · exact Routine.agrees inferInstance _ _ hst
    | _ => exact Routine.agrees inferInstance _ _ hst
  | none =>
    refine .check_bind hst fun _ ht => ?_
    refine .read_bind hst (Blind.sameFiles inferInstance hst) fun stored hso => ?_
    refine .check_bind hst fun _ hs => ?_
    refine .read_bind hst (fence_agrees hst fun hn => ?_) fun _ _ => ?_
    · exact hsm stored (.fresh hv hj ht hso hs hn)
    · exact Routine.agrees inferInstance _ _ hst

end Checkpoint

/-! ## Methods -/

/-- The method comes to list a process directory in which the two stores stop its fence at different
    files. -/
def StoreMethod.Obstructed (s t : Store) : StoreMethod sdk → Prop
  | .call (.prepareDelete clock request) => ∃ stored, DeleteScans sdk clock request s stored ∧
      s.stopsAt sdk "prepare-delete" stored ≠ t.stopsAt sdk "prepare-delete" stored
  | .call (.prepareCheckpoint clock request) => ∃ stored, CheckpointScans sdk clock request s stored ∧
      s.stopsAt sdk "checkpoint" stored ≠ t.stopsAt sdk "checkpoint" stored
  | _ => False

theorem Routine.agree_iff (h : Routine false m) (hs : SameFiles s t) :
    (m.result s = m.result t ∧ SameFiles (m.final s) (m.final t)) ↔ ¬False :=
  iff_of_true ⟨(h.agrees s t hs).1, (h.agrees s t hs).final⟩ not_false

theorem Scans.agree_iff {scans : Store → StoredContainer → Prop} (hn : FenceName name)
    (hst : SameFiles s t) (hsc : ∀ u stored, scans u stored → Scans sdk m name u stored)
    (hsm : ∀ stored, scans s stored → scans t stored)
    (ha : (∀ stored, scans s stored → s.stopsAt sdk name stored = t.stopsAt sdk name stored) →
      AgreesAt SameFiles m s t) :
    (m.result s = m.result t ∧ SameFiles (m.final s) (m.final t)) ↔
      ¬∃ stored, scans s stored ∧ s.stopsAt sdk name stored ≠ t.stopsAt sdk name stored := by
  constructor
  · rintro ⟨hr, -⟩ ⟨stored, hs, hd⟩
    exact (hsc s stored hs).results_differ hn hst (hsc t stored (hsm stored hs)) hd hr
  · intro hc
    have hg := ha fun stored hs => by
      by_contra hd
      exact hc ⟨stored, hs, hd⟩
    exact ⟨hg.1, hg.final⟩

/-- **Transaction files matter at the process fence only.** On two stores that differ in transaction
    files a method has the same result and leaves the same files exactly if it does not come to list
    a process directory in which they stop its fence at different files. -/
theorem agree_iff_unobstructed (method : StoreMethod sdk) (hst : SameFiles s t) :
    (method.invocation.program.result s = method.invocation.program.result t ∧
      SameFiles (method.invocation.program.final s) (method.invocation.program.final t)) ↔
        ¬method.Obstructed s t := by
  cases method with
  | query query =>
    cases query <;> dsimp only [StoreMethod.invocation, Query.invocation] <;>
      exact Routine.agree_iff inferInstance hst
  | call call =>
    cases call with
    | prepareDelete clock request =>
      exact Scans.agree_iff deleteFenceName hst (fun _ _ h => h.scans) (fun _ h => h.sameFiles hst)
        (prepareDelete_agrees hst)
    | prepareCheckpoint clock request =>
      exact Scans.agree_iff checkpointFenceName hst (fun _ _ h => h.scans)
        (fun _ h => h.sameFiles hst) (prepareCheckpoint_agrees hst)
    | _ =>
      dsimp only [StoreMethod.invocation, Call.invocation]
      exact Routine.agree_iff inferInstance hst

/-- The container's directory after an interrupted write of a process record. -/
def ContainerDirectory.interruptProcessWrite (d : ContainerDirectory) (id : ContainerId)
    (processId : ProcessId) : ContainerDirectory :=
  if d.record.any (·.id = id) then
    { d with processes := d.processes.map fun ps =>
        { ps with transactions := processId :: ps.transactions } }
  else d

/-- An interrupted write of a process record leaves its transaction file behind. -/
def Store.interruptProcessWrite (s : Store) (id : ContainerId) (processId : ProcessId) : Store :=
  { s with containers := s.containers.map (·.interruptProcessWrite id processId) }

theorem sameFiles_interruptProcessWrite (s : Store) (id : ContainerId) (processId : ProcessId) :
    SameFiles (s.interruptProcessWrite id processId) s := by
  have hd : ∀ d : ContainerDirectory, (d.interruptProcessWrite id processId).bare = d.bare := by
    intro d
    unfold ContainerDirectory.interruptProcessWrite
    split
    · simp only [ContainerDirectory.bare, Option.map_map]
      rfl
    · rfl
  refine sameFiles_iff.mpr ⟨rfl, rfl, ?_, rfl, rfl, rfl⟩
  simp only [Store.interruptProcessWrite, Directory.map_map, Function.comp_def, hd]

namespace Sample

/-- A run that dies while it writes the record of the process it executes. -/
def executing : List Store :=
  visited Call.run .empty
    [(create opA, 9), (created opA, 9), (start opB, 9), (started opB, 9), (exec opC, 2)]

def bash : ProcessId := ⟨⟨"bash", by decide⟩⟩

/-- The exec has been prepared: `shell` has a record, which it claims. -/
def claimed : Store :=
  (visited Call.run .empty [(create opA, 9), (created opA, 9), (start opB, 9), (started opB, 9),
    (exec opC, 9)]).getLastD .empty

end Sample

/-- The fence stops at the record of the claimed process, which is listed before the leftover file. -/
theorem agree_iff_unobstructed_claimed : (Sample.delete Sample.opD).invocation.program.result
        (Sample.claimed.interruptProcessWrite Sample.web Sample.bash) =
      (Sample.delete Sample.opD).invocation.program.result Sample.claimed := by
  have hsm := sameFiles_interruptProcessWrite Sample.claimed Sample.web Sample.bash
  refine ((agree_iff_unobstructed (.call (Sample.delete Sample.opD)) hsm).mpr ?_).1
  rintro ⟨stored, hs, hd⟩
  cases hs with
  | retry journaled =>
    have hn : (loadOperationIfPresent Sample.sdk Sample.opD (Sample.claimed.interruptProcessWrite
        Sample.web Sample.bash)).toOption.all Option.isNone = true := by decide +kernel
    rw [show loadOperationIfPresent _ _ _ = _ from journaled] at hn
    cases hn
  | fresh journaled timely loaded =>
    have hn : (loadRequested Sample.sdk Sample.target "prepare-delete"
        (Sample.claimed.interruptProcessWrite Sample.web Sample.bash)).toOption.all (fun stored =>
          (Sample.claimed.interruptProcessWrite Sample.web Sample.bash).stopsAt Sample.sdk
            "prepare-delete" stored = Sample.claimed.stopsAt Sample.sdk "prepare-delete" stored) =
              true := by decide +kernel
    rw [show loadRequested _ _ _ _ = _ from loaded] at hn
    exact hd (of_decide_eq_true hn)

/-- **A leftover transaction file blocks the delete.** Without it the delete of the running container
    is granted; with it the fence rejects the directory. -/
theorem leftover_blocks_delete : Trace Sample.sdk Sample.executing ∧
      SameFiles ((Sample.executing.getLastD .empty).interruptProcessWrite Sample.web Sample.shell)
        (Sample.executing.getLastD .empty) ∧
      (Sample.delete Sample.opD).run.result (Sample.executing.getLastD .empty) = .ok .granted ∧
      (Sample.delete Sample.opD).run.result
          ((Sample.executing.getLastD .empty).interruptProcessWrite Sample.web Sample.shell) =
        .error (blocked "prepare-delete" (processTransactionName Sample.shell)) :=
  ⟨Trace.visited _, sameFiles_interruptProcessWrite _ _ _, by decide +kernel, by decide +kernel⟩

end OciRuntime
