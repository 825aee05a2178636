import OciRuntime.Property.Finality

/-!
# `OciRuntime.Property.FailedCreation` — retries of a failed creation

A failed create or restore is journaled before its directory is moved to the quarantine, so every
retry finishes the move and then returns the recorded error. The cleanup gets stuck on a directory
without a record, on a claim of another operation, and on a newer generation of an id whose failed
one was never moved: `CleanupReady` is the state without these.

## Contents
- **Cleanup.** `CleanupReady`, `Vacated`, `cleanup_delivers`.
- **Retries.** `failed_creation_retry` and the directory that stays.
-/

namespace OciRuntime

open Durable Program

variable {sdk : Sdk} {s t : Store} {op : StoredOperation} {e : Error}

/-! ## Cleanup -/

/-- The state in which a retry finds what is left of a failed creation. -/
inductive CleanupReady (t : Store) (op : StoredOperation) : Prop
  | absent (gone : t.containers.get? op.containerId = none)
  | own {c : StoredContainer} (record : t.recordOf op.containerId = some c)
      (generation : c.record.generation = op.generation)
      (claim : c.activeOperation = none ∨ c.activeOperation = some op.operationId)
      (unmoved : t.quarantine.get? (failedCreationTombstone op) = none)
  | reused {c : StoredContainer} (record : t.recordOf op.containerId = some c)
      (generation : c.record.generation ≠ op.generation)
      (moved : (t.quarantine.get? (failedCreationTombstone op)).isSome = true)

/-- The id is free, or another generation has it. -/
def Vacated (t : Store) (op : StoredOperation) : Prop :=
  t.containers.get? op.containerId = none ∨
    ∃ c, t.recordOf op.containerId = some c ∧ c.record.generation ≠ op.generation

theorem Sound.live_of_recordOf {id : ContainerId} {c : StoredContainer} (hs : Sound sdk t)
    (h : t.recordOf id = some c) : Live sdk t id c ∧ (t.containers.get? id).isSome = true := by
  obtain ⟨d, hd, hc⟩ := recordOf_eq_some.mp h
  exact ⟨⟨d, hd, ((hs.containers id d hd).record c hc).loadable⟩, by rw [hd]; rfl⟩

theorem cleanup_delivers (hs : Sound sdk t) (hk : op.kind.isCreation = true)
    (hf : op.outcome = .failed e) (h : CleanupReady t op) :
    Delivers (fun _ _ => True) (reconcileFailedCreation sdk op) t fun _ u => Vacated u op := by
  refine .rejectIf_bind (by simp [hk]) ?_
  refine .rejectIf_bind (by simp [hf, StoredOperationStatus.isFailed]) ?_
  refine .read_bind rfl (.read_bind rfl ?_)
  cases h with
  | absent gone =>
    rw [gone]
    exact .pure (.inl gone)
  | own record generation claim unmoved =>
    obtain ⟨hl, hdr⟩ := hs.live_of_recordOf record
    rw [hdr, unmoved]
    refine .read_bind (loadStoredExact_ok.mpr ⟨hl, generation⟩) ?_
    refine .check_bind (ensureActiveOperation_ok.mpr claim) (.commit trivial (.inl ?_))
    obtain ⟨d, hd, -⟩ := hl
    rw [Store.quarantineContainer_eq hd]
    exact Directory.get?_remove_self _ _
  | reused record generation moved =>
    obtain ⟨hl, hdr⟩ := hs.live_of_recordOf record
    rw [hdr, moved]
    refine .read_bind (loadStoredContainer_ok.mpr hl) ?_
    rw [rejectIf, if_neg generation]
    exact .pure (.inr ⟨_, record, generation⟩)

/-! ## Retries -/

/-- The call returns exactly `e`, and leaves the id of the creation free or reused. -/
def Returns {α : Type} (e : Error) (op : StoredOperation) (m : StoreM α) (t : Store) : Prop :=
  m.result t = .error e ∧ Vacated (m.final t) op

theorem Returns.of_ensures {α : Type} {m : StoreM α}
    (h : Ensures (fun _ _ => True) m t fun r u => r = .error e ∧ Vacated u op) : Returns e op m t :=
  h.2

/-- A cleanup that succeeds, and then the recorded error. -/
theorem ensures_cleanup {α : Type} {m : StoreM Unit}
    (hm : Delivers (fun _ _ => True) m t fun _ u => Vacated u op) :
    Ensures (fun _ _ => True) (m >>= fun _ => (throw e : StoreM α)) t
      fun r u => r = .error e ∧ Vacated u op := by
  refine Ensures.bind hm ?_ ?_
  · rintro _ u ⟨_, -, hv⟩
    exact ensures_throw.mpr ⟨rfl, hv⟩
  · rintro _ _ ⟨_, ha, -⟩
    cases ha

section
variable (hs : Sound sdk t) (hop : t.operations.get? op.operationId = some op)
include hs hop

theorem Sound.loadIfPresent : loadOperationIfPresent sdk op.operationId t = .ok (some op) := by
  have hok := hs.operations _ _ hop
  have hl : loadOperation sdk op.operationId t = .ok op :=
    loadOperation_ok.mpr ⟨hop, by rw [hok.schema]; rfl, rfl, hok.shape⟩
  simp [loadOperationIfPresent, hop, hl, Except.map]

variable (hf : op.outcome = .failed e) (h : CleanupReady t op)
include hf h

theorem prepareCreate_failed {request : CreateRequest} (hval : request.validate sdk = .ok ())
    (ho : request.context.operationId = op.operationId)
    (hrt : validateCreateRetry op request (createRequestDigest sdk request inherited) = .ok ()) :
    Returns e op (prepareCreate sdk clock request driver inherited) t := by
  obtain ⟨hk, -⟩ := validateRetry_ok hrt
  have hc : op.kind.isCreation = true := by rw [hk]; rfl
  unfold prepareCreate
  rw [ho]
  refine .of_ensures (.read_bind hval (.read_bind (hs.loadIfPresent hop) (.read_bind hrt ?_)))
  rw [hf]
  exact ensures_cleanup (.rejectIf_bind (by simp [hk]) (cleanup_delivers hs hc hf h))

omit hop in
theorem cleanup_restore {request : RestoreRequest}
    (hrt : validateRestoreRetry op request digest = .ok ()) :
    Delivers (fun _ _ => True) (reconcileFailedRestore sdk op) t fun _ u => Vacated u op := by
  obtain ⟨hrt, -⟩ := unit_bind_eq_ok.mp hrt
  obtain ⟨hk, -⟩ := validateRetry_ok hrt
  exact .rejectIf_bind (by simp [hk]) (cleanup_delivers hs (by rw [hk]; rfl) hf h)

section
variable {request : RestoreRequest} (hval : request.validate sdk = .ok ())
  (ho : request.context.operationId = op.operationId)
  (hdg : restoreRequestDigest sdk request = .ok digest)
  (hrt : validateRestoreRetry op request digest = .ok ())
include hval ho hdg hrt

theorem prepareRestore_failed : Returns e op (prepareRestore sdk clock request driver) t := by
  unfold prepareRestore
  rw [ho]
  refine .of_ensures (.read_bind hval (.read_bind hdg (.read_bind (hs.loadIfPresent hop) ?_)))
  refine Ensures.read_bind hrt ?_
  rw [hf]
  exact ensures_cleanup (cleanup_restore hs hf h hrt)

theorem lookupRestore_failed : Returns e op (lookupRestore sdk request) t := by
  unfold lookupRestore
  rw [ho]
  refine .of_ensures (.read_bind hval (.read_bind hdg (.read_bind (hs.loadIfPresent hop) ?_)))
  refine Ensures.read_bind hrt ?_
  rw [hf]
  exact ensures_cleanup (cleanup_restore hs hf h hrt)

end

end

/-- **A failed creation keeps failing.** Once an error is journaled for a create or restore, in every
    later state that is `CleanupReady` every retry of the same request returns exactly that error and
    leaves the id to other generations. -/
theorem failed_creation_retry {l before later : List Store} (htr : Trace sdk l)
    (hl : .empty :: l = before ++ s :: later) (hop : s.operations.get? op.operationId = some op)
    (hf : op.outcome = .failed e) (ht : t ∈ s :: later) (hr : CleanupReady t op) :
    (∀ clock driver inherited (request : CreateRequest), request.validate sdk = .ok () →
      request.context.operationId = op.operationId →
      validateCreateRetry op request (createRequestDigest sdk request inherited) = .ok () →
      Returns e op (prepareCreate sdk clock request driver inherited) t) ∧
    ∀ clock driver digest (request : RestoreRequest), request.validate sdk = .ok () →
      request.context.operationId = op.operationId →
      restoreRequestDigest sdk request = .ok digest →
      validateRestoreRetry op request digest = .ok () →
      Returns e op (prepareRestore sdk clock request driver) t ∧
        Returns e op (lookupRestore sdk request) t := by
  obtain ⟨hs, hk⟩ := htr.later hl (I := KeepsOutcomes s)
    (fun x y hx hxy => hx.trans hxy.choose_spec.keepsOutcomes) (.refl s) t ht
  -- a failure is kept as it is: only responses carry a process id
  have hop : t.operations.get? op.operationId = some op := by
    obtain ⟨outcome, hop, hsm⟩ := hk _ op hop (by simp [hf])
    rw [hf] at hsm
    cases hsm
    rwa [← hf] at hop
  exact ⟨fun _ _ _ _ => prepareCreate_failed hs hop hf hr, fun _ _ _ _ hval ho hdg hrt =>
    ⟨prepareRestore_failed hs hop hf hr hval ho hdg hrt,
      lookupRestore_failed hs hop hf hr hval ho hdg hrt⟩⟩

/-- The states of a run that fails the create of `web` after `k` commits. -/
def Sample.failedCreate (k : Nat) : List Store :=
  Program.visited Call.run .empty [(Sample.create Sample.opA, k), (Sample.fail Sample.opA, 9)]

def Sample.createRequest : CreateRequest where
  context := ⟨Sample.opA, none⟩
  id := Sample.web
  bundle := Sample.bundle
  isolation := .sharedHostKernel
  attachments := ⟨none, "manifest"⟩

/-- The failed container was moved away, and the retry finds its error. -/
theorem failed_creation_retry_moved : ∃ op,
    ((Sample.failedCreate 9).getLastD .empty).operations.get? Sample.opA = some op ∧
    Returns (.new .internal "driver failure") op
      (prepareCreate Sample.sdk Sample.clock Sample.createRequest .nativeLinux none)
      ((Sample.failedCreate 9).getLastD .empty) := by
  have hen : (((Sample.failedCreate 9).getLastD .empty).operations.get? Sample.opA).map
      (fun op => decide (op.operationId = Sample.opA ∧ op.containerId = Sample.web ∧
        op.outcome = .failed (.new .internal "driver failure") ∧
        validateCreateRetry op Sample.createRequest ⟨"legacy", "canonical"⟩ = .ok ())) =
      some true := by decide +kernel
  obtain ⟨op, hop, hfd⟩ := Option.map_eq_some_iff.mp hen
  obtain ⟨ho, hc, hf, hrt⟩ := of_decide_eq_true hfd
  have ht : Trace Sample.sdk (Sample.failedCreate 9) := Trace.visited _
  have hg : ((Sample.failedCreate 9).getLastD .empty).containers.get? Sample.web = none := by
    decide +kernel
  exact ⟨op, hop, (failed_creation_retry ht (cons_eq_dropLast_append _ _) (ho ▸ hop) hf
    List.mem_cons_self (.absent (hc ▸ hg))).1 _ _ none Sample.createRequest rfl ho.symm hrt⟩

/-- **A directory that stays.** A create that was cut between its directory and its record is failed:
    its retry does not return the recorded error, and the id stays taken. -/
theorem failed_creation_stuck :
    ∃ l, Trace Sample.sdk l ∧ ((l.getLastD .empty).operations.get? Sample.opA).map (·.outcome) =
        some (.failed (.new .internal "driver failure")) ∧
      (Sample.create Sample.opA).run.result (l.getLastD .empty) ≠
        .error (.new .internal "driver failure") ∧
      (((Sample.create Sample.opA).run.final (l.getLastD .empty)).containers.get?
        Sample.web).isSome = true :=
  ⟨Sample.failedCreate 3, Trace.visited _, by decide +kernel⟩

end OciRuntime
