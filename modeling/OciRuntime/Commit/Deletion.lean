import OciRuntime.Commit.Creation

/-!
# `OciRuntime.Commit.Deletion` — delete

A delete moves the whole directory to quarantine in one commit and settles afterwards. Between the
two it holds no claim, because the record that carried the claim is gone; the ID may already have
been reused by a later generation when the delete is retried.
-/

namespace OciRuntime

open Durable Program

variable {clock : Clock}

theorem appendDeleteEvent_spec (hs : Sound sdk s) :
    Emits sdk actor (appendDeleteEvent clock op) s := by
  refine hs.bind (appendStoppedEvent_spec hs) fun _ t ht hst => ?_
  refine Yields.mono (appendContainerEvent_spec ht rfl fun _ hc hk =>
    .ended hc (.inr ⟨rfl, hk⟩)) ?_
  intro _ u htu
  exact hst.trans htu

/-- A delete whose container is gone, or was replaced by another generation, is settled. -/
theorem settleDelete_spec (h : Pending sdk s op) (hk : op.kind = .delete)
    (hr : ∀ t, Sound sdk t → OnlyEvents s t → ¬HoldsClaim t op) :
    Settles sdk op.operationId (settleDelete clock op) s := by
  refine h.sound.bind (appendDeleteEvent_spec h.sound) fun _ t ht hs => ?_
  exact (settle_spec (h.congr ht hs.operations) (h.ok.plain hk rfl rfl (by simp))
    (.inl (hr t ht hs)) (.other (by rw [hk]; rfl) (fun _ => rfl) trivial)).mono
    fun _ _ h => h.2

theorem not_holdsClaim_of_moved (ha : s.containers.get? op.containerId = none) :
    ∀ t, Sound sdk t → OnlyEvents s t → ¬HoldsClaim t op := by
  intro t _ hs
  refine not_holdsClaim_of_absent ?_
  rw [hs.containers]
  exact ha

theorem not_holdsClaim_of_replaced (ho : s.operations.get? op.operationId = some op)
    (h : ensureLiveGenerationReplaced sdk op name s = .ok ()) :
    ∀ t, Sound sdk t → OnlyEvents s t → ¬HoldsClaim t op := by
  intro t ht hs
  unfold ensureLiveGenerationReplaced at h
  simp only [bind_eq_ok, rejectIf_eq_ok] at h
  obtain ⟨live, hl, hg⟩ := h
  have hl := (loadStoredContainer_ok.mp hl).congr (t := t) (by rw [hs.containers])
  refine ht.not_holdsClaim_of_generation ?_ hl hg
  rw [hs.operations]
  exact ho

theorem resumeDelete_spec (h : Pending sdk s op)
    (hi : op.operationId = r.context.operationId) (hk : op.kind = .delete) :
    Prepares sdk op.operationId (resumeDelete sdk clock r op) s := by
  unfold resumeDelete
  rw [← hi]
  refine .read_bind fun presence hp => ?_
  have hp : deletePresence op s = presence := Except.ok.inj hp
  unfold deletePresence at hp
  split
  · -- the directory is still in place
    refine .read_bind fun stored hst => ?_
    have h := h.on (loadStoredExact_ok.mp hst)
    refine .read_bind fun _ hf => ?_
    exact claim_spec h (isLifecycle_of_kind hk rfl)
      (fun _ => ensureNoActiveProcessOperations_ok h.live hf) fun _ ht => ht
  · have ha : s.containers.get? op.containerId = none := by
      simpa using (Prod.ext_iff.mp hp).1
    refine Yields.bind (settleDelete_spec h hk (not_holdsClaim_of_moved ha)) ?_
    intro _ t hs
    exact .pure hs
  · refine .read_bind fun _ hr => ?_
    refine Yields.bind (settleDelete_spec h hk (not_holdsClaim_of_replaced h.found hr)) ?_
    intro _ t hs
    exact .pure hs
  · exact .throw

theorem prepareDelete_spec (hs : Sound sdk s) :
    Prepares sdk r.context.operationId (prepareDelete sdk clock r) s := by
  refine yields_lookup (fun op hop hi => ?_) fun hn => ?_
  · rw [← hi]
    refine .check_bind fun _ hr => ?_
    obtain ⟨hk, -⟩ := validateRetry_ok hr
    split
    · rename_i hp
      exact resumeDelete_spec ⟨hs, hop, hp⟩ hi hk
    · rename_i ho
      exact .pure ⟨op, hop, by simp [ho]⟩
    · exact .throw
    · exact .throw
  · refine .check_bind fun _ _ => ?_
    refine .read_bind fun stored hst => ?_
    obtain ⟨hl, -⟩ := loadRequested_ok hst
    refine .check_bind fun _ _ => ?_
    refine .read_bind fun _ hf => ?_
    exact journal_spec hs hn hl rfl ⟨rfl, rfl⟩ nofun
      (fun _ => ensureNoActiveProcessOperations_ok hl hf) fun _ ht => ht

/-- After the move no claim of the delete is left. -/
theorem moveDeleted_spec (ho : s.operations.get? op.operationId = some op)
    (hk : op.kind = .delete) (hpp : op.outcome = .prepared) :
    Yields (Write sdk (some op.operationId)) (moveDeleted sdk op) s fun _ t =>
      t.operations = s.operations ∧ ∀ u, Sound sdk u → OnlyEvents t u → ¬HoldsClaim u op := by
  refine .read_bind fun presence hp => ?_
  have hp : deletePresence op s = presence := Except.ok.inj hp
  unfold deletePresence at hp
  split
  · refine .read_bind fun stored hs => ?_
    obtain ⟨⟨d, hd, hl⟩, hg⟩ := loadStoredExact_ok.mp hs
    refine .check_bind fun _ hac => ?_
    have ha : s.quarantine.get? (deleteTombstone op.operationId) = none := by
      simpa using (Prod.ext_iff.mp hp).2
    have hw : Write sdk (some op.operationId) s _ := .quarantine ⟨ho, rfl, rfl⟩ rfl hd hl
      hg (ensureActiveOperation_ok.mp hac) ha (.deleted hk hpp)
    rw [← Store.quarantineContainer_eq hd] at hw
    refine .commit hw ?_
    rw [Store.quarantineContainer_eq hd]
    exact ⟨rfl, not_holdsClaim_of_moved (Directory.get?_remove_self _ _)⟩
  · have ha : s.containers.get? op.containerId = none := by
      simpa using (Prod.ext_iff.mp hp).1
    exact .pure ⟨rfl, not_holdsClaim_of_moved ha⟩
  · refine yields_read fun _ hr => ⟨rfl, not_holdsClaim_of_replaced ho hr⟩
  · exact .throw

theorem emptyOutcome_ok (h : emptyOutcome oc invalid = .ok done) :
    (done = true → oc = .succeededEmpty) ∧ (done = false → oc = .prepared) := by
  cases oc <;> cases h <;> simp

/-- The completion of an operation whose success carries no response. -/
theorem Sound.emptyCompletion {kind : StoredOperationKind}
    {wrong invalid : StoredOperation → Error} {next : StoredOperation → StoreM Unit}
    (hs : Sound sdk s)
    (hpn : ∀ op, Pending sdk s op → op.operationId = o → op.kind = kind → Settles sdk o (next op) s) :
    Settles sdk o (read (loadOperation sdk o) >>= fun op =>
      rejectIf (op.kind ≠ kind) (wrong op) >>= fun _ =>
        check (emptyOutcome op.outcome (invalid op)) >>= fun done =>
          if done then pure () else next op) s := by
  refine .read_bind fun op hl => ?_
  obtain ⟨ho, hi⟩ := loadOperation_found hl
  refine .rejectIf_bind fun hk => ?_
  refine .check_bind fun done hd => ?_
  obtain ⟨hd, hp⟩ := emptyOutcome_ok hd
  split
  · rename_i hst
    exact .pure ⟨op, hi ▸ ho, by simp [hd hst]⟩
  · rename_i hu
    exact hpn op ⟨hs, ho, hp (by simpa using hu)⟩ hi (not_not.mp hk)

theorem completeDelete_spec (hs : Sound sdk s) : Settles sdk o (completeDelete sdk clock o) s := by
  refine hs.emptyCompletion ?_
  rintro op h rfl hk
  refine hs.bind (moveDeleted_spec h.found hk h.prepared) ?_
  rintro _ t ht ⟨ho, hr⟩
  exact settleDelete_spec (h.congr ht ho) hk hr

end OciRuntime
