import OciRuntime.Shim.Ledger

/-!
# `OciRuntime.Shim.Takeover` — what restoring a task does to the exit ledger

A replacement shim learns exits at two places only: the exit of the init process when the runtime
finds the container stopped, and the exit of an exec that was being signalled. From there on the
ledger is fixed: replaying operations and adopting execs are updates, which leave it alone, so every
write of the file and the task in memory carry the same one.

## Contents
- **Learned exits.** `TaskState.LearnsExits`, `recoverStoppedInitExit_learns`,
  `recoverPendingExecSignalExits_learns`.
- **Nothing to learn.** `Uneventful`, under which both leave the task as it is.
- **The whole.** `restoreTask_ledger`.
-/

namespace OciRuntime

open Durable Program

variable {answers : RestoreAnswers}

variable {task after : TaskState} {metadata : ShimMetadata}

/-! ## Learned exits -/

/-- `after` is numbered and has learned from `before`. -/
def TaskState.LearnsExits (before after : TaskState) : Prop :=
  before.ledger.Learns after.ledger ∧ after.ledger.Numbered

theorem TaskState.LearnsExits.refl (h : task.ledger.Numbered) : task.LearnsExits task :=
  ⟨(ExitLedger.Keeps.refl _).learns, h⟩

theorem TaskState.LearnsExits.of_records (h : task.ledger.Numbered) (exit : ExitStatus)
    (time : Nat) (hn : (key, none) ∈ task.ledger.entries)
    (hr : task.ledger.Records after.ledger key (exit, some time)) : task.LearnsExits after :=
  ⟨hr.learns hn (by rintro _ ⟨⟩), hr.numbered h⟩

theorem recoverStoppedInitExit_learns (hnum : task.ledger.Numbered)
    (h : recoverStoppedInitExit answers task = .ok after) : task.LearnsExits after := by
  unfold recoverStoppedInitExit at h
  split at h
  · cases h
    exact .refl hnum
  · rename_i hw
    obtain ⟨exit, -, h⟩ := bind_eq_ok.mp h
    cases h
    have hn : task.exit = none := by
      rw [not_or, Bool.not_eq_true, Option.isSome_eq_false_iff, Option.isNone_iff_eq_none] at hw
      exact hw.1
    have he : (none, none) ∈ task.ledger.entries := by
      refine List.mem_cons.mpr (.inl ?_)
      simp only [metadataFromTask, ProcessJournal.recordedExit, hn, Option.map_none]
    refine TaskState.LearnsExits.of_records hnum exit (answers.now none) he
      ⟨rfl, rfl, rfl, List.mem_cons_self, fun entry hen => ?_⟩
    rcases List.mem_cons.mp hen with rfl | hen
    · exact .inr rfl
    · exact .inl (List.mem_cons_of_mem _ hen)

/-- The exec still has no exit in the ledger. -/
theorem awaitsSignalExit_entry (h : awaitsSignalExit exec = true) :
    exec.entry = (some exec.identity, none) := by
  simp only [awaitsSignalExit, Bool.and_eq_true, Option.isNone_iff_eq_none] at h
  simp only [ExecMetadata.entry, ProcessJournal.recordedExit, h.1.2, Option.map_none]

section
variable (hnum : task.ledger.Numbered)
include hnum

theorem recoverExecSignalExit_learns (hx : (some exec.identity, none) ∈ task.ledger.entries)
    (h : recoverExecSignalExit answers task exec = .ok after) :
    task.LearnsExits after ∧ ∀ other : ExecMetadata, other.execId ≠ exec.execId →
      (some other.identity, none) ∈ task.ledger.entries →
      (some other.identity, none) ∈ after.ledger.entries := by
  simp only [recoverExecSignalExit, bind_eq_ok] at h
  obtain ⟨answer, -, h⟩ := h
  cases answer with
  | none =>
    cases h
    exact ⟨.refl hnum, fun _ _ ht => ht⟩
  | some exit =>
    cases h
    -- the entry belongs to an exec of the task with the same identity
    have hm : ∃ found ∈ task.execs, found.entry = (some exec.identity, none) := by
      rcases List.mem_cons.mp hx with hn | hx
      · cases hn
      · exact List.mem_map.mp hx
    obtain ⟨found, hf, hen⟩ := hm
    have hd : found.identity = exec.identity :=
      Option.some.inj (congrArg Prod.fst hen)
    have hi : found.execId = exec.execId := congrArg ExecIdentity.execId hd
    have hr := TaskState.modifyExec_records hnum hf (fun state => { state with
        stage := .exited
        exit := some exit
        exitedAt := some (answers.now (some exec.identity)) })
      (exit, some (answers.now (some exec.identity))) (fun _ => rfl) (fun _ => rfl)
    rw [hi, hd] at hr
    refine ⟨.of_records hnum _ _ hx hr, fun other ht hm => ?_⟩
    rcases List.mem_cons.mp hm with hn | hm
    · cases hn
    · obtain ⟨before, hb, hs⟩ := List.mem_map.mp hm
      have ho : before.execId = other.execId :=
        congrArg ExecIdentity.execId (Option.some.inj (congrArg Prod.fst hs))
      rw [← hs]
      refine List.mem_cons_of_mem _ (List.mem_map.mpr ⟨before, ?_, rfl⟩)
      refine List.mem_map.mpr ⟨before, hb, ?_⟩
      rw [if_neg (ho ▸ ht)]

/-- The execs are visited one after the other; none is visited twice, so each still waits for its
    exit when its turn comes. -/
theorem recoverExecSignalExits_learns {execs : List ExecMetadata}
    (hd : (execs.map (·.execId)).Nodup)
    (hw : ∀ exec ∈ execs, (some exec.identity, none) ∈ task.ledger.entries)
    (h : execs.foldlM (recoverExecSignalExit answers) task = .ok after) :
    task.LearnsExits after := by
  induction execs generalizing task with
  | nil =>
    cases h
    exact .refl hnum
  | cons exec rest ih =>
    rw [List.foldlM_cons] at h
    obtain ⟨next, hn, h⟩ := bind_eq_ok.mp h
    rw [List.map_cons, List.nodup_cons] at hd
    obtain ⟨hl, htr⟩ :=
      recoverExecSignalExit_learns hnum (hw exec List.mem_cons_self) hn
    have hr := ih hl.2 hd.2 (fun other ht =>
      htr other (fun heq => hd.1 (heq ▸ List.mem_map_of_mem ht))
        (hw other (List.mem_cons_of_mem _ ht))) h
    exact ⟨hl.1.trans hr.1, hr.2⟩

theorem TaskState.nodup_execIds : (task.execs.map (·.execId)).Nodup := by
  have hd := hnum.distinct
  rw [TaskState.ledger, ShimMetadata.ledger, List.map_cons, List.nodup_cons, List.map_map] at hd
  have hs : (task.execs.map (·.execId)).map some =
      (metadataFromTask task).execs.map ((fun entry : Option ExecIdentity × Option RecordedExit =>
        entry.1.map (·.execId)) ∘ fun exec => exec.entry) := by
    rw [List.map_map]
    rfl
  rw [← hs] at hd
  exact hd.2.of_map _

theorem recoverPendingExecSignalExits_learns
    (h : recoverPendingExecSignalExits answers task = .ok after) : task.LearnsExits after := by
  refine recoverExecSignalExits_learns hnum ?_ (fun exec hx => ?_) h
  · exact (TaskState.nodup_execIds hnum).sublist (List.filter_sublist.map _)
  · obtain ⟨hm, ha⟩ := List.mem_filter.mp hx
    rw [← awaitsSignalExit_entry ha]
    exact TaskState.entry_mem_ledger hm

end

/-! ## Nothing to learn -/

/-- The runtime has no exit that the file lacks: neither for a stopped container, nor for an exec
    that was being signalled. -/
def RestoreAnswers.Uneventful (answers : RestoreAnswers) (metadata : ShimMetadata) : Prop :=
  (metadata.exit = none → ∀ record, answers.record = .ok record →
    record.state.status = .stopped → ∀ exit, answers.initExit ≠ .ok exit) ∧
  ∀ exec ∈ metadata.execs, awaitsSignalExit exec = true →
    ∀ exit, answers.execExit exec.identity ≠ .ok (some exit)

theorem recoverStoppedInitExit_uneventful
    (hn : task.exit = none → task.record.state.status = .stopped →
      ∀ exit, answers.initExit ≠ .ok exit) (h : recoverStoppedInitExit answers task = .ok after) :
    after = task := by
  unfold recoverStoppedInitExit at h
  split at h
  · exact (Except.ok.inj h).symm
  · rename_i hw
    obtain ⟨exit, hx, -⟩ := bind_eq_ok.mp h
    rw [not_or, Bool.not_eq_true, Option.isSome_eq_false_iff, Option.isNone_iff_eq_none,
      not_not] at hw
    exact absurd hx (hn hw.1 hw.2 exit)

theorem recoverExecSignalExits_uneventful {execs : List ExecMetadata}
    (hns : ∀ exec ∈ execs, ∀ exit, answers.execExit exec.identity ≠ .ok (some exit))
    (h : execs.foldlM (recoverExecSignalExit answers) task = .ok after) : after = task := by
  induction execs with
  | nil => exact (Except.ok.inj h).symm
  | cons exec rest ih =>
    rw [List.foldlM_cons] at h
    obtain ⟨next, hn, h⟩ := bind_eq_ok.mp h
    simp only [recoverExecSignalExit, bind_eq_ok] at hn
    obtain ⟨answer, ha, hn⟩ := hn
    cases answer with
    | none =>
      cases hn
      exact ih (fun other ht => hns other (List.mem_cons_of_mem _ ht)) h
    | some exit => exact absurd ha (hns exec List.mem_cons_self exit)

/-! ## The whole -/

theorem rehydrateTask_eq_ok (h : rehydrateTask ids answers namespace_ taskId metadata = .ok task) :
    ∃ rc, answers.record = .ok rc ∧ task.record = rc ∧ task.exit = metadata.exit ∧
      task.execs = metadata.execs ∧ task.ledger = metadata.ledger := by
  simp only [rehydrateTask, bind_eq_ok, rejectIf_eq_ok, not_or, not_not] at h
  obtain ⟨identity, -, -, -, rc, hr, -, hs, restoreState, -, h⟩ := h
  cases h
  refine ⟨rc, hr, rfl, rfl, rfl, ?_⟩
  simp only [TaskState.ledger, ShimMetadata.ledger, metadataFromTask, ShimMetadata.rehydrate, hs.1]

theorem recoverTask_learns {namespace_ taskId : String} (hnum : metadata.ledger.Numbered)
    (h : recoverTask answers ids namespace_ taskId metadata = .ok task) :
    metadata.ledger.Learns task.ledger ∧ task.ledger.Numbered ∧
      (answers.Uneventful metadata → task.ledger = metadata.ledger) := by
  simp only [recoverTask, bind_eq_ok] at h
  obtain ⟨rehydrated, hr, stopped, hst, h⟩ := h
  obtain ⟨record, hrc, hrd, hx, hxs, hl⟩ := rehydrateTask_eq_ok hr
  rw [← hl] at hnum ⊢
  have hn := recoverStoppedInitExit_learns hnum hst
  have hs := recoverPendingExecSignalExits_learns hn.2 h
  refine ⟨hn.1.trans hs.1, hs.2, fun hq => ?_⟩
  have hsm : stopped = rehydrated := by
    refine recoverStoppedInitExit_uneventful (fun hnn hstt => ?_) hst
    exact hq.1 (hx ▸ hnn) record hrc (hrd ▸ hstt)
  subst hsm
  have hls : task = stopped := by
    refine recoverExecSignalExits_uneventful (fun exec hxc => ?_) h
    obtain ⟨hm, ha⟩ := List.mem_filter.mp hxc
    exact hq.2 exec (hxs ▸ hm) ha
  rw [hls]

/-- **Restoring fixes one ledger.** Every write of the file and the restored task carry it. It has
    learned from the file, and is the file's own when there was nothing to learn. -/
theorem restoreTask_ledger (ids : ShimIdentities) (answers : RestoreAnswers)
    (documents : String → Json) (namespace_ taskId dr : String)
    (hnum : metadata.ledger.Numbered) :
    ∃ ledger, metadata.ledger.Learns ledger ∧ ledger.Numbered ∧
      (answers.Uneventful metadata → ledger = metadata.ledger) ∧
      Yields (Holds fun task => task.ledger = ledger)
        (restoreTask ids answers documents namespace_ taskId dr) (some metadata)
        fun result _ => ∀ task, result = some task → task.ledger = ledger := by
  -- what the restore does once the exits are known
  have hrs : ∀ ledger : ExitLedger, ledger.Numbered →
      (∀ task, recoverTask answers ids namespace_ taskId metadata = .ok task →
        task.ledger = ledger) →
      Yields (Holds fun task => task.ledger = ledger)
        (restoreTask ids answers documents namespace_ taskId dr) (some metadata)
        fun result _ => ∀ task, result = some task → task.ledger = ledger := by
    intro ledger hl hrr
    refine (restoreTask_invariant (fun task after ht hu => ?_)
      fun stored task hs _ ht => ?_).mono fun result _ h task hr => (h task hr).1
    · exact (hu.ledger (ht ▸ hl)).trans ht
    · cases hs
      exact hrr task ht
  cases hrr : recoverTask answers ids namespace_ taskId metadata with
  | error error =>
    refine ⟨metadata.ledger, (ExitLedger.Keeps.refl _).learns, hnum, fun _ => rfl, ?_⟩
    exact hrs _ hnum fun task ht => by rw [hrr] at ht; cases ht
  | ok task =>
    obtain ⟨hlr, ht, hq⟩ := recoverTask_learns hnum hrr
    refine ⟨task.ledger, hlr, ht, hq, hrs _ ht fun other hth => ?_⟩
    rw [hrr] at hth
    rw [Except.ok.inj hth]

end OciRuntime
