import OciRuntime.Shim.Rules

/-!
# `OciRuntime.Shim.Validity` — the tasks of a shim satisfy the rules of the file

The shim checks the rules of the metadata file when it writes the file, after it changed the task.
Nearly all rules are kept by the changes themselves, whatever is then written, so the check can only
fail on a restored task whose exit was observed before its Start barrier.

## Contents
- **Parts of a task.** What a change of one part needs to keep `TaskState.Valid`.
- **Changes and restarts.** `TaskState.Change.valid`, `restoreTask_valid`.
- **Runs.** `Shim.Runs.valid`.
-/

namespace OciRuntime

open Durable Program

variable {exec : ExecMetadata} {record : ContainerRecord} {journal : ProcessJournal}
  {opn : PendingControlOperation} {shim : Shim}

/-! ## Parts of a task -/

/-- An exec with an ID and an incarnation of its own finds its place in the order. -/
theorem TaskState.insertExec_ordered {execs : List ExecMetadata}
    (h : execs.Pairwise ExecMetadata.Precedes)
    (hn : ∀ other ∈ execs, other.execId ≠ exec.execId ∧ exec.incarnation ≠ other.incarnation) :
    (TaskState.insertExec exec execs).Pairwise ExecMetadata.Precedes := by
  induction execs with
  | nil => exact List.pairwise_singleton _ _
  | cons next rest ih =>
    obtain ⟨hnx, hr⟩ := List.pairwise_cons.mp h
    obtain ⟨hnw, hnr⟩ := List.forall_mem_cons.mp hn
    unfold TaskState.insertExec
    split
    · rename_i hl
      refine List.pairwise_cons.mpr ⟨fun other ht => ?_, h⟩
      rcases List.mem_cons.mp ht with rfl | ht
      · exact ⟨hl, fun _ => hnw.2.symm⟩
      · exact ⟨hl.trans (hnx other ht).1, fun _ => (hnr other ht).2.symm⟩
    · rename_i hg
      refine List.pairwise_cons.mpr ⟨fun other ht => ?_, ih hr hnr⟩
      rcases List.mem_cons.mp ((TaskState.perm_insertExec exec rest).subset ht) with
        rfl | ht
      · exact ⟨lt_of_le_of_ne (not_lt.mp hg) hnw.1, fun _ => hnw.2⟩
      · exact hnx other ht

namespace TaskState.Valid

variable {ids : ShimIdentities} {task : TaskState}

section
variable (h : task.Valid ids)
include h

theorem withRecord (ha : task.Answers record) : { task with record }.Valid ids :=
  ⟨ha.1 ▸ h.generation, h.barrier, h.schema, h.journal, h.control, h.updated, h.bundle,
    h.identity, h.execs, h.ordered⟩

theorem withTaskJournal (hj : journal.Consistent true)
    (ht : (task.exit = none → task.exitedAt = none) → journal.exit = none →
      journal.exitedAt = none) : { task with toProcessJournal := journal }.Valid ids := by
  refine ⟨h.generation, fun hp => ?_, h.schema, hj, h.control, h.updated, h.bundle,
    h.identity, h.execs, h.ordered⟩
  obtain ⟨hs, hn, hd, hx, he, hdt⟩ := h.barrier hp
  exact ⟨hs, hn, hd, hx, he, ht hdt⟩

/-- A change of one exec that keeps who it is and the rules of its journal. -/
theorem modifyExec (execId : String)
    (hc : ∀ exec ∈ task.execs, exec.execId = execId → (change exec).identity = exec.identity ∧
      (change exec).toProcessJournal.Consistent false) :
    (task.modifyExec execId change).Valid ids := by
  have hdn : ∀ exec ∈ task.execs,
      (if exec.execId = execId then change exec else exec).identity = exec.identity := by
    intro exec hxc
    split
    · exact (hc exec hxc ‹_›).1
    · rfl
  refine ⟨h.generation, fun hp => ?_, h.schema, h.journal, h.control, h.updated, h.bundle,
    h.identity, fun exec hxc => ?_, ?_⟩
  · obtain ⟨hsq, hnn, hd, hx, he, hdt⟩ := h.barrier hp
    refine ⟨hsq, hnn, hd, hx, ?_, hdt⟩
    simp only [TaskState.modifyExec, he, List.map_nil]
  · obtain ⟨before, hb, rfl⟩ := List.mem_map.mp hxc
    obtain ⟨hnm, hn, hj⟩ := h.execs before hb
    have hsm := hdn before hb
    have hid := congrArg ExecIdentity.execId hsm
    have hi := congrArg ExecIdentity.incarnation hsm
    simp only [ExecMetadata.identity] at hid hi
    refine ⟨fun he => hnm (hid.symm.trans he), hi.le.trans hn, ?_⟩
    split
    · exact (hc before hb ‹_›).2
    · exact hj
  · refine List.pairwise_map.mpr (h.ordered.imp_of_mem fun {first second} hfs hsn ha => ?_)
    have hf := hdn first hfs
    have hs := hdn second hsn
    simp only [ExecMetadata.identity, ExecIdentity.mk.injEq] at hf hs
    simp only [ExecMetadata.Precedes, hf, hs]
    exact ha

theorem exec_journal (hx : task.exec execId = some exec) : exec.toProcessJournal.Consistent false :=
  (h.execs exec (TaskState.exec_eq_some hx).1).journal

theorem journal_consistent (hj : task.journal execId = some journal) :
    journal.Consistent execId.isNone := by
  cases execId with
  | none =>
    cases hj
    exact h.journal
  | some execId =>
    obtain ⟨exec, hx, rfl⟩ := Option.map_eq_some_iff.mp hj
    exact h.exec_journal hx

theorem setJournal (hj : task.journal execId = some journal)
    (hc : journal.Change execId.isNone ch) :
    (task.setJournal execId ch).Valid ids := by
  have hn := hc.consistent (h.journal_consistent hj)
  cases execId with
  | none =>
    cases hj
    refine h.withTaskJournal hn fun hd => ?_
    cases hc <;> exact hd
  | some execId => exact h.modifyExec execId fun _ _ _ => ⟨rfl, hn⟩

/-- Nothing is pending before the Start barrier, so an operation on a task is after it. -/
theorem not_pendingStart (hp : task.pendingControl = some opn) :
    task.restoreState ≠ .pendingStart := by
  intro hb
  rw [(h.barrier hb).2.1] at hp
  cases hp

theorem withControl (hb : task.restoreState ≠ .pendingStart)
    (hv : opn.validateForSchema ids controlResourcesSchemaVersion = .ok ())
    (hn : IsNext task.controlSequence opn.sequence) :
    { task with pendingControl := some opn }.Valid ids := by
  refine ⟨h.generation, fun hp => absurd hp hb, fun _ other ht => ?_,
    h.journal, fun other ht => ?_, h.updated, h.bundle, h.identity, h.execs, h.ordered⟩
  · cases ht
    exact PendingControlOperation.not_isLegacyUpdate le_rfl hv
  · cases ht
    exact ⟨PendingControlOperation.validateForSchema_schema hv, hn⟩

theorem settleControl (hp : task.pendingControl = some opn) :
    (task.settleControl opn).Valid ids := by
  have hn := (h.control opn hp).2
  refine ⟨h.generation, fun hb => absurd hb (h.not_pendingStart hp),
    (by rintro _ _ ⟨⟩), h.journal, (by rintro _ ⟨⟩),
    fun digest hd => ⟨?_, (h.updated digest hd).2⟩, h.bundle, h.identity, h.execs,
    h.ordered⟩
  have := hn.1
  show opn.sequence ≠ 0
  omega

end

/-- An operation that is valid and has a request digest is an Update with a digest. -/
theorem digest_of_update (hv : opn.validateForSchema ids version = .ok ())
    (hk : opn.kind = .update) (hd : opn.requestDigest = some digest) :
    IsSha256Digest digest := by
  obtain ⟨-, hr, -, -⟩ := PendingControlOperation.validateForSchema_eq_ok.mp hv
  simp only [PendingControlOperation.validateRequest, hk, hd, unit_bind_eq_ok] at hr
  exact validateSha256Digest_eq_ok.mp hr.1

theorem applyControl (h : task.Valid ids) (hp : task.pendingControl = some opn)
    (ha : task.Answers record) : (task.applyControl opn record).Valid ids := by
  have hse : (task.settleControl opn).Answers record := ha
  have hs := (h.settleControl hp).withRecord hse
  refine ⟨hs.generation, fun hb => absurd hb (h.not_pendingStart hp),
    hs.schema, hs.journal, hs.control, fun digest hd => ?_, hs.bundle,
    hs.identity, hs.execs, hs.ordered⟩
  simp only [TaskState.applyControl] at hd
  split at hd
  · rename_i hk
    refine ⟨?_, digest_of_update (h.control opn hp).1 hk hd⟩
    have := (h.control opn hp).2.1
    show opn.sequence ≠ 0
    omega
  · exact hs.updated digest hd

theorem recordExit (h : task.Valid ids) (hc : task.recordExit key exit now = .ok ch) :
    ch.Valid ids := by
  cases key with
  | none =>
    simp only [TaskState.recordExit, bind_eq_ok] at hc
    obtain ⟨journal, hj, hc⟩ := hc
    cases hc
    obtain ⟨rfl, -⟩ := TaskState.recordExitOf_eq_ok hj
    exact h.withTaskJournal (h.journal.congr _ _ _) (by rintro _ ⟨⟩)
  | some identity =>
    simp only [TaskState.recordExit, bind_eq_ok, okOr_eq_ok] at hc
    obtain ⟨exec, hx, -, -, journal, hj, hc⟩ := hc
    cases hc
    obtain ⟨rfl, -⟩ := TaskState.recordExitOf_eq_ok hj
    exact h.modifyExec identity.execId fun _ _ _ => ⟨rfl, (h.exec_journal hx).congr _ _ _⟩

end TaskState.Valid

/-! ## Changes and restarts -/

theorem TaskState.Update.valid {task : TaskState} (h : task.Update ids ch)
    (hv : task.Valid ids) : ch.Valid ids := by
  cases h with
  | same => exact hv
  | @journal execId journal after record hj hc ha =>
    refine (hv.setJournal hj hc).withRecord ?_
    cases execId <;> exact ha
  | modified execId change hk =>
    refine hv.modifyExec execId fun exec hx _ => ⟨(hk exec).2, ?_⟩
    rw [(hk exec).1]
    exact (hv.execs exec hx).journal
  | refreshed record restoreState ha hb =>
    have hr := hv.withRecord ha
    refine ⟨hr.generation, fun hpn => ?_, fun hrs => ?_, hr.journal,
      hr.control, hr.updated, hr.bundle, hr.identity, hr.execs,
      hr.ordered⟩
    · -- starting leaves the barrier behind
      rcases hb with hsm | ⟨-, hs⟩
      · exact hr.barrier (hsm ▸ hpn)
      · rw [hs] at hpn
        cases hpn
    · refine hv.schema fun hnn => hrs ?_
      rcases hb with hsm | ⟨hpn, -⟩
      · exact hsm.trans hnn
      · rw [hnn] at hpn
        cases hpn
  | controlPrepared opn hp hpr hn =>
    refine hv.withControl hp hpr ?_
    rcases hn with ⟨-, hn⟩ | ⟨pending, hpn, hsm⟩
    · exact hn
    · rw [hsm]
      exact (hv.control pending hpn).2
  | controlSettled opn hpn => exact hv.settleControl hpn
  | controlApplied opn record hpn ha => exact hv.applyControl hpn ha

theorem TaskState.Change.valid {task : TaskState} (h : task.Change ids ch)
    (hv : task.Valid ids) : ch.Valid ids := by
  cases h with
  | update hu => exact hu.valid hv
  | added execId pr stdin stdout stderr terminal hnm hp ha =>
    have hm : ∀ exec ∈ TaskState.insertExec
        (task.newExec execId pr stdin stdout stderr terminal) task.execs,
        exec = task.newExec execId pr stdin stdout stderr terminal ∨ exec ∈ task.execs :=
      fun exec hxc => List.mem_cons.mp ((TaskState.perm_insertExec _ _).subset hxc)
    refine ⟨hv.generation, fun hpn => absurd hpn hp, hv.schema,
      hv.journal, hv.control, hv.updated, hv.bundle, hv.identity,
      fun exec hxc => ?_, TaskState.insertExec_ordered hv.ordered fun exec hxc => ⟨?_, ?_⟩⟩
    · rcases hm exec hxc with rfl | hold
      · exact ⟨hnm, le_rfl, ProcessJournal.consistent_new stdin stdout stderr terminal false⟩
      · obtain ⟨hold, hn, hj⟩ := hv.execs exec hold
        exact ⟨hold, hn.trans (Nat.le_succ _), hj⟩
    · -- no exec has this ID yet
      intro hi
      exact List.find?_eq_none.mp ha exec hxc (decide_eq_true hi)
    · have hn := (hv.execs exec hxc).numbered
      show task.execSequence + 1 ≠ exec.incarnation
      omega
  | deleted execId =>
    refine ⟨hv.generation, fun hpn => ?_, hv.schema, hv.journal, hv.control,
      hv.updated, hv.bundle, hv.identity,
      fun exec hxc => hv.execs exec (List.mem_filter.mp hxc).1,
      hv.ordered.sublist List.filter_sublist⟩
    obtain ⟨hs, hnn, hd, hx, he, hdt⟩ := hv.barrier hpn
    refine ⟨hs, hnn, hd, hx, ?_, hdt⟩
    simp only [he, List.filter_nil]

theorem TaskState.created_valid (h : r.Admitted ids record lastGeneration) :
    (TaskState.created r record).Valid ids where
  generation := by
    have := h.fresh
    show record.generation ≠ 0
    omega
  barrier := fun _ => ⟨rfl, rfl, rfl, rfl, rfl, fun _ => rfl⟩
  schema := by rintro _ _ ⟨⟩
  journal := ProcessJournal.consistent_new _ _ _ _ true
  control := by rintro _ ⟨⟩
  updated := by rintro _ ⟨⟩
  bundle := h.absolute
  identity := h.named
  execs := by rintro _ ⟨⟩
  ordered := .nil

section Restored

variable {ids : ShimIdentities}

theorem recoverStoppedInitExit_valid (hv : task.Valid ids)
    (h : recoverStoppedInitExit answers task = .ok after) : after.Valid ids := by
  unfold recoverStoppedInitExit at h
  split at h
  · cases h
    exact hv
  · obtain ⟨exit, -, h⟩ := bind_eq_ok.mp h
    cases h
    exact hv.withTaskJournal (hv.journal.congr _ _ _) (by rintro _ ⟨⟩)

theorem recoverExecSignalExit_valid (hv : task.Valid ids)
    (h : recoverExecSignalExit answers task exec = .ok after) : after.Valid ids := by
  simp only [recoverExecSignalExit, bind_eq_ok] at h
  obtain ⟨answer, -, h⟩ := h
  cases answer with
  | none =>
    cases h
    exact hv
  | some exit =>
    cases h
    exact hv.modifyExec exec.execId fun other ht _ =>
      ⟨rfl, (hv.execs other ht).journal.congr _ _ _⟩

/-- Whatever file it finds, a restore that succeeds leaves a valid task, and writes it. -/
theorem restoreTask_valid (documents : String → Json) (namespace_ taskId dr : String)
    (file : Option ShimMetadata) :
    Yields (Holds (·.Valid ids)) (restoreTask ids answers documents namespace_ taskId dr) file
      fun result after => ∀ task, result = some task →
        task.Valid ids ∧ after = some (metadataFromTask task) := by
  refine restoreTask_invariant (fun _ _ hv hu => hu.valid hv) fun metadata task _ ha ht => ?_
  simp only [recoverTask, bind_eq_ok] at ht
  obtain ⟨rehydrated, hr, stopped, hs, ht⟩ := ht
  refine foldlM_invariant (fun _ _ _ _ hn h => recoverExecSignalExit_valid hn h) ?_ ht
  exact recoverStoppedInitExit_valid (rehydrateTask_valid ha hr) hs

end Restored

/-! ## Runs -/

section Runs

variable {ids : ShimIdentities}

/-- The task in memory, if there is one, is valid. -/
def Shim.Valid (ids : ShimIdentities) (shim : Shim) : Prop :=
  ∀ task, shim.task = some task → task.Valid ids

theorem Shim.Valid.step (hv : shim.Valid ids) {action : ShimAction}
    (had : action.Admitted ids shim) :
    (shim.step ids documents namespace_ taskId dr action).Valid ids := by
  cases action with
  | create r record write =>
    simp only [Shim.step]
    split
    · exact hv
    · intro task ht
      simp only at ht
      split at ht
      · cases ht
        exact TaskState.created_valid had
      · cases ht
  | call r write =>
    simp only [Shim.step]
    split
    · exact hv
    · rename_i task ht
      intro after ha
      simp only [Shim.call] at ha
      split at ha
      · exact hv after ha
      · exact hv after ha
      · rename_i ch hc
        cases ha
        split
        · exact (ShimCall.change (had task ht) hc).valid (hv task ht)
        · exact hv task ht
  | remember change =>
    intro after ha
    obtain ⟨task, ht, rfl⟩ := Option.map_eq_some_iff.mp ha
    exact (MemoryChange.update (had task ht)).valid (hv task ht)
  | recordExit exec exit pid now write =>
    simp only [Shim.step]
    split
    · exact hv
    · rename_i task ht
      intro after ha
      simp only [Shim.recordExit] at ha
      split at ha
      · exact hv after ha
      · rename_i ch hc
        cases ha
        exact (hv task ht).recordExit hc
  | publish =>
    simp only [Shim.step]
    split
    · exact hv
    · exact hv
  | deleteTask write =>
    simp only [Shim.step]
    split
    · exact hv
    · exact hv
    · intro after ha
      cases ha
    · rename_i task ht
      intro after ha
      cases ha
      exact hv _ ht
  | crash =>
    intro after ha
    cases ha
  | restore answers cut =>
    simp only [Shim.step]
    split
    · exact hv
    · intro after ha
      cases cut with
      | some k => exact hv after ha
      | none =>
        have hr := toOption_join_eq_some ha
        exact ((restoreTask_valid documents namespace_ taskId dr shim.file).of_result
          hr after rfl).1

/-- A section whose store succeeds puts its task into memory and into the file. -/
theorem Shim.call_written {task : TaskState} (hv : task.Valid ids)
    (ha : r.Admitted task) (hp : r.apply ids task = .ok (some ch))
    (hb : ¬(ch.restoreState = .pendingStart ∧ ch.exit.isSome = true)) :
    shim.call ids task r .written =
      { shim with file := some (metadataFromTask ch), task := some ch } := by
  have hr := ((ShimCall.change ha hp).valid hv).validate_eq_ok_iff.mpr hb
  simp [Shim.call, hp, Shim.write, Shim.stored, hr]

/-- **Every task in memory is valid**, in every state of every run. -/
theorem Shim.Runs.valid {guard : Shim → ShimAction → Prop}
    (h : Shim.Runs ids documents namespace_ taskId dr guard start shim)
    (hs : start.Valid ids) : shim.Valid ids :=
  h.invariant hs fun _ _ hv ha _ => hv.step ha

end Runs

end OciRuntime
