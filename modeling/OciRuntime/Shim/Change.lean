import OciRuntime.Shim.Service

/-!
# `OciRuntime.Shim.Change` — what can happen to a task

Sections, changes of the memory and the replays of a restore all change a task in one of a few ways.
They are listed here once, with what was checked before: an invariant of the task is then a case
analysis over the list, and a restore keeps every invariant that the list keeps.

## Contents
- **Journals.** `ProcessJournal.Change`, one lemma for each function of a journal.
- **Tasks.** `TaskState.Update`, `TaskState.Change`, `ShimCall.change`, `MemoryChange.update`.
- **Restores.** `recoverTask`, `restoreTask_invariant`.
-/

namespace OciRuntime

open Durable Program

variable {sequence : Nat} {operation : PendingSignal} {record : Option ContainerRecord}
  {execId : Option String}

/-! ## Journals -/

namespace ProcessJournal

/-- What can happen to the journal of a process, besides its exit. `allowAll` says that the process
    can be asked to signal all processes. -/
inductive Change (allowAll : Bool) (journal : ProcessJournal) : ProcessJournal → Prop
  | output (cursor : Nat) : Change allowAll journal { journal with outputCursor := cursor }
  | stdin (sequence : Nat) (pending : Option PendingStdinWrite) (closeState : StdinCloseState)
      (fifo : journal.stdin ≠ "") (closing : closeState ≠ .opened → pending = none)
      (write : ∀ write, pending = some write →
        write.validate = .ok () ∧ IsNext sequence write.sequence) :
      Change allowAll journal { journal with
        stdinSequence := sequence, pendingStdinWrite := pending, stdinCloseState := closeState }
  | signalPrepared (operation : PendingSignal) (idle : journal.pendingSignal = none)
      (valid : operation.validate = .ok ())
      (next : IsNext journal.signalSequence operation.sequence)
      (one : ¬(operation.all = true ∧ allowAll = false)) :
      Change allowAll journal { journal with pendingSignal := some operation }
  | signalSettled (operation : PendingSignal) (pending : journal.pendingSignal = some operation)
      (next : IsNext journal.signalSequence operation.sequence) :
      Change allowAll journal
        { journal with signalSequence := operation.sequence, pendingSignal := none }
  | resizePrepared (operation : PendingResize) (idle : journal.pendingResize = none)
      (terminal : journal.terminal = true) (other : journal.terminalSize ≠ some operation.size)
      (valid : operation.validate = .ok ())
      (next : IsNext journal.resizeSequence operation.sequence) :
      Change allowAll journal { journal with pendingResize := some operation }
  | resizeSettled (operation : PendingResize) (applied : Bool)
      (pending : journal.pendingResize = some operation)
      (next : IsNext journal.resizeSequence operation.sequence) :
      Change allowAll journal { journal with
        resizeSequence := operation.sequence
        pendingResize := none
        terminalSize := if applied then some operation.size else journal.terminalSize }

variable {journal changed : ProcessJournal}

theorem nextSequence_eq_ok (h : nextSequence completed what = .ok sequence) :
    IsNext completed sequence := by
  simp only [nextSequence, bind_eq_ok, rejectIf_eq_ok, not_lt] at h
  obtain ⟨-, hb, h⟩ := h
  cases h
  exact ⟨rfl, hb⟩

theorem commitOutput_change (h : journal.commitOutput cursor = .ok (some changed)) :
    journal.Change allowAll changed := by
  unfold commitOutput at h
  split at h
  · cases h
  · cases h
    exact .output cursor

section
variable (hst : journal.stdin ≠ "")
include hst

theorem prepareStdin_change (h : journal.prepareStdin sequence data = .ok (some changed)) :
    journal.Change allowAll changed := by
  simp only [prepareStdin, PendingStdinWrite.new, bind_eq_ok, rejectIf_eq_ok, not_not] at h
  obtain ⟨pending, ⟨_, hv, hp⟩, _, ho, h⟩ := h
  cases hp
  split at h
  · obtain ⟨-, -, h⟩ := bind_eq_ok.mp h
    cases h
  · simp only [bind_eq_ok, rejectIf_eq_ok, not_not] at h
    obtain ⟨-, hn, h⟩ := h
    cases h
    refine .stdin _ _ _ hst (fun hc => absurd ho hc) fun write hw => ?_
    cases hw
    exact ⟨hv, hn⟩

/-- A stdin journal that holds no write. -/
theorem Change.stdin_idle (sequence : Nat) (closeState : StdinCloseState) :
    journal.Change allowAll { journal with
      stdinSequence := sequence, pendingStdinWrite := none, stdinCloseState := closeState } :=
  .stdin sequence none closeState hst (fun _ => rfl) (by rintro _ ⟨⟩)

theorem commitStdin_change
    (h : journal.commitStdin sequence = .ok (some changed)) : journal.Change allowAll changed := by
  unfold commitStdin at h
  split at h
  · cases h
  · simp only [bind_eq_ok] at h
    obtain ⟨-, -, -, -, h⟩ := h
    cases h
    exact .stdin_idle hst sequence journal.stdinCloseState

theorem prepareStdinClose_change
    (h : journal.prepareStdinClose = .ok (some changed)) : journal.Change allowAll changed := by
  unfold prepareStdinClose at h
  split at h
  · cases h
  · simp only [bind_eq_ok, rejectIf_eq_ok, Option.not_isSome_iff_eq_none] at h
    obtain ⟨-, hn, h⟩ := h
    cases h
    have hd : journal.Change allowAll _ :=
      Change.stdin_idle hst journal.stdinSequence .closing
    rw [← hn] at hd
    exact hd

theorem commitStdinClose_change
    (h : journal.commitStdinClose = .ok (some changed)) : journal.Change allowAll changed := by
  unfold commitStdinClose at h
  split at h
  · cases h
  · simp only [bind_eq_ok, rejectIf_eq_ok, not_or, Option.not_isSome_iff_eq_none] at h
    obtain ⟨-, ⟨-, hn⟩, h⟩ := h
    cases h
    have hd : journal.Change allowAll _ :=
      Change.stdin_idle hst journal.stdinSequence .closed
    rw [← hn] at hd
    exact hd

end

theorem prepareSignal_change (ha : ¬(all = true ∧ allowAll = false))
    (h : journal.prepareSignal signal all = .ok (some changed)) :
    journal.Change allowAll changed := by
  unfold prepareSignal at h
  split at h
  · cases h
  · rename_i hd
    simp only [bind_eq_ok] at h
    obtain ⟨sequence, hn, _, hv, h⟩ := h
    cases h
    exact .signalPrepared _ hd hv (nextSequence_eq_ok hn) ha

theorem completeSignal_change (h : journal.completeSignal operation = .ok (some changed)) :
    journal.Change allowAll changed := by
  simp only [completeSignal, bind_eq_ok, rejectIf_eq_ok, not_not] at h
  obtain ⟨_, hp, _, hn, h⟩ := h
  cases h
  exact .signalSettled operation hp hn

theorem prepareResize_change (h : journal.prepareResize size = .ok (some changed)) :
    journal.Change allowAll changed := by
  simp only [prepareResize, bind_eq_ok, rejectIf_eq_ok, Bool.not_eq_false] at h
  obtain ⟨_, ht, h⟩ := h
  split at h
  · cases h
  · rename_i hd
    split at h
    · cases h
    · rename_i hth
      simp only [bind_eq_ok] at h
      obtain ⟨sequence, hn, _, hv, h⟩ := h
      cases h
      exact .resizePrepared _ hd ht hth hv (nextSequence_eq_ok hn)

theorem completeResize_change {operation : PendingResize}
    (h : journal.completeResize operation applied = .ok (some changed)) :
    journal.Change allowAll changed := by
  simp only [completeResize, bind_eq_ok, rejectIf_eq_ok, not_not] at h
  obtain ⟨_, hp, _, hn, h⟩ := h
  cases h
  exact .resizeSettled operation applied hp hn

end ProcessJournal

/-! ## Tasks -/

/-- What can happen to a task while its execs stay the same, besides learning an exit. -/
inductive TaskState.Update (ids : ShimIdentities) (task : TaskState) : TaskState → Prop
  | same : Update ids task task
  | journal (execId : Option String) {journal changed : ProcessJournal} (record : ContainerRecord)
      (found : task.journal execId = some journal)
      (change : journal.Change execId.isNone changed) (answers : task.Answers record) :
      Update ids task { task.setJournal execId changed with record }
  | modified (execId : String) (change : ExecMetadata → ExecMetadata)
      (kept : ∀ exec, (change exec).toProcessJournal = exec.toProcessJournal ∧
        (change exec).identity = exec.identity) : Update ids task (task.modifyExec execId change)
  | refreshed (record : ContainerRecord) (restoreState : RestoreState)
      (answers : task.Answers record)
      (barrier : restoreState = task.restoreState ∨
        task.restoreState = .pendingStart ∧ restoreState = .started) :
      Update ids task { task with record, restoreState }
  | controlPrepared (operation : PendingControlOperation)
      (passed : task.restoreState ≠ .pendingStart)
      (valid : operation.validateForSchema ids controlResourcesSchemaVersion = .ok ())
      (next : task.pendingControl = none ∧ IsNext task.controlSequence operation.sequence ∨
        ∃ pending, task.pendingControl = some pending ∧ operation.sequence = pending.sequence) :
      Update ids task { task with pendingControl := some operation }
  | controlSettled (operation : PendingControlOperation)
      (pending : task.pendingControl = some operation) : Update ids task (task.settleControl operation)
  | controlApplied (operation : PendingControlOperation) (record : ContainerRecord)
      (pending : task.pendingControl = some operation) (answers : task.Answers record) :
      Update ids task (task.applyControl operation record)

/-- What can happen to a task, besides learning an exit. -/
inductive TaskState.Change (ids : ShimIdentities) (task : TaskState) : TaskState → Prop
  | update {changed : TaskState} (update : task.Update ids changed) : Change ids task changed
  | added (execId process stdin stdout stderr : String) (terminal : Bool) (named : execId ≠ "")
      (passed : task.restoreState ≠ .pendingStart) (absent : task.exec execId = none) :
      Change ids task { task with
        execSequence := task.execSequence + 1
        execs := insertExec (task.newExec execId process stdin stdout stderr terminal) task.execs }
  | deleted (execId : String) :
      Change ids task { task with execs := task.execs.filter (·.execId ≠ execId) }

section Changes

variable {ids : ShimIdentities} {task changed : TaskState}

theorem TaskState.sameTarget_answers {record : ContainerRecord}
    (h : task.sameTarget record = true) : task.Answers record := by
  simp only [TaskState.sameTarget, Bool.and_eq_true, beq_iff_eq] at h
  exact ⟨h.1.1.2, h.1.2, h.2⟩

theorem TaskState.validateControlTarget_answers {record : ContainerRecord}
    (h : task.validateControlTarget kind record = .ok u) : task.Answers record := by
  simp only [TaskState.validateControlTarget, rejectIf_eq_ok, not_or, Bool.not_eq_false] at h
  exact TaskState.sameTarget_answers h.1

/-- What a successful change of a journal did. -/
theorem TaskState.withJournal_eq_some
    (h : task.withJournal execId missing change = .ok (some changed)) :
    ∃ journal after, task.journal execId = some journal ∧ change journal = .ok (some after) ∧
      changed = { task.setJournal execId after with record := task.record } := by
  simp only [TaskState.withJournal, bind_eq_ok, okOr_eq_ok] at h
  obtain ⟨journal, hj, after, ha, h⟩ := h
  obtain ⟨newJournal, rfl, rfl⟩ := Option.map_eq_some_iff.mp (Except.ok.inj h)
  refine ⟨journal, newJournal, hj, ha, ?_⟩
  cases execId <;> rfl

theorem TaskState.withJournal_update (hc : ∀ journal after, task.journal execId = some journal →
      change journal = .ok (some after) → journal.Change execId.isNone after)
    (h : task.withJournal execId missing change = .ok (some changed)) :
    task.Update ids changed := by
  obtain ⟨journal, after, hj, ha, rfl⟩ := TaskState.withJournal_eq_some h
  exact .journal execId task.record hj (hc journal after hj ha) ⟨rfl, rfl, rfl⟩

theorem TaskState.completeSignal_update
    (h : task.completeSignal execId operation record missing = .ok (some changed)) :
    task.Update ids changed := by
  simp only [TaskState.completeSignal, TaskState.validateSignalResponse, bind_eq_ok,
    rejectIf_eq_ok] at h
  obtain ⟨-, ⟨-, -, hr⟩, completed, hc, h⟩ := h
  obtain ⟨settled, rfl, rfl⟩ := Option.map_eq_some_iff.mp (Except.ok.inj h)
  obtain ⟨journal, after, hj, ha, rfl⟩ := TaskState.withJournal_eq_some hc
  refine .journal execId _ hj (ProcessJournal.completeSignal_change ha) ?_
  cases record with
  | none => exact ⟨rfl, rfl, rfl⟩
  | some record => exact TaskState.sameTarget_answers (by simpa using hr)

theorem TaskState.prepareControl_update
    (h : task.prepareControl ids kind requestDigest rsc = .ok (some changed)) :
    task.Update ids changed := by
  simp only [TaskState.prepareControl, bind_eq_ok, rejectIf_eq_ok] at h
  obtain ⟨-, hp, h⟩ := h
  split at h
  · rename_i pending hpn
    simp only [bind_eq_ok] at h
    obtain ⟨-, -, operation, hpr, h⟩ := h
    split at h
    · cases h
    · rename_i ht
      cases h
      -- the operation changed, so it was given its resources
      cases rsc with
      | none =>
        cases hpr
        exact absurd rfl ht
      | some rsc =>
        simp only [TaskState.resumeControl, bind_eq_ok] at hpr
        obtain ⟨-, -, _, hv, hpr⟩ := hpr
        cases hpr
        exact .controlPrepared _ hp hv (.inr ⟨pending, hpn, rfl⟩)
  · rename_i hd
    split at h
    · cases h
    · simp only [PendingControlOperation.new, bind_eq_ok] at h
      obtain ⟨sequence, hn, operation, ⟨_, hv, hpr⟩, h⟩ := h
      cases hpr
      cases h
      exact .controlPrepared _ hp hv (.inl ⟨hd, ProcessJournal.nextSequence_eq_ok hn⟩)

/-- **Sections.** -/
theorem ShimCall.change {call : ShimCall} (had : call.Admitted task)
    (h : call.apply ids task = .ok (some changed)) : task.Change ids changed := by
  cases call with
  | persist =>
    cases h
    exact .update .same
  | addExec execId process stdin stdout stderr terminal =>
    simp only [ShimCall.apply, TaskState.addExec, bind_eq_ok, rejectIf_eq_ok,
      Option.not_isSome_iff_eq_none] at h
    obtain ⟨-, hn, -, hp, -, hab, -, -, h⟩ := h
    cases h
    exact .added execId process stdin stdout stderr terminal hn hp hab
  | deleteExec execId =>
    simp only [ShimCall.apply, TaskState.deleteExec, bind_eq_ok] at h
    obtain ⟨-, -, -, -, h⟩ := h
    cases h
    exact .deleted execId
  | commitOutput execId cursor =>
    exact .update <| TaskState.withJournal_update
      (fun _ _ _ ha => ProcessJournal.commitOutput_change ha) h
  | prepareStdin execId sequence data =>
    exact .update <| TaskState.withJournal_update (fun journal _ hj ha =>
      ProcessJournal.prepareStdin_change (had journal hj) ha) h
  | commitStdin execId sequence =>
    exact .update <| TaskState.withJournal_update (fun journal _ hj ha =>
      ProcessJournal.commitStdin_change (had journal hj) ha) h
  | prepareStdinClose execId =>
    exact .update <| TaskState.withJournal_update (fun journal _ hj ha =>
      ProcessJournal.prepareStdinClose_change (had journal hj) ha) h
  | commitStdinClose execId =>
    exact .update <| TaskState.withJournal_update (fun journal _ hj ha =>
      ProcessJournal.commitStdinClose_change (had journal hj) ha) h
  | prepareSignal execId signal all =>
    -- an exec is never asked to signal all processes
    have hal : ¬(all = true ∧ execId.isNone = false) := by
      rintro ⟨hal, hx⟩
      rw [had (by simpa using hx)] at hal
      cases hal
    exact .update <| TaskState.withJournal_update
      (fun _ _ _ ha => ProcessJournal.prepareSignal_change hal ha) h
  | completeSignal execId operation record => exact .update (TaskState.completeSignal_update h)
  | prepareResize execId size =>
    exact .update <| TaskState.withJournal_update
      (fun _ _ _ ha => ProcessJournal.prepareResize_change ha) h
  | completeResize execId operation applied =>
    exact .update <| TaskState.withJournal_update
      (fun _ _ _ ha => ProcessJournal.completeResize_change ha) h
  | prepareControl kind requestDigest rsc => exact .update (TaskState.prepareControl_update h)
  | completeControl operation record =>
    simp only [ShimCall.apply, TaskState.completeControl, bind_eq_ok, rejectIf_eq_ok, not_not] at h
    obtain ⟨_, _, _, hpn, _, ht, h⟩ := h
    cases h
    exact .update (.controlApplied operation record hpn
      (TaskState.validateControlTarget_answers ht))
  | finishControlError operation error =>
    simp only [ShimCall.apply, TaskState.finishControlError] at h
    split at h
    · cases h
    · simp only [bind_eq_ok, rejectIf_eq_ok, not_not] at h
      obtain ⟨_, hpn, h⟩ := h
      cases h
      exact .update (.controlSettled operation hpn)

/-- **Changes of the memory.** -/
theorem MemoryChange.update {change : MemoryChange} (ha : change.Admitted task) :
    task.Update ids (change.apply task) := by
  cases change with
  | refreshed record => exact .refreshed record task.restoreState ha (.inl rfl)
  | taskStarted record =>
    refine .refreshed record _ ha ?_
    by_cases hp : task.restoreState = .pendingStart
    · exact .inr ⟨hp, if_pos hp⟩
    · exact .inl (if_neg hp)
  | execStarting execId =>
    refine .modified execId _ fun exec => ?_
    split
    · exact ⟨rfl, rfl⟩
    · exact ⟨rfl, rfl⟩
  | execStarted execId record => exact .modified execId _ fun _ => ⟨rfl, rfl⟩

/-! ## Restores -/

variable {answers : RestoreAnswers} {after : TaskState}

theorem completeReplayedControl_update {operation : PendingControlOperation}
    (h : completeReplayedControl task operation record = .ok after) : task.Update ids after := by
  simp only [completeReplayedControl, bind_eq_ok, rejectIf_eq_ok, not_or, not_not] at h
  obtain ⟨_, ⟨hp, -⟩, h⟩ := h
  cases record with
  | none =>
    cases h
    exact .controlSettled operation hp
  | some record =>
    simp only [bind_eq_ok] at h
    obtain ⟨_, _, _, ht, h⟩ := h
    cases h
    exact .controlApplied operation record hp (TaskState.validateControlTarget_answers ht)

theorem completeReplayedSignal_update
    (h : completeReplayedSignal task execId operation record = .ok after) :
    task.Update ids after := by
  simp only [completeReplayedSignal, bind_eq_ok] at h
  obtain ⟨changed, hc, h⟩ := h
  cases changed with
  | none =>
    cases h
    exact .same
  | some changed =>
    cases h
    exact TaskState.completeSignal_update hc

theorem completeReplayedResize_update {operation : PendingResize}
    (h : completeReplayedResize task execId operation applied = .ok after) :
    task.Update ids after := by
  simp only [completeReplayedResize, bind_eq_ok] at h
  obtain ⟨changed, hc, h⟩ := h
  cases changed with
  | none =>
    cases h
    exact .same
  | some changed =>
    cases h
    exact TaskState.withJournal_update (fun _ _ _ ha => ProcessJournal.completeResize_change ha) hc

theorem adoptExec_update (h : adoptExec answers task exec = .ok after) : task.Update ids after := by
  unfold adoptExec at h
  split at h
  · simp only [bind_eq_ok] at h
    obtain ⟨process, -, -, -, h⟩ := h
    cases h
    exact .modified exec.execId _ fun _ => ⟨rfl, rfl⟩
  · cases h
    exact .same

theorem loadFile_eq_some (h : loadFile ids documents dr file = .ok (some md)) :
    file = some md ∧ md.validate ids dr = .ok () := by
  cases file with
  | none => cases h
  | some stored =>
    simp only [loadFile, ShimMetadata.load, bind_eq_ok] at h
    obtain ⟨-, -, _, hd, _, hv, h⟩ := h
    cases hd
    cases h
    exact ⟨rfl, hv⟩

/-- The task before its operations are replayed: the file, the runtime's record and the exits. -/
def recoverTask (answers : RestoreAnswers) (ids : ShimIdentities) (namespace_ taskId : String)
    (metadata : ShimMetadata) : Result TaskState := do
  let task ← rehydrateTask ids answers namespace_ taskId metadata
  let task ← recoverStoppedInitExit answers task
  recoverPendingExecSignalExits answers task

/-- The file holds a task that satisfies `P`. -/
def Holds (P : TaskState → Prop) (_before after : Option ShimMetadata) : Prop :=
  ∃ task, P task ∧ after = some (metadataFromTask task)

variable {P : TaskState → Prop}

theorem persist_holds (h : P task) (file : Option ShimMetadata) :
    Yields (Holds P) (persist ids task) file fun _ after => after = some (metadataFromTask task) :=
  Yields.check_bind fun _ _ => .commit ⟨task, h, rfl⟩ rfl

/-- The last step of every replay. -/
theorem replayed_holds (hc : ∀ task after : TaskState, P task → task.Update ids after → P after)
    (h : P task) (ha : task.Update ids after) (file : Option ShimMetadata) :
    Yields (Holds P) (do persist ids after; pure after) file fun task _ => P task :=
  (persist_holds (hc task after h ha) file).bind fun _ _ _ =>
    .pure (hc task after h ha)

/-- **What a restore keeps.** If the recovered task satisfies `P` and no update leads out of it, then
    every write of a restore holds a task with `P`, and the last one the task that is restored. -/
theorem restoreTask_invariant {documents : String → Json}
    (hc : ∀ task after : TaskState, P task → task.Update ids after → P after)
    (hrc : ∀ md task, file = some md → md.validate ids dr = .ok () →
      recoverTask answers ids namespace_ taskId md = .ok task → P task) :
    Yields (Holds P) (restoreTask ids answers documents namespace_ taskId dr) file
      fun result after => ∀ task, result = some task →
        P task ∧ after = some (metadataFromTask task) := by
  refine .read_bind fun loaded hl => ?_
  cases loaded with
  | none => exact .pure (by rintro _ ⟨⟩)
  | some md =>
    obtain ⟨hf, hv⟩ := loadFile_eq_some hl
    refine .check_bind fun rehydrated hrh =>
      Yields.check_bind fun stopped hsp => .check_bind fun task ht => ?_
    have ht : P task := hrc md task hf hv (by
      simp only [recoverTask, bind_eq_ok]
      exact ⟨rehydrated, hrh, stopped, hsp, ht⟩)
    refine Yields.bind (P := fun task _ => P task) ?_ fun task file hcn => ?_
    · unfold replayPendingControl
      split
      · exact .pure ht
      · split
        · exact .pure ht
        · refine .check_bind fun record _ => .check_bind fun after ha => ?_
          exact replayed_holds hc ht (completeReplayedControl_update ha) _
    refine (yields_foldlM (I := P) (fun task process file h => ?_) task.processes hcn
      file).bind fun task file hs => ?_
    · refine .check_bind fun journal _ => ?_
      split
      · exact .pure h
      · refine .check_bind fun record _ => .check_bind fun after ha => ?_
        exact replayed_holds hc h (completeReplayedSignal_update ha) file
    refine (yields_foldlM (I := P) (fun task process file h => ?_) task.processes hs
      file).bind fun task file hr => ?_
    · refine .check_bind fun journal _ => ?_
      split
      · exact .pure h
      · refine .check_bind fun answer _ => .check_bind fun after ha => ?_
        exact replayed_holds hc h (completeReplayedResize_update ha) file
    refine .check_bind fun adopted had => ?_
    have hls : P adopted := foldlM_invariant
      (fun task _ _ after ht hstp => hc task after ht (adoptExec_update hstp))
      hr had
    refine (persist_holds hls file).bind fun _ after ha => .pure ?_
    rintro _ ⟨⟩
    exact ⟨hls, ha⟩

end Changes

end OciRuntime
