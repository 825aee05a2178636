import OciRuntime.Property.MetadataFile

/-!
# `OciRuntime.Property.ExitEvents` — every recorded exit is announced

`record_exit` sets an exit in memory, writes it and then hands a `TaskExit` event to the publisher.
It decides from the memory alone whether the exit is new, so an exit is announced at most once. It
is announced at least once only if nothing goes wrong in between: a shim that dies after the write,
a write that fails, and a replacement shim that learns the exit itself all leave an exit that is
recorded and that no later step takes for new.

## Contents
- **Steps.** `Shim.Progress`, what one action does to the ledgers and the events.
- **At most once.** `ExitLedger.Knows`, `Shim.Sound`, `Shim.Runs.silenced`.
- **At least once.** `ShimAction.Announced`, `Shim.Covered`.
- **Both.** `recorded_exits_announced`, `exits_never_announced`.
-/

namespace OciRuntime

open Durable Program

variable {ledger : ExitLedger} {task : TaskState} {write : WriteOutcome} {key : Option ExecIdentity}
  {exit : ExitStatus} {process : ProcessKey}

/-! ## Steps -/

/-- What the file and the memory know about exits. -/
def Shim.ledgers (shim : Shim) : List ExitLedger :=
  (shim.file.map (·.ledger)).toList ++ (shim.task.map (·.ledger)).toList

/-- The announced exits, oldest first. -/
def Shim.events (shim : Shim) : List TaskExit := shim.published ++ shim.announcing

theorem Shim.mem_ledgers {shim : Shim} :
    ledger ∈ shim.ledgers ↔ (∃ md, shim.file = some md ∧ md.ledger = ledger) ∨
      ∃ task, shim.task = some task ∧ task.ledger = ledger := by
  simp only [Shim.ledgers, List.mem_append, Option.mem_toList, Option.map_eq_some_iff]

/-- The actions after which every exit that they record is announced. -/
def ShimAction.Announced (shim : Shim) : ShimAction → Prop
  | .recordExit exec _ _ _ write => ∀ task, shim.task = some task → task.exitOf exec = none →
      write = .written ∧ ¬(exec = none ∧ task.restoreState = .pendingStart)
  | .crash => shim.announcing = []
  | .restore answers _ => ∀ metadata, shim.file = some metadata → answers.Uneventful metadata
  | _ => True

/-- What an action does: nothing new about exits, an exit learned in silence, a new task, or an exit
    that is recorded and announced. -/
inductive Shim.Progress (unannounced : Prop) (before after : Shim) : Prop
  | kept (events : after.events = before.events)
      (generation : after.lastGeneration = before.lastGeneration)
      (ledgers : ∀ ledger' ∈ after.ledgers, ∃ ledger ∈ before.ledgers,
        ledger.Keeps ledger' ∧ ledger'.Numbered)
  | learned (silently : unannounced) (events : after.events.Sublist before.events)
      (generation : after.lastGeneration = before.lastGeneration)
      (ledgers : ∀ ledger' ∈ after.ledgers, ∃ ledger ∈ before.ledgers,
        ledger.Learns ledger' ∧ ledger'.Numbered)
  | created (fresh : before.lastGeneration < after.lastGeneration)
      (events : after.events = before.events)
      (ledgers : ∀ ledger' ∈ after.ledgers, ledger' ∈ before.ledgers ∨
        (ledger'.generation = after.lastGeneration ∧ ledger'.Numbered ∧
          ∀ entry ∈ ledger'.entries, entry.2 = none))
  | recorded (ledger ledger' : ExitLedger) (exit : ExitStatus) (event : TaskExit)
      (mem : ledger ∈ before.ledgers) (process : event.process.generation = ledger.generation)
      (unknown : (event.process.exec, none) ∈ ledger.entries)
      (records : ledger.Records ledger' event.process.exec (exit, some event.exitedAt))
      (code : event.exitStatus = exit.code)
      (ledgers : ∀ other ∈ after.ledgers, other = ledger')
      (events : after.events = before.events ++ [event])
      (generation : after.lastGeneration = before.lastGeneration)

section Steps

variable {ids : ShimIdentities} {documents : String → Json} {namespace_ taskId directory : String}
  {shim : Shim} {unannounced : Prop}

/-- Nothing happened, or a part of what was known is gone. -/
theorem Shim.Progress.of_subset (hn : ∀ ledger ∈ shim.ledgers, ledger.Numbered)
    (hev : after.events = shim.events)
    (hg : after.lastGeneration = shim.lastGeneration)
    (hld : ∀ ledger ∈ after.ledgers, ledger ∈ shim.ledgers) :
    Shim.Progress unannounced shim after :=
  .kept hev hg fun ledger hl =>
    ⟨ledger, hld ledger hl, .refl ledger, hn ledger (hld ledger hl)⟩

theorem Shim.write_ledger (h : shim.write ids task write = some md) :
    shim.file = some md ∨ md = metadataFromTask task := by
  unfold Shim.write at h
  split at h
  · exact .inr (Option.some.inj h).symm
  · exact .inl h

theorem Shim.call_progress {r : ShimCall}
    (hn : ∀ ledger ∈ shim.ledgers, ledger.Numbered) (ht : shim.task = some task)
    (ha : r.Admitted task) :
    Shim.Progress unannounced shim (shim.call ids task r write) := by
  have hmm : task.ledger ∈ shim.ledgers := Shim.mem_ledgers.mpr (.inr ⟨task, ht, rfl⟩)
  unfold Shim.call
  split
  · exact .of_subset hn rfl rfl fun _ h => h
  · exact .of_subset hn rfl rfl fun _ h => h
  · rename_i ch hch
    obtain ⟨hk, hc⟩ := (ShimCall.change ha hch).recounts (hn _ hmm)
    refine .kept rfl rfl fun ledger hl => ?_
    rcases Shim.mem_ledgers.mp hl with ⟨metadata, hf, rfl⟩ | ⟨after, haf, rfl⟩
    · rcases Shim.write_ledger hf with hold | rfl
      · have hm : metadata.ledger ∈ shim.ledgers := Shim.mem_ledgers.mpr (.inl ⟨_, hold, rfl⟩)
        exact ⟨_, hm, .refl _, hn _ hm⟩
      · exact ⟨_, hmm, hk, hc⟩
    · cases haf
      split
      · exact ⟨_, hmm, hk, hc⟩
      · exact ⟨_, hmm, .refl _, hn _ hmm⟩

theorem Shim.create_progress {r : NewTask}
    (had : r.Admitted ids rc shim.lastGeneration) (hnn : shim.task = none) :
    Shim.Progress unannounced shim
      (shim.step ids documents namespace_ taskId directory (.create r rc write)) := by
  have hn : (TaskState.created r rc).ledger = ⟨rc.generation, 0, [(none, none)]⟩ := rfl
  have hf : ∀ ledger, ledger = (TaskState.created r rc).ledger →
      ledger.generation = rc.generation ∧ ledger.Numbered ∧ ∀ e ∈ ledger.entries, e.2 = none := by
    rintro ledger rfl
    rw [hn]
    refine ⟨rfl, ⟨by simp, ?_, ?_⟩, by simp⟩
    · intro e hen identity hd
      cases List.mem_singleton.mp hen
      cases hd
    · intro e hen exit hx
      cases List.mem_singleton.mp hen
      cases hx
  have hs : shim.step ids documents namespace_ taskId directory (.create r rc write) = { shim with
        file := shim.write ids (TaskState.created r rc) write
        task := if Shim.stored ids (TaskState.created r rc) write then
          some (TaskState.created r rc) else none
        lastGeneration := rc.generation } := by
    simp [Shim.step, hnn]
  rw [hs]
  refine .created had.fresh rfl fun ledger hl => ?_
  rcases Shim.mem_ledgers.mp hl with ⟨metadata, hfl, rfl⟩ | ⟨after, ha, rfl⟩
  · rcases Shim.write_ledger hfl with hold | rfl
    · exact .inl (Shim.mem_ledgers.mpr (.inl ⟨_, hold, rfl⟩))
    · exact .inr (hf _ rfl)
  · split at ha
    · cases ha
      exact .inr (hf _ rfl)
    · cases ha

/-- Recording a known exit again changes nothing. -/
theorem ExitLedger.Records.keeps {before after : ExitLedger} {exit : RecordedExit}
    (h : before.Records after key exit) (hk : (key, some exit) ∈ before.entries) :
    before.Keeps after := by
  refine ⟨h.generation, h.sequence.ge, fun entry hen => ?_⟩
  rcases h.others entry hen with hb | rfl
  · exact .inl hb
  · exact .inl hk

/-- The store of a new exit succeeds when the write does, but before a Start barrier. -/
theorem TaskState.recordExit_stored (hv : task.Valid ids)
    (h : task.recordExit key exit now = .ok ch)
    (hb : ¬(key = none ∧ task.restoreState = .pendingStart)) :
    Shim.stored ids ch .written = true := by
  have hr : (metadataFromTask ch).validate ids ch.bundle = .ok () := by
    refine (hv.recordExit h).validate_eq_ok_iff.mpr fun hx => ?_
    cases key with
    | none =>
      simp only [TaskState.recordExit, bind_eq_ok] at h
      obtain ⟨journal, -, h⟩ := h
      cases h
      exact hb ⟨rfl, hx.1⟩
    | some identity =>
      -- an exec is after the barrier
      simp only [TaskState.recordExit, bind_eq_ok, okOr_eq_ok] at h
      obtain ⟨exec, hxc, -, -, journal, -, h⟩ := h
      cases h
      have hm := (TaskState.exec_eq_some hxc).1
      rw [(hv.barrier hx.1).2.2.2.2.1] at hm
      cases hm
  simp [Shim.stored, hr]

theorem Shim.recordExit_progress {pid now : Nat}
    (hn : ∀ ledger ∈ shim.ledgers, ledger.Numbered) (hv : task.Valid ids)
    (ht : shim.task = some task) :
    Shim.Progress (¬(ShimAction.recordExit key exit pid now write).Announced shim) shim
      (shim.recordExit ids task key exit pid now write) := by
  have hmm : task.ledger ∈ shim.ledgers := Shim.mem_ledgers.mpr (.inr ⟨task, ht, rfl⟩)
  unfold Shim.recordExit
  split
  · exact .of_subset hn rfl rfl fun _ h => h
  rename_i ch hc
  obtain ⟨old, time, hold, hsm, hr⟩ :=
    TaskState.recordExit_spec (hn _ hmm) hc
  have hft : ch.ledger.Numbered := hr.numbered (hn _ hmm)
  have hx : task.exitOf key = old :=
    ShimMetadata.exitOf_eq_of_mem (hn _ hmm) hold
  have hcn : ch.exitOf key = some (exit, some time) :=
    ShimMetadata.exitOf_eq_of_mem hft hr.recorded
  -- the file is the old one or holds the changed task
  have hld : ∀ shim' : Shim, shim'.file = shim.write ids ch write →
      shim'.task = some ch → ∀ ledger' ∈ shim'.ledgers, ∃ ledger ∈ shim.ledgers,
        (ledger' = ledger ∨ (ledger = task.ledger ∧ ledger' = ch.ledger)) ∧ ledger'.Numbered := by
    intro shim' hf' ht' ledger' hl'
    rcases Shim.mem_ledgers.mp hl' with ⟨md, hf, rfl⟩ | ⟨after, ha, rfl⟩
    · rw [hf'] at hf
      rcases Shim.write_ledger hf with hbf | rfl
      · have hm : md.ledger ∈ shim.ledgers := Shim.mem_ledgers.mpr (.inl ⟨_, hbf, rfl⟩)
        exact ⟨_, hm, .inl rfl, hn _ hm⟩
      · exact ⟨_, hmm, .inr ⟨rfl, rfl⟩, hft⟩
    · rw [ht'] at ha
      cases ha
      exact ⟨_, hmm, .inr ⟨rfl, rfl⟩, hft⟩
  cases hk : old with
  | some recorded =>
    -- the exit was known
    have hrd := hsm recorded hk
    subst hk hrd
    have hnt : ¬(Shim.stored ids ch write = true ∧ task.exitOf key = none) := by
      rw [hx]
      rintro ⟨-, ⟨⟩⟩
    rw [if_neg hnt]
    refine .kept rfl rfl fun ledger' hl' => ?_
    obtain ⟨ledger, hl, hcs, hlg⟩ := hld _ rfl rfl ledger' hl'
    refine ⟨ledger, hl, ?_, hlg⟩
    rcases hcs with rfl | ⟨rfl, rfl⟩
    · exact .refl _
    · exact hr.keeps hold
  | none =>
    subst hk
    by_cases hs : Shim.stored ids ch write = true
    · -- stored and announced
      rw [if_pos ⟨hs, hx⟩]
      have hf : shim.write ids ch write = some (metadataFromTask ch) := by
        simp only [Shim.stored, Bool.and_eq_true, decide_eq_true_eq, beq_iff_eq] at hs
        rw [Shim.write, if_pos ⟨hs.1, by rw [hs.2]; decide⟩]
      have htm : ((ch.exitOf key).bind (·.2)).getD now = time := by
        rw [hcn]
        rfl
      rw [htm]
      refine .recorded task.ledger ch.ledger exit
        (task.exitEvent key exit pid time) hmm rfl hold hr rfl (fun other hth => ?_)
        (List.append_assoc _ _ _).symm rfl
      rcases Shim.mem_ledgers.mp hth with ⟨md, hmt, rfl⟩ | ⟨after, ha, rfl⟩
      · rw [show shim.write ids ch write = some md from hmt] at hf
        cases hf
        rfl
      · cases ha
        rfl
    · -- the exit stays in memory without an event
      rw [if_neg fun hnw => hs hnw.1]
      refine .learned (fun han => hs ?_) (.refl _) rfl fun ledger' hl' => ?_
      · obtain ⟨rfl, hb⟩ := han task ht hx
        exact TaskState.recordExit_stored hv hc hb
      · obtain ⟨ledger, hl, hcs, hlg⟩ := hld _ rfl rfl ledger' hl'
        refine ⟨ledger, hl, ?_, hlg⟩
        rcases hcs with rfl | ⟨rfl, rfl⟩
        · exact (ExitLedger.Keeps.refl _).learns
        · exact hr.learns hold hsm

/-- The file that a restore leaves, whether it is interrupted or not. -/
theorem Shim.restore_file (hf : shim.file = some md)
    (hc : List.IsChain (Holds fun task => task.ledger = ledger)
      ((restoreTask ids answers documents namespace_ taskId directory).states (some md))) :
    ∃ after, (shim.restore ids documents namespace_ taskId directory answers cut).file =
      some after ∧ (after.ledger = md.ledger ∨ after.ledger = ledger) := by
  -- a write carries the ledger; before the first one the old file is in place
  have hi : ∀ (file : Option ShimMetadata) (writes : List (Option ShimMetadata)),
      file = some md → List.IsChain (Holds fun task => task.ledger = ledger) (file :: writes) →
      ∃ after, writes.getLastD file = some after ∧
        (after.ledger = md.ledger ∨ after.ledger = ledger) := by
    intro file writes hs hw
    refine isChain_getLastD (I := fun state => ∃ after, state = some after ∧
      (after.ledger = md.ledger ∨ after.ledger = ledger)) hw ?_ ?_
    · rintro _ _ - ⟨task, hl, rfl⟩
      exact ⟨metadataFromTask task, rfl, .inr hl⟩
    · exact ⟨md, hs, .inl rfl⟩
  cases cut with
  | none =>
    simp only [Shim.restore, Program.final, hf]
    exact hi _ _ rfl hc
  | some k =>
    simp only [Shim.restore, hf]
    exact hi _ _ rfl (isChain_take hc k)

theorem Shim.restore_progress {answers : RestoreAnswers}
    (hn : ∀ ledger ∈ shim.ledgers, ledger.Numbered) (hnn : shim.task = none) :
    Shim.Progress (¬(ShimAction.restore answers cut).Announced shim) shim
      (shim.restore ids documents namespace_ taskId directory answers cut) := by
  have hev : (shim.restore ids documents namespace_ taskId directory answers cut).events =
      shim.events := by cases cut <;> rfl
  have hg : (shim.restore ids documents namespace_ taskId directory answers
      cut).lastGeneration = shim.lastGeneration := by cases cut <;> rfl
  cases hf : shim.file with
  | none =>
    refine .of_subset hn hev hg fun ledger hl => ?_
    cases cut with
    | none =>
      simp only [Shim.ledgers, Shim.restore, hf] at hl
      cases hl
    | some k =>
      have hw : (restoreTask ids answers documents namespace_ taskId directory
        none).commits = [] := rfl
      simp only [Shim.ledgers, Shim.restore, hf, hnn, hw, List.take_nil, List.getLastD_nil] at hl
      cases hl
  | some md =>
    have hm : md.ledger ∈ shim.ledgers := Shim.mem_ledgers.mpr (.inl ⟨_, hf, rfl⟩)
    obtain ⟨ledger, hlr, hlg, hq, hy⟩ :=
      restoreTask_ledger ids answers documents namespace_ taskId directory (hn _ hm)
    have hld : ∀ ledger' ∈ (shim.restore ids documents namespace_ taskId directory answers
        cut).ledgers, ledger' = md.ledger ∨ ledger' = ledger := by
      intro ledger' hl'
      rcases Shim.mem_ledgers.mp hl' with ⟨after, ha, rfl⟩ | ⟨task, ht, rfl⟩
      · obtain ⟨other, hth, hc⟩ := Shim.restore_file hf hy.chain
        rw [hth] at ha
        cases ha
        exact hc
      · cases cut with
        | some k =>
          rw [show shim.task = some task from ht] at hnn
          cases hnn
        | none =>
          simp only [Shim.restore, hf] at ht
          exact .inr (hy.of_result (toOption_join_eq_some ht) task rfl)
    by_cases hu : answers.Uneventful md
    · rw [hq hu] at hld
      refine .kept hev hg fun ledger' hl' => ⟨_, hm, ?_⟩
      rcases hld ledger' hl' with rfl | rfl
      · exact ⟨.refl _, hn _ hm⟩
      · exact ⟨.refl _, hn _ hm⟩
    · refine .learned (fun han => hu (han md hf))
        (hev ▸ List.Sublist.refl _) hg fun ledger' hl' => ⟨_, hm, ?_⟩
      rcases hld ledger' hl' with rfl | rfl
      · exact ⟨(ExitLedger.Keeps.refl _).learns, hn _ hm⟩
      · exact ⟨hlr, hlg⟩

/-- **One action.** -/
theorem Shim.step_progress {action : ShimAction}
    (hn : ∀ ledger ∈ shim.ledgers, ledger.Numbered) (hv : shim.Valid ids)
    (had : action.Admitted ids shim) :
    Shim.Progress (¬action.Announced shim) shim
      (shim.step ids documents namespace_ taskId directory action) := by
  have hs : ∀ unannounced, Shim.Progress unannounced shim shim :=
    fun _ => .of_subset hn rfl rfl fun _ h => h
  cases action with
  | create r record write =>
    cases hnn : shim.task with
    | none => exact Shim.create_progress had hnn
    | some task =>
      simp only [Shim.step, hnn]
      exact hs _
  | call r write =>
    simp only [Shim.step]
    split
    · exact hs _
    · exact Shim.call_progress hn ‹_› (had _ ‹_›)
  | remember change =>
    refine .of_subset hn rfl rfl fun ledger hl => ?_
    rcases Shim.mem_ledgers.mp hl with hf | ⟨after, ha, rfl⟩
    · exact Shim.mem_ledgers.mpr (.inl hf)
    · obtain ⟨task, ht, rfl⟩ := Option.map_eq_some_iff.mp ha
      have hm : task.ledger ∈ shim.ledgers := Shim.mem_ledgers.mpr (.inr ⟨task, ht, rfl⟩)
      have hu : task.Update ids (change.apply task) :=
        MemoryChange.update (had task ht)
      rw [hu.ledger (hn _ hm)]
      exact hm
  | recordExit exec exit pid now write =>
    simp only [Shim.step]
    split
    · exact hs _
    · exact Shim.recordExit_progress hn (hv _ ‹_›) ‹_›
  | publish =>
    simp only [Shim.step]
    split
    · exact hs _
    · rename_i event rest han
      refine .of_subset hn ?_ rfl fun _ h => h
      simp only [Shim.events, han, List.append_assoc, List.singleton_append]
  | deleteTask write =>
    simp only [Shim.step]
    split
    · exact hs _
    · exact hs _
    · exact .of_subset hn rfl rfl (by rintro _ ⟨⟩)
    · rename_i task ht
      refine .of_subset hn rfl rfl fun ledger hl => ?_
      rcases Shim.mem_ledgers.mp hl with ⟨metadata, hf, -⟩ | ⟨after, ha, rfl⟩
      · cases hf
      · cases ha
        exact Shim.mem_ledgers.mpr (.inr ⟨_, ht, rfl⟩)
  | crash =>
    have hld : ∀ ledger ∈ (shim.step ids documents namespace_ taskId directory
        .crash).ledgers, ledger ∈ shim.ledgers := by
      intro ledger hl
      rcases Shim.mem_ledgers.mp hl with hf | ⟨after, ha, -⟩
      · exact Shim.mem_ledgers.mpr (.inl hf)
      · cases ha
    by_cases hq : shim.announcing = []
    · refine .of_subset hn ?_ rfl hld
      simp only [Shim.step, Shim.events, hq]
    · refine .learned (fun hann => hq hann) ?_ rfl fun ledger hl =>
        ⟨ledger, hld ledger hl, (ExitLedger.Keeps.refl _).learns, hn _ (hld ledger hl)⟩
      simp only [Shim.step, Shim.events, List.append_nil]
      exact List.sublist_append_left _ _
  | restore answers cut =>
    cases hnn : shim.task with
    | none =>
      simp only [Shim.step, hnn]
      exact Shim.restore_progress hn hnn
    | some task =>
      simp only [Shim.step, hnn]
      exact hs _

end Steps

/-! ## At most once -/

/-- The exit of the process can no longer be new: the ledger has it, or the process is gone. -/
def ExitLedger.Knows (ledger : ExitLedger) (process : ProcessKey) : Prop :=
  ledger.generation = process.generation → (process.exec, none) ∉ ledger.entries ∧
    ∀ identity, process.exec = some identity → identity.incarnation ≤ ledger.sequence

theorem ExitLedger.Knows.learns {before after : ExitLedger} (h : before.Knows process)
    (hl : before.Learns after) : after.Knows process := by
  intro hg
  obtain ⟨hk, hn⟩ := h (hl.generation.symm.trans hg)
  refine ⟨fun he => ?_, fun i hd => ?_⟩
  · -- an empty entry is an old one, or of a process that was numbered since
    rcases hl.entries _ he with hb | hb | ⟨i, hd, hnw⟩
    · exact hk hb
    · exact hk hb
    · exact absurd (hn i hd) (not_le.mpr hnw)
  · exact (hn i hd).trans hl.sequence

/-- A ledger of a later generation says nothing about the process. -/
theorem ExitLedger.Knows.of_lt (h : process.generation < ledger.generation) :
    ledger.Knows process :=
  fun hg => absurd hg (Nat.ne_of_gt h)

/-- The exit of a process was recorded: every ledger knows it from now on. -/
theorem ExitLedger.Records.knows {before after : ExitLedger}
    (h : before.Records after key (exit, some time)) (hn : before.Numbered)
    (generation : Nat) : after.Knows ⟨generation, key⟩ := by
  have ha := h.numbered hn
  refine fun _ => ⟨fun he => ?_, fun identity hd => ?_⟩
  · cases ha.unique he h.recorded rfl
  · subst hd
    exact ha.numbered _ h.recorded identity rfl

structure Shim.Sound (shim : Shim) : Prop where
  numbered : ∀ ledger ∈ shim.ledgers, ledger.Numbered
  current : ∀ ledger ∈ shim.ledgers, ledger.generation ≤ shim.lastGeneration

/-- No event of the process can be announced any more. -/
structure Shim.Settled (process : ProcessKey) (shim : Shim) : Prop where
  past : process.generation ≤ shim.lastGeneration
  known : ∀ ledger ∈ shim.ledgers, ledger.Knows process

namespace Shim.Progress

variable {unannounced : Prop} {before after : Shim}

section
variable (h : Shim.Progress unannounced before after)
include h

theorem sound (hs : before.Sound) : after.Sound := by
  cases h with
  | kept _ hg hld =>
    refine ⟨fun ledger' hl' => ?_, fun ledger' hl' => ?_⟩
    · obtain ⟨_, _, _, hn⟩ := hld ledger' hl'
      exact hn
    · obtain ⟨ledger, hl, hk, _⟩ := hld ledger' hl'
      rw [hk.generation, hg]
      exact hs.current ledger hl
  | learned _ _ hg hld =>
    refine ⟨fun ledger' hl' => ?_, fun ledger' hl' => ?_⟩
    · obtain ⟨_, _, _, hn⟩ := hld ledger' hl'
      exact hn
    · obtain ⟨ledger, hl, hlr, _⟩ := hld ledger' hl'
      rw [hlr.generation, hg]
      exact hs.current ledger hl
  | created hf _ hld =>
    refine ⟨fun ledger' hl' => ?_, fun ledger' hl' => ?_⟩
    · rcases hld ledger' hl' with hold | ⟨_, hn, _⟩
      · exact hs.numbered ledger' hold
      · exact hn
    · rcases hld ledger' hl' with hold | ⟨hg, _, _⟩
      · exact (hs.current ledger' hold).trans hf.le
      · exact hg.le
  | recorded ledger ledger' exit event hm _ _ hr _ hld _ hg =>
    refine ⟨fun other ht => ?_, fun other ht => ?_⟩
    · rw [hld other ht]
      exact hr.numbered (hs.numbered ledger hm)
    · rw [hld other ht, hr.generation, hg]
      exact hs.current ledger hm

theorem settled (hs : before.Settled process) : after.Settled process := by
  cases h with
  | kept _ hg hld =>
    refine ⟨hg ▸ hs.past, fun ledger' hl' => ?_⟩
    obtain ⟨ledger, hl, hk, _⟩ := hld ledger' hl'
    exact (hs.known ledger hl).learns hk.learns
  | learned _ _ hg hld =>
    refine ⟨hg ▸ hs.past, fun ledger' hl' => ?_⟩
    obtain ⟨ledger, hl, hlr, _⟩ := hld ledger' hl'
    exact (hs.known ledger hl).learns hlr
  | created hf _ hld =>
    refine ⟨hs.past.trans hf.le, fun ledger' hl' => ?_⟩
    rcases hld ledger' hl' with hold | ⟨hg, _, _⟩
    · exact hs.known ledger' hold
    · refine .of_lt (lt_of_le_of_lt hs.past ?_)
      rw [hg]
      exact hf
  | recorded ledger ledger' exit event hm hp hu hr _ hld _ hg =>
    refine ⟨hg ▸ hs.past, fun other ht => ?_⟩
    rw [hld other ht]
    exact (hs.known ledger hm).learns (hr.learns hu (by rintro _ ⟨⟩))

/-- A new event is about a process that was not settled. -/
theorem mem_events (hev : event ∈ after.events) :
    event ∈ before.events ∨ ¬before.Settled event.process := by
  cases h with
  | kept hes => exact .inl (hes ▸ hev)
  | learned _ hes => exact .inl (hes.subset hev)
  | created _ hes => exact .inl (hes ▸ hev)
  | recorded ledger _ _ newEvent hm hp hu _ _ _ hes =>
    rw [hes, List.mem_append, List.mem_singleton] at hev
    rcases hev with hold | rfl
    · exact .inl hold
    · exact .inr fun hs => (hs.known ledger hm hp.symm).1 hu

end

end Shim.Progress

/-- No process has two events, and none of a process with an event will follow. -/
structure Shim.Once (shim : Shim) : Prop where
  sound : shim.Sound
  settled : ∀ event ∈ shim.events, shim.Settled event.process
  distinct : (shim.events.map (·.process)).Nodup

theorem Shim.Progress.once {unannounced : Prop} {before after : Shim}
    (h : Shim.Progress unannounced before after) (hn : before.Once) : after.Once := by
  have hold : ∀ event ∈ before.events, after.Settled event.process :=
    fun event hev => h.settled (hn.settled event hev)
  have hsn := h.sound hn.sound
  cases h with
  | kept hes =>
    exact ⟨hsn, hes ▸ hold, hes ▸ hn.distinct⟩
  | learned _ hes =>
    exact ⟨hsn, fun event hev => hold event (hes.subset hev), hn.distinct.sublist (hes.map _)⟩
  | created _ hes =>
    exact ⟨hsn, hes ▸ hold, hes ▸ hn.distinct⟩
  | recorded ledger ledger' exit event hm hp hu hr _ hld hes hg =>
      refine ⟨hsn, fun other ht => ?_, ?_⟩
      · rw [hes, List.mem_append, List.mem_singleton] at ht
        rcases ht with ht | rfl
        · exact hold other ht
        · refine ⟨?_, fun last hl => ?_⟩
          · rw [hp, hg]
            exact hn.sound.current ledger hm
          · rw [hld last hl]
            exact hr.knows (hn.sound.numbered ledger hm) _
      · -- the processes of the events before are settled, this one was not
        rw [hes, List.map_append, List.map_singleton, List.nodup_append]
        refine ⟨hn.distinct, List.nodup_singleton _, fun process hb last hl hsm => ?_⟩
        obtain ⟨earlier, hea, rfl⟩ := List.mem_map.mp hb
        rw [List.mem_singleton] at hl
        have hs := hn.settled earlier hea
        rw [hsm, hl] at hs
        exact (hs.known ledger hm hp.symm).1 hu

/-! ## At least once -/

/-- Every exit that is recorded has its event. -/
def Shim.Covered (shim : Shim) : Prop :=
  ∀ ledger ∈ shim.ledgers, ∀ key exit time, (key, some (exit, time)) ∈ ledger.entries →
    ∃ event ∈ shim.events, event.process = ⟨ledger.generation, key⟩ ∧
      event.exitStatus = exit.code ∧ time = some event.exitedAt

theorem Shim.Progress.covered (h : Shim.Progress False before after) (hc : before.Covered) :
    after.Covered := by
  cases h with
  | kept hev _ hld =>
    intro ledger' hl' key exit time hen
    obtain ⟨ledger, hl, hk, -⟩ := hld ledger' hl'
    rw [hev, hk.generation]
    rcases hk.entries _ hen with hb | ⟨hnn, -⟩
    · exact hc ledger hl key exit time hb
    · cases hnn
  | learned hs => exact hs.elim
  | created _ hev hld =>
    intro ledger' hl' key exit time hen
    rw [hev]
    rcases hld ledger' hl' with hold | ⟨-, -, he⟩
    · exact hc ledger' hold key exit time hen
    · cases he _ hen
  | recorded ledger ledger' exit event hm hp hu hr hcd hld hev =>
    intro other ht key status time hen
    rw [hld other ht] at hen ⊢
    rw [hev, hr.generation]
    rcases hr.others _ hen with hb | hn
    · obtain ⟨earlier, hea, hf⟩ := hc ledger hm key status time hb
      exact ⟨earlier, List.mem_append_left _ hea, hf⟩
    · cases hn
      refine ⟨event, List.mem_append_right _ (List.mem_singleton_self _), ?_, hcd, rfl⟩
      rw [← hp]

/-! ## Both -/

section Runs

variable {ids : ShimIdentities} {documents : String → Json} {namespace_ taskId directory : String}
  {guard : Shim → ShimAction → Prop} {start shim : Shim}

theorem Shim.empty_once : Shim.empty.Once where
  sound := ⟨(by rintro _ ⟨⟩), (by rintro _ ⟨⟩)⟩
  settled := by rintro _ ⟨⟩
  distinct := .nil

/-- In every run the shim keeps its memory valid and announces no process twice. -/
theorem Shim.Runs.once (h : Shim.Runs ids documents namespace_ taskId directory guard start shim)
    (hs : start.Once) (hv : start.Valid ids) : shim.Once ∧ shim.Valid ids := by
  refine h.invariant (I := fun shim => shim.Once ∧ shim.Valid ids) ⟨hs, hv⟩
    fun shim action hi ha _ => ?_
  exact ⟨(Shim.step_progress hi.1.sound.numbered hi.2 ha).once hi.1, hi.2.step ha⟩

/-- Once a process is settled no run announces it. -/
theorem Shim.Runs.silenced
    (h : Shim.Runs ids documents namespace_ taskId directory guard start shim)
    (hsn : start.Sound) (hv : start.Valid ids) (hs : start.Settled process)
    (hnv : ∀ event ∈ start.events, event.process ≠ process) :
    ∀ event ∈ shim.events, event.process ≠ process := by
  have hi : (shim.Sound ∧ shim.Valid ids) ∧ shim.Settled process ∧
      ∀ event ∈ shim.events, event.process ≠ process := by
    refine h.invariant (I := fun shim => (shim.Sound ∧ shim.Valid ids) ∧ shim.Settled process ∧
      ∀ event ∈ shim.events, event.process ≠ process) ⟨⟨hsn, hv⟩, hs, hnv⟩
      fun shim action hst ha _ => ?_
    obtain ⟨⟨hsn, hv⟩, hs, hnv⟩ := hst
    have hp : Shim.Progress (¬action.Announced shim) shim
        (shim.step ids documents namespace_ taskId directory action) :=
      Shim.step_progress hsn.numbered hv ha
    refine ⟨⟨hp.sound hsn, hv.step ha⟩, hp.settled hs, fun event hev => ?_⟩
    rcases hp.mem_events hev with hold | hn
    · exact hnv event hold
    · rintro rfl
      exact hn hs
  exact hi.2.2

/-- A process whose exit is recorded wherever the shim looks is settled. -/
theorem Shim.Sound.settled (hs : shim.Sound) (hp : process.generation ≤ shim.lastGeneration)
    (hf : ∀ md, shim.file = some md → (md.exitOf process.exec).isSome = true)
    (ht : ∀ task, shim.task = some task → (task.exitOf process.exec).isSome = true) :
    shim.Settled process := by
  have hk : ∀ md : ShimMetadata, md.ledger.Numbered →
      (md.exitOf process.exec).isSome = true → md.ledger.Knows process := by
    intro md hn hx _
    obtain ⟨exit, hx⟩ := Option.isSome_iff_exists.mp hx
    refine ⟨fun he => ?_, fun identity hd => ?_⟩
    · rw [ShimMetadata.exitOf_eq_of_mem hn he] at hx
      cases hx
    · exact hn.numbered _ (ShimMetadata.mem_of_exitOf hx) identity hd
  refine ⟨hp, fun ledger hl => ?_⟩
  have hn := hs.numbered ledger hl
  rcases Shim.mem_ledgers.mp hl with ⟨md, hmt, rfl⟩ | ⟨task, hm, rfl⟩
  · exact hk md hn (hf md hmt)
  · exact hk (metadataFromTask task) hn (ht task hm)

/-- The announcements under way reach the publisher one after the other. -/
theorem Shim.run_publish (n : Nat) : ∀ shim : Shim, shim.announcing.length = n →
    (shim.run ids documents namespace_ taskId directory (List.replicate n .publish)).published =
      shim.events := by
  induction n with
  | zero =>
    intro shim hl
    rw [List.length_eq_zero_iff] at hl
    simp [Shim.run, Shim.events, hl]
  | succ n ih =>
    intro shim hl
    obtain ⟨event, rest, ha⟩ := List.exists_cons_of_length_eq_add_one hl
    have hs : shim.step ids documents namespace_ taskId directory .publish =
        { shim with announcing := rest, published := shim.published ++ [event] } := by
      simp [Shim.step, ha]
    rw [List.replicate_succ, Shim.run, List.foldl_cons, hs]
    refine (ih _ ?_).trans ?_
    · rw [ha] at hl
      simpa using hl
    · simp [Shim.events, ha]

/-- **Recorded exits are announced.** No two events of a process differ, in any run. In a run in which
    every exit is written before the shim is interrupted and no exit is learned by a replacement
    shim, every recorded exit has an event with its code and time, once the announcements under way
    are made. -/
theorem recorded_exits_announced {ids : ShimIdentities} {documents : String → Json}
    {namespace_ taskId directory : String} :
    (∀ shim, Shim.Runs ids documents namespace_ taskId directory (fun _ _ => True) .empty shim →
      ∀ first ∈ shim.published, ∀ second ∈ shim.published, first.process = second.process →
        first = second) ∧
    ∀ shim, Shim.Runs ids documents namespace_ taskId directory
        (fun shim action => action.Announced shim) .empty shim →
      ∀ metadata, (shim.file = some metadata ∨
          ∃ task, shim.task = some task ∧ metadata = metadataFromTask task) →
      ∀ key exit time, metadata.exitOf key = some (exit, time) →
        ∃ event ∈ (shim.run ids documents namespace_ taskId directory
            (List.replicate shim.announcing.length .publish)).published,
          event.process = ⟨metadata.generation, key⟩ ∧ event.exitStatus = exit.code ∧
            time = some event.exitedAt := by
  have hv : Shim.empty.Valid ids := by rintro _ ⟨⟩
  refine ⟨fun shim hr first hf second hs hsm => ?_, fun shim hr metadata hm key exit time hx => ?_⟩
  · have hn := (hr.once Shim.empty_once hv).1
    exact List.inj_on_of_nodup_map hn.distinct (List.mem_append_left _ hf)
      (List.mem_append_left _ hs) hsm
  · have hi : (shim.Once ∧ shim.Valid ids) ∧ shim.Covered := by
      refine hr.invariant (I := fun shim => (shim.Once ∧ shim.Valid ids) ∧ shim.Covered)
        ⟨⟨Shim.empty_once, hv⟩, (by rintro _ ⟨⟩)⟩
        fun shim action hst ha han => ?_
      obtain ⟨⟨hn, hv⟩, hc⟩ := hst
      have hp : Shim.Progress (¬action.Announced shim) shim
          (shim.step ids documents namespace_ taskId directory action) :=
        Shim.step_progress hn.sound.numbered hv ha
      refine ⟨⟨hp.once hn, hv.step ha⟩, ?_⟩
      rw [eq_false (not_not.mpr han)] at hp
      exact hp.covered hc
    have hl : metadata.ledger ∈ shim.ledgers := by
      rcases hm with hfl | ⟨task, ht, rfl⟩
      · exact Shim.mem_ledgers.mpr (.inl ⟨_, hfl, rfl⟩)
      · exact Shim.mem_ledgers.mpr (.inr ⟨task, ht, rfl⟩)
    have hen := ShimMetadata.mem_of_exitOf hx
    obtain ⟨event, hev, hfc⟩ := hi.2 _ hl key exit time hen
    refine ⟨event, ?_, hfc⟩
    rw [Shim.run_publish _ shim rfl]
    exact hev

end Runs

namespace Sample

def exitZero : ExitStatus := ⟨some 0, none, false⟩

def createWeb : ShimAction := .create (newTask false) (taskRecord .running) .written

/-- The init process of the first generation of `web`. -/
def webInit : ProcessKey := ⟨1, none⟩

/-- The runtime finds `web` stopped, and knows nothing about execs. -/
def stoppedAnswers : RestoreAnswers where
  record := .ok (taskRecord .stopped)
  initExit := .ok exitZero
  execExit _ := .ok none
  control _ := .ok (taskRecord .stopped)
  signal _ _ := .ok none
  resize _ _ := .ok ()
  process _ := .error (.new .notFound "unknown process")
  exec _ := .error (.new .failedPrecondition "not running")
  now _ := 5

/-- The shim dies after it wrote the exit and before it announced it. -/
def crashedBeforePublish : List ShimAction :=
  [createWeb, .recordExit none exitZero 7 5 .written, .crash, .restore stoppedAnswers none]

/-- The exit could not be written at first, and was written by a later section. -/
def failedStore : List ShimAction :=
  [createWeb, .recordExit none exitZero 7 5 .failed, .call .persist .written]

/-- The shim dies before the exit, and its replacement learns it. -/
def learnedInRestore : List ShimAction := [createWeb, .crash, .restore stoppedAnswers none]

/-- An exit that is written and announced. -/
def announcedExit : List ShimAction :=
  [createWeb, .recordExit none exitZero 7 5 .written, .publish]

theorem shimRuns_snoc (h : ShimRuns (shimAfter as)) (ha : action.Admitted shimIds (shimAfter as)) :
    ShimRuns (shimAfter (as ++ [action])) := by
  have hr : shimAfter (as ++ [action]) =
      (shimAfter as).step shimIds shimDocuments "ns" "web" "/b" action := by
    simp only [shimAfter, Shim.run, List.foldl_append, List.foldl_cons, List.foldl_nil]
  rw [hr]
  exact .step action h ha trivial

theorem shimRuns_createWeb : ShimRuns (shimAfter [createWeb]) := shimRuns_created false

/-- An exit of the init process that is in the file and in memory without an event. -/
theorem never_announced (hr : ShimRuns (shimAfter as))
    (hf : (shimAfter as).file.bind (·.exitOf none) = some (exitZero, some 5))
    (ht : (shimAfter as).task.bind (·.exitOf none) = some (exitZero, some 5))
    (hg : (shimAfter as).lastGeneration = 1)
    (hes : (shimAfter as).events = [])
    (hl : Shim.Runs shimIds shimDocuments "ns" "web" "/b" (fun _ _ => True)
      (shimAfter as) later) : ∀ event ∈ later.published, event.process ≠ webInit := by
  obtain ⟨hn, hv⟩ := hr.once Shim.empty_once (by rintro _ ⟨⟩)
  have hs : (shimAfter as).Settled webInit := by
    refine hn.sound.settled hg.ge (fun metadata hm => ?_) fun task hmm => ?_
    · rw [hm] at hf
      exact Option.isSome_of_eq_some hf
    · rw [hmm] at ht
      exact Option.isSome_of_eq_some ht
  intro event hev
  refine hl.silenced hn.sound hv hs ?_ event (List.mem_append_left _ hev)
  rw [hes]
  rintro _ ⟨⟩

end Sample

open Sample in
/-- The init process of `web` exits with code 0 and is announced. -/
theorem recorded_exits_announced_web : ∃ metadata, (shimAfter announcedExit).file = some metadata ∧
      ∃ event ∈ ((shimAfter announcedExit).run shimIds shimDocuments "ns" "web" "/b"
          (List.replicate (shimAfter announcedExit).announcing.length .publish)).published,
        event.process = ⟨metadata.generation, none⟩ ∧ event.exitStatus = exitZero.code ∧
          some 5 = some event.exitedAt := by
  have hc : Shim.Runs shimIds shimDocuments "ns" "web" "/b"
      (fun shim action => action.Announced shim) .empty (shimAfter [createWeb]) :=
    .step createWeb .init (newTask_admitted false .running) trivial
  have hxd := Shim.Runs.step (.recordExit none exitZero 7 5 .written) hc trivial
    (fun task ht _ => ⟨rfl, fun hb => by
      have hpl : (shimAfter [createWeb]).task.map (·.restoreState) = some .none := by
        decide +kernel
      rw [ht, Option.map_some, hb.2] at hpl
      cases hpl⟩)
  have hp := Shim.Runs.step .publish hxd trivial trivial
  have hf : (shimAfter announcedExit).file.isSome = true := by decide +kernel
  obtain ⟨metadata, hm⟩ := Option.isSome_iff_exists.mp hf
  have hx : (shimAfter announcedExit).file.bind (·.exitOf none) = some (exitZero, some 5) := by
    decide +kernel
  rw [hm] at hx
  exact ⟨metadata, hm, recorded_exits_announced.2 (shimAfter announcedExit) hp
    metadata (.inl hm) none exitZero (some 5) hx⟩

open Sample in
/-- The run ends with the exit of the init process in the file and in memory. No event of the process
    was handed over, and no run from there on hands one over. -/
def Sample.ExitLost (actions : List ShimAction) : Prop :=
  ShimRuns (shimAfter actions) ∧
    (shimAfter actions).file.bind (·.exitOf none) = some (exitZero, some 5) ∧
    (shimAfter actions).task.bind (·.exitOf none) = some (exitZero, some 5) ∧
    ∀ later, Shim.Runs shimIds shimDocuments "ns" "web" "/b" (fun _ _ => True)
        (shimAfter actions) later →
      ∀ event ∈ later.published, event.process ≠ webInit

open Sample in
theorem exits_never_announced :
    ExitLost crashedBeforePublish ∧ ExitLost failedStore ∧ ExitLost learnedInRestore := by
  have hc : ShimRuns (shimAfter crashedBeforePublish) := by
    have hx : ShimRuns (shimAfter [createWeb, .recordExit none exitZero 7 5 .written]) :=
      shimRuns_snoc shimRuns_createWeb trivial
    have hd : ShimRuns (shimAfter [createWeb, .recordExit none exitZero 7 5 .written, .crash]) :=
      shimRuns_snoc hx trivial
    exact shimRuns_snoc hd trivial
  have hf : ShimRuns (shimAfter failedStore) := by
    have hx : ShimRuns (shimAfter [createWeb, .recordExit none exitZero 7 5 .failed]) :=
      shimRuns_snoc shimRuns_createWeb trivial
    exact shimRuns_snoc hx fun _ _ => trivial
  have hlr : ShimRuns (shimAfter learnedInRestore) := by
    have hd : ShimRuns (shimAfter [createWeb, .crash]) :=
      shimRuns_snoc shimRuns_createWeb trivial
    exact shimRuns_snoc hd trivial
  -- From the state each run ends in, the event of the init process stays unannounced.
  have hl : ∀ actions, ShimRuns (shimAfter actions) →
      (shimAfter actions).file.bind (·.exitOf none) = some (exitZero, some 5) ∧
        (shimAfter actions).task.bind (·.exitOf none) = some (exitZero, some 5) ∧
        (shimAfter actions).lastGeneration = 1 ∧ (shimAfter actions).events = [] →
      ExitLost actions := by
    intro actions hr hfc
    obtain ⟨hfl, ht, hg, hev⟩ := hfc
    exact ⟨hr, hfl, ht, fun later hlt =>
      never_announced hr hfl ht hg hev hlt⟩
  refine ⟨hl _ hc ?_, hl _ hf ?_, hl _ hlr ?_⟩
  all_goals decide +kernel

end OciRuntime
