import OciRuntime.Shim.Change

/-!
# `OciRuntime.Shim.Ledger` — the exits that a task records

Of everything a task records, the exit events depend only on which processes it knows, what exits it
holds for them and how many execs it has numbered: its *ledger*. Nearly every change of a task
leaves the ledger as it is. A new exec adds an entry, a deletion removes one, and learning an exit
fills one in.

## Contents
- **Ledgers.** `ExitLedger`, `ExitLedger.Learns`, `ExitLedger.Numbered`.
- **Changes.** `TaskState.Update.ledger`, `TaskState.Change.recounts`.
- **Exits.** `ExitLedger.Records`, `TaskState.recordExit_spec`.
-/

namespace OciRuntime

open Durable Program

variable {key : Option ExecIdentity} {task : TaskState} {exec : ExecMetadata}
  {journal ch : ProcessJournal} {exit : ExitStatus}

/-! ## Ledgers -/

/-- The exit of a process, with the time it was recorded. -/
abbrev RecordedExit := ExitStatus × Option Nat

structure ExitLedger where
  generation : Nat
  /-- How many execs were numbered. -/
  sequence : Nat
  entries : List (Option ExecIdentity × Option RecordedExit)

def ProcessJournal.recordedExit (journal : ProcessJournal) : Option RecordedExit :=
  journal.exit.map fun exit => (exit, journal.exitedAt)

def ExecMetadata.entry (exec : ExecMetadata) : Option ExecIdentity × Option RecordedExit :=
  (some exec.identity, exec.recordedExit)

def ShimMetadata.ledger (metadata : ShimMetadata) : ExitLedger where
  generation := metadata.generation
  sequence := metadata.execSequence
  entries := (none, metadata.recordedExit) :: metadata.execs.map (·.entry)

def TaskState.ledger (task : TaskState) : ExitLedger := (metadataFromTask task).ledger

variable {before after : ExitLedger}

namespace ExitLedger

/-- A process that was numbered after `ledger`. -/
def IsNew (ledger : ExitLedger) (key : Option ExecIdentity) : Prop :=
  ∃ identity, key = some identity ∧ ledger.sequence < identity.incarnation

/-- `after` knows the processes of `before` and execs numbered since, and changes an exit only by
    filling it in. -/
structure Learns (before after : ExitLedger) : Prop where
  generation : after.generation = before.generation
  sequence : before.sequence ≤ after.sequence
  entries : ∀ entry ∈ after.entries,
    entry ∈ before.entries ∨ (entry.1, none) ∈ before.entries ∨ before.IsNew entry.1

/-- As `Learns`, without a new exit. -/
structure Keeps (before after : ExitLedger) : Prop where
  generation : after.generation = before.generation
  sequence : before.sequence ≤ after.sequence
  entries : ∀ entry ∈ after.entries,
    entry ∈ before.entries ∨ (entry.2 = none ∧ before.IsNew entry.1)

/-- No two execs have one ID, every exec was numbered, and every exit has its time. -/
structure Numbered (ledger : ExitLedger) : Prop where
  distinct : (ledger.entries.map fun entry => entry.1.map (·.execId)).Nodup
  numbered : ∀ entry ∈ ledger.entries, ∀ identity, entry.1 = some identity →
    identity.incarnation ≤ ledger.sequence
  dated : ∀ entry ∈ ledger.entries, ∀ exit, entry.2 = some exit → exit.2.isSome = true

theorem IsNew.mono (h : after.IsNew key) (hle : before.sequence ≤ after.sequence) :
    before.IsNew key := by
  obtain ⟨identity, hk, hl⟩ := h
  exact ⟨identity, hk, lt_of_le_of_lt hle hl⟩

theorem Keeps.refl (ledger : ExitLedger) : Keeps ledger ledger := ⟨rfl, le_rfl, fun _ h => .inl h⟩

theorem Keeps.learns (h : Keeps before after) : Learns before after :=
  ⟨h.generation, h.sequence, fun entry hen => (h.entries entry hen).imp id fun hn =>
    .inr hn.2⟩

theorem Learns.trans (hab : Learns a b) (hbc : Learns b c) : Learns a c where
  generation := hbc.generation.trans hab.generation
  sequence := hab.sequence.trans hbc.sequence
  entries := by
    intro e hen
    rcases hbc.entries e hen with hb | hb | hn
    · exact hab.entries e hb
    · -- an entry that was filled in since was empty before, or it is new
      rcases hab.entries _ hb with ha | ha | hn
      · exact .inr (.inl ha)
      · exact .inr (.inl ha)
      · exact .inr (.inr hn)
    · exact .inr (.inr (hn.mono hab.sequence))

variable {ledger : ExitLedger}

/-- A process has one entry. -/
theorem Numbered.unique (h : ledger.Numbered) {first second} (hf : first ∈ ledger.entries)
    (hs : second ∈ ledger.entries) (hk : first.1.map (·.execId) = second.1.map (·.execId)) :
    first = second :=
  List.inj_on_of_nodup_map h.distinct hf hs hk

/-- Entering an exec under the next number. -/
theorem Numbered.enter (h : ledger.Numbered) (i : ExecIdentity)
    (hg : after.generation = ledger.generation)
    (hs : after.sequence = ledger.sequence + 1)
    (hn : after.entries.Perm ((some i, none) :: ledger.entries))
    (hi : i.incarnation = ledger.sequence + 1)
    (ht : ∀ e ∈ ledger.entries, e.1.map (·.execId) ≠ some i.execId) :
    ledger.Keeps after ∧ after.Numbered := by
  have hc : ∀ e ∈ after.entries, e = (some i, none) ∨
      e ∈ ledger.entries := fun e hen => List.mem_cons.mp (hn.subset hen)
  refine ⟨⟨hg, by omega, fun e hen => ?_⟩, ?_, fun e hen other hid => ?_, fun e hen exit hx => ?_⟩
  · rcases hc e hen with rfl | hold
    · exact .inr ⟨rfl, i, rfl, by omega⟩
    · exact .inl hold
  · refine (hn.map _).nodup_iff.mpr (List.nodup_cons.mpr ⟨?_, h.distinct⟩)
    intro hm
    obtain ⟨e, hen, hsm⟩ := List.mem_map.mp hm
    exact ht e hen hsm
  · rcases hc e hen with rfl | hold
    · cases hid
      omega
    · have := h.numbered e hold other hid
      omega
  · rcases hc e hen with rfl | hold
    · cases hx
    · exact h.dated e hold exit hx

/-- Striking entries out. -/
theorem Numbered.strike (h : ledger.Numbered) (hg : after.generation = ledger.generation)
    (hs : after.sequence = ledger.sequence) (hn : after.entries.Sublist ledger.entries) :
    ledger.Keeps after ∧ after.Numbered := by
  refine ⟨⟨hg, hs.ge, fun e hen => .inl (hn.subset hen)⟩,
    h.distinct.sublist (hn.map _), fun e hen identity hi => ?_,
    fun e hen => h.dated e (hn.subset hen)⟩
  rw [hs]
  exact h.numbered e (hn.subset hen) identity hi

end ExitLedger

/-! ## Changes -/

/-- A change of execs that keeps who they are and their exits keeps their entries. -/
theorem TaskState.modifyExec_ledger (task : TaskState) (execId : String)
    (hc : ∀ exec ∈ task.execs, exec.execId = execId → (change exec).entry = exec.entry) :
    (task.modifyExec execId change).ledger = task.ledger := by
  have hn : (task.execs.map fun exec =>
      if exec.execId = execId then change exec else exec).map (·.entry) =
      task.execs.map (·.entry) := by
    rw [List.map_map]
    refine List.map_congr_left fun exec hx => ?_
    simp only [Function.comp_apply]
    split
    · rename_i hi
      exact hc exec hx hi
    · rfl
  simp only [TaskState.ledger, ShimMetadata.ledger, metadataFromTask, TaskState.modifyExec, hn]

theorem TaskState.entry_mem_ledger (h : exec ∈ task.execs) : exec.entry ∈ task.ledger.entries :=
  List.mem_cons_of_mem _ (List.mem_map_of_mem h)

theorem TaskState.exec_eq_some (h : task.exec execId = some exec) :
    exec ∈ task.execs ∧ exec.execId = execId :=
  ⟨List.mem_of_find?_eq_some h, by simpa using List.find?_some h⟩

/-- The exec found under an ID is the only one with it. -/
theorem TaskState.entry_eq_of_execId (hn : task.ledger.Numbered)
    (hf : task.exec execId = some found) (hx : exec ∈ task.execs)
    (hi : exec.execId = execId) : exec.entry = found.entry := by
  obtain ⟨hm, hfn⟩ := TaskState.exec_eq_some hf
  refine hn.unique (TaskState.entry_mem_ledger hx) (TaskState.entry_mem_ledger hm) ?_
  simp [ExecMetadata.entry, ExecMetadata.identity, hi, hfn]

/-- A journal with the same exit in the place of the old one keeps the ledger. -/
theorem TaskState.setJournal_ledger (hn : task.ledger.Numbered)
    (hj : task.journal execId = some journal)
    (hx : ch.recordedExit = journal.recordedExit) :
    (task.setJournal execId ch).ledger = task.ledger := by
  cases execId with
  | none =>
    have hs : task.toProcessJournal = journal := Option.some.inj hj
    simp only [TaskState.ledger, ShimMetadata.ledger, metadataFromTask, TaskState.setJournal,
      hx, hs]
  | some execId =>
    obtain ⟨found, hf, rfl⟩ := Option.map_eq_some_iff.mp hj
    refine TaskState.modifyExec_ledger task execId fun exec hxc hi => ?_
    have hen := TaskState.entry_eq_of_execId hn hf hxc hi
    have hr : exec.recordedExit = found.recordedExit := congrArg Prod.snd hen
    show (some exec.identity, ch.recordedExit) = exec.entry
    rw [hx, ← hr]
    rfl

theorem TaskState.perm_insertExec (exec : ExecMetadata) : ∀ execs : List ExecMetadata,
    (TaskState.insertExec exec execs).Perm (exec :: execs)
  | [] => .refl _
  | next :: rest => by
    unfold TaskState.insertExec
    split
    · exact .refl _
    · exact ((TaskState.perm_insertExec exec rest).cons next).trans (.swap exec next rest)

/-- Of the runtime's record only the generation is in the ledger. -/
theorem TaskState.record_ledger (task : TaskState) {record : ContainerRecord}
    (h : record.generation = task.record.generation) : { task with record }.ledger = task.ledger := by
  simp only [TaskState.ledger, ShimMetadata.ledger, metadataFromTask, h]

theorem ProcessJournal.Change.recordedExit (h : journal.Change allowAll ch) :
    ch.recordedExit = journal.recordedExit := by
  cases h <;> rfl

theorem TaskState.Update.ledger {ch : TaskState} (h : task.Update ids ch)
    (hn : task.ledger.Numbered) : ch.ledger = task.ledger := by
  cases h with
  | same => rfl
  | @journal execId journal after record hj hc ha =>
    rw [← TaskState.setJournal_ledger hn hj hc.recordedExit]
    refine TaskState.record_ledger _ (ha.1.trans ?_)
    cases execId <;> rfl
  | modified execId change hk =>
    refine TaskState.modifyExec_ledger task execId fun exec _ _ => ?_
    rw [ExecMetadata.entry, ExecMetadata.entry, (hk exec).1, (hk exec).2]
  | refreshed record restoreState ha => exact TaskState.record_ledger task ha.1
  | controlPrepared opn => rfl
  | controlSettled opn => rfl
  | controlApplied opn record _ ha =>
    exact TaskState.record_ledger (task.settleControl opn) ha.1

/-- **Changes keep exits.** No change records an exit or alters one. -/
theorem TaskState.Change.recounts {ch : TaskState} (h : task.Change ids ch)
    (hn : task.ledger.Numbered) :
    task.ledger.Keeps ch.ledger ∧ ch.ledger.Numbered := by
  cases h with
  | update hu =>
    rw [hu.ledger hn]
    exact ⟨.refl _, hn⟩
  | added execId process stdin stdout stderr terminal _ _ ha =>
    refine hn.enter ⟨execId, task.execSequence + 1⟩ rfl rfl ?_ rfl ?_
    · exact (((TaskState.perm_insertExec _ task.execs).map (·.entry)).cons _).trans (.swap _ _ _)
    · intro entry hen hs
      rcases List.mem_cons.mp hen with rfl | hen
      · cases hs
      · obtain ⟨exec, hx, rfl⟩ := List.mem_map.mp hen
        have hi : exec.execId = execId := Option.some.inj hs
        exact absurd (List.find?_eq_none.mp ha exec hx) (by simp [hi])
  | deleted execId => exact hn.strike rfl rfl ((List.filter_sublist.map _).cons_cons _)

/-! ## Exits -/

/-- The entry of one process is filled in, or stays as it is. -/
structure ExitLedger.Records (before after : ExitLedger) (key : Option ExecIdentity)
    (exit : RecordedExit) : Prop where
  generation : after.generation = before.generation
  sequence : after.sequence = before.sequence
  keys : after.entries.map Prod.fst = before.entries.map Prod.fst
  recorded : (key, some exit) ∈ after.entries
  others : ∀ entry ∈ after.entries, entry ∈ before.entries ∨ entry = (key, some exit)

theorem ExitLedger.Records.numbered (h : before.Records after key (exit, some time))
    (hn : before.Numbered) : after.Numbered := by
  have hk : ∀ e ∈ after.entries, e.1 ∈ before.entries.map Prod.fst := by
    intro e hen
    rw [← h.keys]
    exact List.mem_map_of_mem hen
  refine ⟨?_, fun e hen identity hi => ?_, fun e hen recorded hr => ?_⟩
  · have hm : (after.entries.map fun e => e.1.map (·.execId)) =
        before.entries.map fun e => e.1.map (·.execId) := by
      have := congrArg (List.map (Option.map (·.execId))) h.keys
      simpa only [List.map_map, Function.comp_def] using this
    rw [hm]
    exact hn.distinct
  · obtain ⟨old, hold, hs⟩ := List.mem_map.mp (hk e hen)
    rw [h.sequence]
    exact hn.numbered old hold identity (hs.trans hi)
  · rcases h.others e hen with hold | rfl
    · exact hn.dated e hold recorded hr
    · cases hr
      rfl

/-- An entry that was empty, or held this exit already, was learned or kept. -/
theorem ExitLedger.Records.learns {exit : RecordedExit} (h : before.Records after key exit)
    (hold : (key, old) ∈ before.entries)
    (hx : ∀ recorded, old = some recorded → recorded = exit) : before.Learns after := by
  refine ⟨h.generation, h.sequence.ge, fun entry hen => ?_⟩
  rcases h.others entry hen with hb | rfl
  · exact .inl hb
  · cases old with
    | none => exact .inr (.inl hold)
    | some recorded =>
      rw [hx recorded rfl] at hold
      exact .inl hold

/-- The exit of a process is the one in its entry. -/
theorem ShimMetadata.exitOf_eq_of_mem {md : ShimMetadata}
    (hn : md.ledger.Numbered) {exit : Option RecordedExit}
    (h : (key, exit) ∈ md.ledger.entries) : md.exitOf key = exit := by
  cases key with
  | none =>
    rcases List.mem_cons.mp h with h | h
    · exact (congrArg Prod.snd h).symm
    · obtain ⟨exec, -, hx⟩ := List.mem_map.mp h
      cases congrArg Prod.fst hx
  | some identity =>
    have hs : (md.execs.find? (·.identity = identity)).isSome = true := by
      rcases List.mem_cons.mp h with h | h
      · cases congrArg Prod.fst h
      · obtain ⟨exec, hx, hen⟩ := List.mem_map.mp h
        rw [List.find?_isSome]
        exact ⟨exec, hx, by simpa [ExecMetadata.entry] using congrArg Prod.fst hen⟩
    obtain ⟨exec, hf⟩ := Option.isSome_iff_exists.mp hs
    have hi : exec.identity = identity := by simpa using List.find?_some hf
    have hen : exec.entry ∈ md.ledger.entries :=
      List.mem_cons_of_mem _ (List.mem_map_of_mem (List.mem_of_find?_eq_some hf))
    have hsm := hn.unique hen h (by simp [ExecMetadata.entry, hi])
    rw [ShimMetadata.exitOf, hf]
    exact congrArg Prod.snd hsm

/-- A recorded exit stands in the entry of its process. -/
theorem ShimMetadata.mem_of_exitOf {md : ShimMetadata} {exit : RecordedExit}
    (h : md.exitOf key = some exit) : (key, some exit) ∈ md.ledger.entries := by
  cases key with
  | none => exact List.mem_cons.mpr (.inl (by rw [← h]; rfl))
  | some identity =>
    obtain ⟨exec, hf, hx⟩ := Option.bind_eq_some_iff.mp h
    have hi : exec.identity = identity := by simpa using List.find?_some hf
    have hen : exec.entry ∈ md.ledger.entries :=
      List.mem_cons_of_mem _ (List.mem_map_of_mem (List.mem_of_find?_eq_some hf))
    have hs : exec.entry = (some identity, some exit) := by rw [← hi, ← hx]; rfl
    exact hs ▸ hen

theorem TaskState.recordExitOf_eq_ok (h : TaskState.recordExitOf journal exit now error = .ok ch) :
    ch = { journal with exit := some exit, exitedAt := some (journal.exitedAt.getD now) } ∧
      ∀ sc, journal.exit = some sc → sc = exit := by
  simp only [TaskState.recordExitOf, bind_eq_ok, rejectIf_eq_ok] at h
  obtain ⟨-, hsm, h⟩ := h
  refine ⟨(Except.ok.inj h).symm, fun sc hs => ?_⟩
  simpa [hs] using hsm

/-- Giving an exec an exit fills in its entry. -/
theorem TaskState.modifyExec_records (hn : task.ledger.Numbered)
    (hf : found ∈ task.execs) (change : ExecMetadata → ExecMetadata) (exit : RecordedExit)
    (hd : ∀ exec, (change exec).identity = exec.identity)
    (hxt : ∀ exec, (change exec).recordedExit = some exit) :
    task.ledger.Records (task.modifyExec found.execId change).ledger (some found.identity)
      exit := by
  have hc : ∀ exec, (change exec).entry = (some exec.identity, some exit) := by
    intro exec
    rw [ExecMetadata.entry, hd, hxt]
  refine ⟨rfl, rfl, ?_, ?_, fun entry hen => ?_⟩
  · simp only [TaskState.ledger, ShimMetadata.ledger, metadataFromTask, TaskState.modifyExec,
      List.map_cons, List.map_map]
    congr 1
    refine List.map_congr_left fun exec _ => ?_
    simp only [Function.comp_apply]
    split
    · rw [hc]
      rfl
    · rfl
  · refine List.mem_cons_of_mem _ (List.mem_map.mpr ⟨_, List.mem_map_of_mem hf, ?_⟩)
    rw [if_pos rfl, hc]
  · rcases List.mem_cons.mp hen with rfl | hen
    · exact .inl List.mem_cons_self
    · obtain ⟨after, ha, rfl⟩ := List.mem_map.mp hen
      obtain ⟨exec, hx, rfl⟩ := List.mem_map.mp ha
      by_cases hi : exec.execId = found.execId
      · -- every exec with this ID is the one that was found
        have hs := hn.unique (TaskState.entry_mem_ledger hx) (TaskState.entry_mem_ledger hf)
          (by simp [ExecMetadata.entry, ExecMetadata.identity, hi])
        have hk : exec.identity = found.identity := Option.some.inj (congrArg Prod.fst hs)
        rw [if_pos hi, hc, hk]
        exact .inr rfl
      · rw [if_neg hi]
        exact .inl (TaskState.entry_mem_ledger hx)

/-- What `record_exit` does to the ledger: the exit is filled in with the time that the entry has, or
    with `now`. -/
theorem TaskState.recordExit_spec {ch : TaskState} (hn : task.ledger.Numbered)
    (h : task.recordExit key exit now = .ok ch) :
    ∃ old time, (key, old) ∈ task.ledger.entries ∧
      (∀ recorded, old = some recorded → recorded = (exit, some time)) ∧
      task.ledger.Records ch.ledger key (exit, some time) := by
  -- an entry with an exit has its time, so recording the same exit again changes nothing
  have hsm : ∀ journal : ProcessJournal, (key, journal.recordedExit) ∈ task.ledger.entries →
      (∀ sc, journal.exit = some sc → sc = exit) → ∀ recorded,
      journal.recordedExit = some recorded →
      recorded = (exit, some (journal.exitedAt.getD now)) := by
    intro journal hen hx recorded hrc
    obtain ⟨sc, hs, rfl⟩ := Option.map_eq_some_iff.mp hrc
    have hdt := hn.dated _ hen _ hrc
    obtain ⟨time, ht⟩ := Option.isSome_iff_exists.mp hdt
    simp only at ht
    rw [hx sc hs, ht]
    rfl
  cases key with
  | none =>
    simp only [TaskState.recordExit, bind_eq_ok] at h
    obtain ⟨journal, hj, h⟩ := h
    cases h
    obtain ⟨rfl, hx⟩ := TaskState.recordExitOf_eq_ok hj
    refine ⟨_, task.exitedAt.getD now, List.mem_cons_self,
      hsm task.toProcessJournal List.mem_cons_self hx,
      rfl, rfl, rfl, List.mem_cons_self, fun entry hen => ?_⟩
    rcases List.mem_cons.mp hen with rfl | hen
    · exact .inr rfl
    · exact .inl (List.mem_cons_of_mem _ hen)
  | some identity =>
    simp only [TaskState.recordExit, bind_eq_ok, okOr_eq_ok, rejectIf_eq_ok, not_not] at h
    obtain ⟨found, hf, -, hi, journal, hj, h⟩ := h
    cases h
    obtain ⟨rfl, hx⟩ := TaskState.recordExitOf_eq_ok hj
    obtain ⟨hm, hid⟩ := TaskState.exec_eq_some hf
    have hd : found.identity = identity := by
      simp only [ExecMetadata.identity, hid, hi]
    have hen : (some identity, found.recordedExit) ∈ task.ledger.entries := by
      rw [← hd]
      exact TaskState.entry_mem_ledger hm
    refine ⟨_, found.exitedAt.getD now, hen, hsm found.toProcessJournal hen hx, ?_⟩
    have hr := TaskState.modifyExec_records hn hm (fun exec => { exec with
        toProcessJournal := { found.toProcessJournal with
          exit := some exit, exitedAt := some (found.exitedAt.getD now) }
        stage := .exited })
      (exit, some (found.exitedAt.getD now)) (fun _ => rfl) (fun _ => rfl)
    rw [hd, hid] at hr
    exact hr

end OciRuntime
