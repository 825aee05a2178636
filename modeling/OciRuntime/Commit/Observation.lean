import OciRuntime.Commit.Processes

/-!
# `OciRuntime.Commit.Observation` — waits, state observations and replaced processes

These calls are not journaled themselves. A wait and the replacement of executed processes act on
behalf of no operation; an observation may drop the lifecycle claim of a container, and it does so
only for the operation that it settles.
-/

namespace OciRuntime

open Durable Program

variable {id : ContainerId}

variable {state : State}

/-! ## Waits -/

theorem eventAttribute_exitStatus (sta : ExitStatus) :
    eventAttribute (exitStatusAttributes sta) "operation-id" = none := by
  unfold exitStatusAttributes
  cases sta.exitCode <;> cases sta.signal <;> rfl

theorem waitedState_ne_creating (h : waitedState c = .ok state) :
    c.record.state.status ≠ .creating := by
  intro hc
  unfold waitedState at h
  dsimp only at h
  rw [hc] at h
  cases h

/-- Storing the terminal result of the init process, with the state it implies. -/
theorem RecordStep.waited (hst : StateStep c.record.state state)
    (hs : c.record.state.status ≠ .creating) :
    RecordStep ops actor d c { c with record := { c.record with state }, initExitStatus := some sta } :=
  .change hst (fun h => absurd h hs) (.inl rfl) subset_rfl

theorem completeInitWait_spec {target : ProcessTarget} (hs : Sound sdk s) (hl : Live sdk s id c) :
    Yields (Write sdk none) (completeInitWait clock c target sta) s fun _ _ => True := by
  unfold completeInitWait
  split
  · split
    · exact .pure trivial
    · exact .throw
  · refine .check_bind fun state hstt => ?_
    obtain ⟨hsp, -⟩ := waitedState_step (hl.normal hs) hstt
    have hsr := waitedState_ne_creating hstt
    refine hs.bind (appendProcessEvent_spec hs (eventAttribute_exitStatus sta) rfl) ?_
    intro _ t ht hst
    have hl' := hl.congr (t := t) (by rw [hst.containers])
    split
    · obtain ⟨hw, -⟩ := @Live.write sdk none t id c
        { c with initExitStatus := some sta } ht hl' .nobody fun d _ =>
        .waited (.refl (hl.normal hs)) hsr
      exact .commit_bind hw (.pure trivial)
    · refine ht.bind (appendStoppedEvent_spec ht) fun _ u hu htu => ?_
      obtain ⟨hw, -⟩ := (hl'.congr (t := u) (by rw [htu.containers])).write hu .nobody
        fun d _ => .waited hsp hsr
      exact .commit_bind hw (.pure trivial)

theorem completeProcessWait_spec {target : ProcessTarget} (hs : Sound sdk s) :
    Yields (Write sdk none) (completeProcessWait sdk clock target sta) s fun _ _ => True := by
  refine .check_bind fun _ hv => ?_
  refine .check_bind fun generation hg => ?_
  rw [okOr_eq_ok] at hg
  refine .read_bind fun c hso => ?_
  obtain ⟨hl, hsm⟩ := loadStoredExact_ok.mp hso
  split
  · exact completeInitWait_spec hs hl
  · refine .read_bind fun process hpr => ?_
    have htg : target = exactProcessTarget c target.processId := by
      obtain ⟨⟨targetId, targetGeneration⟩, p⟩ := target
      obtain rfl : c.id = targetId := hl.id_eq
      obtain rfl : targetGeneration = some c.record.generation := by rw [hsm]; exact hg
      rfl
    rw [htg] at hpr
    have hpr := loadStoredProcess_ok hl hpr
    split
    · split
      · exact .pure trivial
      · exact .throw
    · refine hs.bind (appendProcessEvent_spec hs (eventAttribute_exitStatus sta) rfl) ?_
      intro _ t ht hst
      have hpr' := hpr.congr (t := t) (by rw [hst.containers])
      have hx : ∀ exit, some sta = some exit → exit.validate = .ok () := by
        rintro exit ⟨⟩
        exact hv
      obtain ⟨hw, -⟩ := LiveProcess.write (s := t) ht hpr' .nobody
        { process with exitStatus := some sta } rfl fun ps hp =>
        .change hp (hpr'.pid_ne ht) hx (.inl rfl) subset_rfl
      exact .commit_bind hw (.pure trivial)

/-! ## Replaced processes -/

theorem collectObservedProcesses_pid {seen ob evidence : List ProcessRecord}
    (h : collectObservedProcesses target initPid seen ob = .ok evidence)
    (hs : ∀ pr ∈ seen, pr.pid ≠ some 0) :
    ∀ pr ∈ evidence, pr.pid ≠ some 0 := by
  induction ob generalizing seen with
  | nil =>
    cases h
    exact hs
  | cons pr rest ih =>
    unfold collectObservedProcesses at h
    simp only [bind_eq_ok, rejectIf_eq_ok, not_or] at h
    obtain ⟨_, ⟨-, -, -, hp, -⟩, _, -, h⟩ := h
    refine ih h ?_
    intro other ht
    rcases List.mem_cons.mp ht with rfl | ht
    · exact hp
    · exact hs other ht

theorem liveProcesses_mem (h : liveProcesses c s names = .ok live) :
    ∀ e ∈ live, loadStoredProcess (exactProcessTarget c e.1) s = .ok e.2 := by
  induction names generalizing live with
  | nil =>
    cases h
    simp
  | cons fileName rest ih =>
    unfold liveProcesses at h
    dsimp only at h
    split at h
    · obtain ⟨_, -, h⟩ := bind_eq_ok.mp h
      exact ih h
    · simp only [bind_eq_ok, pure_eq_ok] at h
      obtain ⟨p, -, found, hf, others, ho, rfl⟩ := h
      intro e hen
      split at hen
      · rcases List.mem_cons.mp hen with rfl | hen
        · exact hf
        · exact ih ho e hen
      · exact ih ho e hen

theorem loadLiveProcesses_ok (hlv : Live sdk s id c)
    (h : loadLiveProcesses sdk c s = .ok live) (hp : live.lookup p = some process) :
    LiveProcess sdk s id c p process := by
  obtain ⟨before, after, rfl, -⟩ := List.lookup_eq_some_iff.mp hp
  unfold loadLiveProcesses at h
  split at h
  · simp at h
  · exact loadStoredProcess_ok hlv (liveProcesses_mem h (p, process) (by simp))

/-- A rewrite of one process record leaves the other ones of the container. -/
theorem LiveProcess.write_of_ne (hs : Sound sdk s) (h : LiveProcess sdk s id c p process)
    (hq : LiveProcess sdk s id c q other) (hn : q ≠ p)
    (ht : new.record.target = process.record.target) :
    LiveProcess sdk (s.writeProcess new) id c q other := by
  have hls := (loadProcess_ok.mp (h.ok hs).loads).2.2.1
  obtain ⟨d, ps, hd, hl, hps, -⟩ := h
  obtain ⟨d', ps', hd', -, hps', hf⟩ := hq
  cases hd.symm.trans hd'
  cases hps.symm.trans hps'
  have hi : new.record.target.container.id = id := by
    rw [ht, hls]
    exact hl.id_eq
  have hp : new.record.target.processId = p := by
    rw [ht, hls]
    rfl
  rw [Store.writeProcess_eq (hi ▸ hd) hps, hi, hp]
  refine ⟨_, _, Store.setDirectory_self _ _ _, ?_, rfl,
    (Directory.get?_write_of_ne _ _ hn).trans hf⟩
  exact ⟨hl.record, hl.schema, hl.id_eq, hl.generation, hl.stateId, hl.state, hl.contract⟩

/-- A process record with another process ID. -/
def StoredProcess.withPid (process : StoredProcess) (pid : Option Nat) : StoredProcess :=
  { process with record := { process.record with pid } }

/-- Each rewrite changes the process ID of one record only, so the records that were loaded first
    still describe the directory up to process IDs. -/
theorem rebindExecProcesses_spec (hs : Sound sdk s)
    (hd : ∀ p pr, du.lookup p = some pr → ∃ pid, LiveProcess sdk s id c p (pr.withPid pid))
    (hp : ∀ pr ∈ ob, pr.pid ≠ some 0) :
    Yields (Write sdk none) (rebindExecProcesses du ob) s fun _ _ => True := by
  induction ob generalizing s with
  | nil => exact .pure trivial
  | cons pr rest ih =>
    refine .check_bind fun found hf => ?_
    rw [okOr_eq_ok] at hf
    obtain ⟨pid, hl⟩ := hd _ _ hf
    have hrs : ∀ other ∈ rest, other.pid ≠ some 0 :=
      fun other hth => hp other (List.mem_cons_of_mem _ hth)
    have hr : Yields (Write sdk none) (rebindExecProcess found pr) s fun _ t =>
        ∀ p pr, du.lookup p = some pr → ∃ pid, LiveProcess sdk t id c p (pr.withPid pid) := by
      refine .rejectIf_bind fun _ => ?_
      split
      · exact .pure hd
      · obtain ⟨hw, hrw⟩ : Write sdk none s _ ∧ _ := hl.change hs
          .nobody (hp pr List.mem_cons_self) (.inl rfl) subset_rfl
        refine .commit hw ?_
        intro q other hth
        by_cases hq : q = pr.target.processId
        · subst hq
          cases hf.symm.trans hth
          exact ⟨pr.pid, hrw.live⟩
        · obtain ⟨pid', hl'⟩ := hd q other hth
          exact ⟨pid', hl.write_of_ne hs hl' hq rfl⟩
    exact hs.bind hr fun _ t ht hk => ih ht hk hrs

theorem observeRecreatedExecProcesses_spec (hs : Sound sdk s) :
    Yields (Write sdk none) (observeRecreatedExecProcesses sdk target ob) s fun _ _ => True := by
  refine .check_bind fun generation _ => ?_
  refine .read_bind fun c hst => ?_
  obtain ⟨hlv, -⟩ := loadStoredExact_ok.mp hst
  refine .rejectIf_bind fun _ => ?_
  refine .check_bind fun initPid _ => ?_
  refine .check_bind fun evidence hev => ?_
  refine .read_bind fun du hd => ?_
  refine .rejectIf_bind fun _ => ?_
  have hl : ∀ p pr, du.lookup p = some pr →
      ∃ pid, LiveProcess sdk s target.id c p (pr.withPid pid) :=
    fun p pr hp => ⟨pr.record.pid, loadLiveProcesses_ok hlv hd hp⟩
  refine rebindExecProcesses_spec hs hl fun pr hpr => ?_
  refine collectObservedProcesses_pid hev (by simp) pr ?_
  exact (List.mem_insertionSort _).mp hpr

/-! ## State observations -/

theorem observedState_ne_creating
    (h : observedState id state activeKind ob recreated = .ok (state', changed)) :
    state.status ≠ .creating := by
  intro hc
  unfold observedState at h
  rw [hc] at h
  cases h

/-- The claim an observation finds is the one of a pending lifecycle operation. -/
theorem observedActive_ok (hs : Sound sdk s) (hlv : Live sdk s id c)
    (h : observedActive sdk c s = .ok active) :
    active.map (·.operationId) = c.activeOperation ∧ ∀ op, active = some op →
        PendingAt s.operations id c.record.generation op ∧ op.isLifecycle = true := by
  unfold observedActive at h
  cases ha : c.activeOperation with
  | none =>
    rw [ha] at h
    cases h
    exact ⟨rfl, by simp⟩
  | some o =>
    rw [ha] at h
    simp only [bind_eq_ok, rejectIf_eq_ok, pure_eq_ok, not_or, not_not] at h
    obtain ⟨op, hl, _, ⟨-, hg, hp⟩, rfl⟩ := h
    obtain ⟨ho, -, hi, -⟩ := loadOperation_ok.mp hl
    subst hi
    obtain ⟨d, -, hok⟩ := hlv.recordOk hs
    obtain ⟨holder, hh, heq, hlf, -⟩ := hok.active _ ha
    cases (heq ▸ hh.found).symm.trans ho
    refine ⟨rfl, ?_⟩
    rintro op ⟨⟩
    exact ⟨⟨hh, hp⟩, hlf⟩

/-- The operations that an observation settles keep no request. -/
theorem observationCompletes_kind (h : observationCompletes kind ob = true) :
    kind.retainsRequest = false ∧ (kind ≠ .start → kind.bindsResponse = false) ∧
      kind ≠ .delete ∧ (kind = .start → 2 ≤ ob.status.rank) := by
  cases kind <;> simp [observationCompletes] at h <;>
    refine ⟨rfl, fun hs => ?_, by decide, fun hs => ?_⟩
  · exact absurd rfl hs
  · rcases h with h | h <;> rw [h] <;> decide
  all_goals first | rfl | cases hs

theorem observedOutcome_ok (h : observedOutcome op rc = .ok oc) :
    oc.isPlain = true ∧ oc ≠ .prepared ∧ (rc.state.Normal → oc.Normal) ∧
      (op.kind = .start → oc = .succeeded rc) := by
  unfold observedOutcome at h
  split at h
  · rename_i hk
    cases h
    exact ⟨rfl, by simp, fun _ => trivial, by simp [hk]⟩
  · cases h
    exact ⟨rfl, by simp, id, fun _ => rfl⟩
  · cases h
    exact ⟨rfl, by simp, id, fun _ => rfl⟩
  · cases h
    exact ⟨rfl, by simp, id, fun _ => rfl⟩
  · cases h
    exact ⟨rfl, by simp, id, fun _ => rfl⟩
  · cases h

theorem appendObservedEvent_spec (hs : Sound sdk s)
    (ho : s.operations.get? op.operationId = some op) :
    Emits sdk actor (appendObservedEvent clock op) s := by
  unfold appendObservedEvent
  split
  · rename_i hk
    exact appendContainerEvent_spec hs rfl fun _ hc hev =>
      .started hc hev ⟨ho, rfl, rfl⟩ hk
  · exact appendFreezerEvent_spec hs
  · exact appendFreezerEvent_spec hs
  · exact .pure (.refl s)

theorem appendObservedStop_spec (hs : Sound sdk s) :
    Emits sdk actor (appendObservedStop clock c ob) s := by
  unfold appendObservedStop
  split
  · exact appendStoppedEvent_spec hs
  · exact .pure (.refl s)

/-- The end of an observation that settles the active operation. -/
theorem settleObserved_spec (h : PendingOn sdk s op c) (hl : op.isLifecycle = true)
    (hf : c.activeOperation = none)
    (hsa : c.record.state.status = ob.status)
    (hc : observationCompletes op.kind ob = true) :
    Settles sdk op.operationId (settleObserved (some op) c.record) s := by
  obtain ⟨hr, hu, hd, hs⟩ := observationCompletes_kind hc
  refine .check_bind fun oc ho => ?_
  obtain ⟨hp, hse, hn, hst⟩ := observedOutcome_ok ho
  refine settle_free_spec h hl hf (h.ok.plain rfl hr hp hse) ?_
  by_cases hk : op.kind = .start
  · rw [hst hk]
    refine .of_live (by rw [hk]; rfl) h.live rfl h.generation ?_ ?_
    · simp [hk]
    · rw [hsa]
      exact hs
  · exact .other (hu hk) (fun h => absurd h hd) (hn h.normal)

/-- An observation settles the operation that holds the lifecycle claim or leaves it its claim. -/
theorem observeStateInner_spec (hs : Sound sdk s)
    (hct : ∀ c, Live sdk s target.id c → actor = c.activeOperation) :
    Yields (Write sdk actor) (observeStateInner sdk clock target ob recreated) s
      fun _ t => ∀ o, actor = some o → Settled t o ∨ Granted t o := by
  refine .check_bind fun _ hob => ?_
  refine .read_bind fun c hso => ?_
  obtain ⟨hl, -⟩ := loadRequested_ok hso
  refine .read_bind fun active ha => ?_
  obtain ⟨hh, hp⟩ := observedActive_ok hs hl ha
  have hct := hct c hl
  refine .check_bind fun _ _ => ?_
  refine .check_bind fun ⟨state, changed⟩ hst => ?_
  obtain ⟨hsp, hsa, hsm, -⟩ := observedState_step (hl.normal hs) hob hst
  have hsr := observedState_ne_creating hst
  have hcs : ActsOn s.operations actor target.id c.record.generation := by
    rw [hct, ← hh]
    cases active with
    | none => exact .nobody
    | some op => exact .of_journaled (hp op rfl).1.toJournaledAt rfl
  have hrc : ∀ active', active' = c.activeOperation ∨ active' = none ∧ c.activeOperation = actor →
      ∀ d, s.containers.get? target.id = some d → RecordStep s.operations actor d c
        { c with record := { c.record with state }, activeOperation := active' } :=
    fun active' hk d _ => .change hsp (fun h => absurd h hsr) hk subset_rfl
  cases hcm : completedOperation active ob with
  | none =>
    -- No operation is settled: the claim stays where it is.
    simp only [Option.isSome_none, Bool.or_false, Bool.false_eq_true, if_false]
    have hwr : Yields (Write sdk actor) (writeObserved
        { c with record := { c.record with state } } changed) s fun _ t =>
        Rewritten sdk s target.id { c with record := { c.record with state } } t := by
      unfold writeObserved
      split
      · obtain ⟨hw, hr⟩ := hl.write hs hcs (hrc _ (.inl rfl))
        exact .commit hw hr
      · rename_i hun
        rw [hsm (Bool.eq_false_iff.mpr hun)]
        exact .pure ⟨hl, rfl⟩
    refine hs.bind hwr fun _ t ht hr => ?_
    have hq : ∀ u, Yields (Write sdk actor) (pure () : StoreM Unit) u fun _ v => v = u :=
      fun u => .pure rfl
    refine ht.bind (hq t) ?_
    rintro _ _ - rfl
    refine ht.bind (appendObservedStop_spec ht) fun _ u hu htu => ?_
    refine hu.bind (hq u) ?_
    rintro _ v - rfl
    refine .pure fun o ho => .inr ?_
    rw [hct, ← hh] at ho
    obtain ⟨op, rfl, rfl⟩ := Option.map_eq_some_iff.mp ho
    obtain ⟨hop, -⟩ := hp op rfl
    have hl' := hr.live.congr (t := v) (by rw [htu.containers])
    rw [← hop.container] at hl'
    have hp : Pending sdk v op :=
      ⟨hu, by rw [htu.operations, hr.operations, hop.found], hop.prepared⟩
    exact (hp.on ⟨hl', hop.generation.symm⟩).granted hh.symm
  | some op =>
    -- The settled operation drops its claim first.
    simp only [Option.isSome_some, Bool.or_true, if_true]
    obtain ⟨rfl, hc⟩ := Option.filter_eq_some_iff.mp hcm
    obtain ⟨hop, hlf⟩ := hp op rfl
    obtain ⟨hw, hr⟩ := hl.write hs hcs (hrc none (.inr ⟨rfl, hct.symm⟩))
    refine .commit_bind hw ?_
    obtain rfl : actor = some op.operationId := hct.trans hh.symm
    have ht := hs.write hw
    have hl' := hr.live
    rw [← hop.container] at hl'
    have h : PendingOn sdk _ op _ := Pending.on
      ⟨ht, hr.operations ▸ hop.found, hop.prepared⟩ ⟨hl', hop.generation.symm⟩
    refine ht.bind (appendObservedEvent_spec ht h.found) fun _ u hu htu => ?_
    have h := h.onlyEvents hu htu
    refine hu.bind (appendObservedStop_spec hu) fun _ v hv huv => ?_
    refine Yields.bind (settleObserved_spec (h.onlyEvents hv huv) hlf rfl hsa hc) ?_
    rintro _ w hd
    refine .pure ?_
    rintro _ ⟨⟩
    exact .inl hd

theorem observeRecreatedProcess_spec (hs : Sound sdk s)
    (hc : ∀ c, Live sdk s target.id c → actor = c.activeOperation) :
    Yields (Write sdk actor)
      (observeRecreatedProcess sdk clock target ob sta paused recreated name message) s
      fun _ t => ∀ o, actor = some o → Settled t o ∨ Granted t o := by
  exact .rejectIf_bind fun _ => observeStateInner_spec hs hc

end OciRuntime
