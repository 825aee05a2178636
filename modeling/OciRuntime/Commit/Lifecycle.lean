import OciRuntime.Commit.Steps

/-!
# `OciRuntime.Commit.Lifecycle` — start, kill, pause, resume and update

From a sound store, the commits of each of these calls are `Write` steps on behalf of the call's
operation. A prepare call that succeeds leaves the operation granted or settled, as its answer says;
a completion that succeeds leaves it settled.
-/

namespace OciRuntime

open Durable Program

variable {sta : ContainerState}

/-! ## Replays -/

/-- A replay journals the response again, with the process ID that recovery has given. -/
theorem rebind_spec {α : Type} {value : α} {P : α → Store → Prop}
    (hop : s.operations.get? op.operationId = some op) (hr : Rebound sdk op oc)
    (ho : Admissible sdk op oc)
    (hP : ∀ t, Settled t op.operationId → P value t) :
    Yields (Write sdk (some op.operationId)) (settle op oc >>= fun _ => pure value) s P :=
  Yields.commit_bind (.operation rfl (.rebind hop hr ho.shape))
    (.pure (hP _ ⟨_, Directory.get?_write_self _ _ _, ho.settled⟩))

theorem carryPaused_same (h : state.Normal)
    (hr : carryPaused (isPaused state) state = .ok rebuilt) : rebuilt = state := by
  unfold carryPaused at hr
  split at hr
  · rename_i hp
    exact rebuildPausedState_same h (hp.symm ▸ hr)
  · cases hr
    rfl

theorem PidFits.of_live (h : PidFits sta pid) (hl : sta = .created ∨ sta = .running)
    (hl' : sta' = .created ∨ sta' = .running) : PidFits sta' pid := by
  rcases hl with rfl | rfl <;> rcases hl' with rfl | rfl <;> exact h

theorem loadForReplay_some (h : loadForReplay sdk op s = .ok (some stored)) :
    Live sdk s op.containerId stored := by
  unfold loadForReplay at h
  split at h
  · rename_i found hf
    cases h
    exact loadStoredContainer_ok.mp hf
  · split at h <;> cases h

/-! ## Start -/

theorem resumeStart_spec (h : Pending sdk s op)
    (hi : op.operationId = r.context.operationId) (hk : op.kind = .start) :
    Prepares sdk op.operationId (resumeStart sdk clock r op) s := by
  have hl := isLifecycle_of_kind hk rfl
  unfold resumeStart
  rw [← hi]
  refine .read_bind fun c hso => ?_
  have h := h.on (loadStoredExact_ok.mp hso)
  -- a running or stopped container shows that the start took effect
  have hd : 2 ≤ c.record.state.status.rank → Prepares sdk op.operationId (do
        check (ensureActiveOperation c op.operationId "prepare-start")
        releaseIfClaimed c
        appendStartEvents clock op.containerId op.generation c.record.state.status
        settle op (.succeeded c.record)
        return (.replayed c.record : RecordOperationPreparation)) s := by
    intro hst
    refine .check_bind fun _ ha => ?_
    refine resettle_spec h hl (ensureActiveOperation_ok.mp ha)
      (h.ok.plain hk rfl rfl (by simp)) ?_ ?_ fun _ ht => ht
    · intro t hlv
      exact .of_live (by rw [hk]; rfl) hlv rfl h.generation (by simp [hk]) fun _ => hst
    · intro t ht
      exact appendStartEvents_spec ht.sound ⟨ht.found, rfl, rfl⟩ hk
  cases hs : c.record.state.status with
  | created => exact claim_spec h hl (unfenced hk rfl) fun _ ht => ht
  | creating => exact .throw
  | running =>
    rw [hs] at hd
    exact hd (by decide)
  | stopped =>
    rw [hs] at hd
    exact hd (by decide)

theorem reconcileSucceededStart_spec (hs : Sound sdk s)
    (hop : s.operations.get? op.operationId = some op) (hk : op.kind = .start)
    (ho : op.outcome = .succeeded rp) :
    Prepares sdk op.operationId (reconcileSucceededStart sdk op rp) s := by
  have hok := hs.operations _ _ hop
  have hd : Settled s op.operationId := ⟨op, hop, by simp [ho]⟩
  refine .read_bind fun live hl => ?_
  cases live with
  | none => exact .pure hd
  | some stored =>
    dsimp only
    split
    · exact .pure hd
    · rename_i hc
      push Not at hc
      obtain ⟨-, -, hr, hrs, -⟩ := hc
      refine .read_bind fun _ _ => ?_
      refine .rejectIf_bind fun _ => ?_
      refine .check_bind fun _ _ => ?_
      refine .rejectIf_bind fun _ => ?_
      have hf := (Live.normal hs (loadForReplay_some hl)).pid
      rw [hr] at hf
      have hn := hok.response
      rw [ho] at hn
      rw [rebuildState_same hn hrs (by decide)]
      exact rebind_spec hop (.record ho (hrs ▸ hf)) (hok.plain hk rfl rfl (by simp)) fun _ ht => ht

theorem prepareStart_spec (hs : Sound sdk s) :
    Prepares sdk r.context.operationId (prepareStart sdk clock r) s := by
  refine yields_lookup (fun op hop hi => ?_) fun hn => ?_
  · rw [← hi]
    refine .check_bind fun _ hr => ?_
    obtain ⟨hk, -⟩ := validateRetry_ok hr
    split
    · rename_i hp
      exact resumeStart_spec ⟨hs, hop, hp⟩ hi hk
    · rename_i rp ho
      exact reconcileSucceededStart_spec hs hop hk ho
    · exact .throw
    · exact .throw
  · refine .check_bind fun _ _ => ?_
    refine .read_bind fun stored hst => ?_
    refine .rejectIf_bind fun hc => ?_
    exact journal_spec hs hn (loadRequested_ok hst).1 rfl ⟨rfl, rfl⟩
      (fun _ => not_not.mp hc) nofun fun _ ht => ht

theorem completeStart_spec (hs : Sound sdk s) :
    Settles sdk o (completeStart sdk clock o sta pid) s := by
  refine .check_bind fun _ hr => ?_
  refine hs.completion recordOutcome_reads (fun _ _ => .pure rfl) ?_
  rintro op hp rfl hk
  refine .read_bind fun stored hso => ?_
  have h := hp.on (loadForCompletion_ok hso)
  refine .check_bind fun state hst => ?_
  refine .check_bind fun _ ha => ?_
  have hstt := validateStartResult_status hr
  obtain ⟨hsp, hst'⟩ := startedState_step h.normal hstt hst
  refine complete_spec h (isLifecycle_of_kind hk rfl) (fun d => .advance hsp
    (fun h => absurd h (startedState_ne_creating hst)) (ensureActiveOperation_ok.mp ha) rfl)
    rfl (h.ok.plain hk rfl rfl (by simp)) ?_ ?_ fun _ ht => ht
  · intro t hl
    refine .of_live (by rw [hk]; rfl) hl rfl h.generation (by simp [hk]) fun _ => ?_
    show 2 ≤ state.status.rank
    rw [hst']
    rcases hstt with rfl | rfl <;> decide
  · intro t ht
    exact appendStartEvents_spec ht.sound ⟨ht.found, rfl, rfl⟩ hk

/-! ## Kill -/

theorem resumeKill_spec (h : Pending sdk s op)
    (hi : op.operationId = r.context.operationId) (hk : op.kind = .kill) :
    Prepares sdk op.operationId (resumeKill sdk clock r op) s := by
  have hl := isLifecycle_of_kind hk rfl
  unfold resumeKill
  rw [← hi]
  refine .read_bind fun stored hs => ?_
  have h := h.on (loadStoredExact_ok.mp hs)
  split
  · refine .check_bind fun _ ha => ?_
    exact resettle_spec h hl (ensureActiveOperation_ok.mp ha)
      (h.ok.plain hk rfl rfl (by simp)) (fun _ _ => .of_kind hk (by decide) h.normal)
      (fun t ht => appendStoppedEvent_spec ht.sound) fun _ ht => ht
  · exact claim_spec h hl (unfenced hk rfl) fun _ ht => ht

theorem prepareKill_spec (hs : Sound sdk s) :
    Prepares sdk r.context.operationId (prepareKill sdk clock r) s := by
  refine yields_lookup (fun op hop hi => ?_) fun hn => ?_
  · rw [← hi]
    refine .check_bind fun _ hr => ?_
    obtain ⟨hk, -⟩ := validateRetry_ok hr
    split
    · rename_i hp
      exact resumeKill_spec ⟨hs, hop, hp⟩ hi hk
    · rename_i rp ho
      exact .pure ⟨op, hop, by simp [ho]⟩
    · exact .throw
    · exact .throw
  · refine .check_bind fun _ _ => ?_
    refine .read_bind fun stored hst => ?_
    refine .rejectIf_bind fun _ => ?_
    exact journal_spec hs hn (loadRequested_ok hst).1 rfl ⟨rfl, rfl⟩ nofun nofun fun _ ht => ht

theorem completeKill_spec (hs : Sound sdk s) :
    Settles sdk o (completeKill sdk clock o sta pid) s := by
  refine .check_bind fun _ _ => ?_
  refine hs.completion recordOutcome_reads (fun _ _ => .pure rfl) ?_
  rintro op hp rfl hk
  refine .read_bind fun stored hso => ?_
  have h := hp.on (loadForCompletion_ok hso)
  refine .check_bind fun state hst => ?_
  refine .check_bind fun _ ha => ?_
  have hsp := (killedState_step h.normal hst).1
  exact complete_spec h (isLifecycle_of_kind hk rfl) (fun d => .advance hsp
    (fun h => absurd h (killedState_ne_creating hst)) (ensureActiveOperation_ok.mp ha) rfl)
    rfl (h.ok.plain hk rfl rfl (by simp)) (fun _ _ => .of_kind hk (by decide) hsp.normal)
    (fun t ht => appendStoppedEventFor_spec ht.sound) fun _ ht => ht

/-! ## Pause and resume -/

section Freezer

variable {action : FreezerAction}

theorem freezer_plain (action : FreezerAction) :
    action.kind.isProcessOperation = false ∧ action.kind.isCreation = false ∧
      action.kind.isFencing = false ∧ action.kind.retainsRequest = false ∧
      action.kind ≠ .start ∧ action.kind.bindsResponse = false ∧ action.kind ≠ .delete := by
  cases action <;> decide

theorem appendFreezerEvent_spec (hs : Sound sdk s) :
    Emits sdk actor (appendFreezerEvent clock op action) s :=
  appendOperationEvent_spec hs fun _ _ hk => .other (by rw [hk]; cases action <;> rfl)

theorem resumeFreezer_spec (h : Pending sdk s op)
    (hi : op.operationId = r.context.operationId) (hk : op.kind = action.kind) :
    Prepares sdk op.operationId (resumeFreezer sdk clock r action op) s := by
  obtain ⟨hp, -, hf, hpl, -, hu⟩ := freezer_plain action
  have hl := isLifecycle_of_kind hk hp
  unfold resumeFreezer
  rw [← hi]
  refine .read_bind fun stored hs => ?_
  have h := h.on (loadStoredExact_ok.mp hs)
  split
  · refine .check_bind fun _ ha => ?_
    exact resettle_spec h hl (ensureActiveOperation_ok.mp ha)
      (h.ok.plain hk hpl rfl (by simp)) (fun _ _ => .of_kind hk hu h.normal)
      (fun t ht => appendFreezerEvent_spec ht.sound) fun _ ht => ht
  · exact claim_spec h hl (unfenced hk hf) fun _ ht => ht

theorem reconcileSucceededFreezer_spec (hs : Sound sdk s)
    (hop : s.operations.get? op.operationId = some op) (hk : op.kind = action.kind)
    (ho : op.outcome = .succeeded rp) :
    Prepares sdk op.operationId (reconcileSucceededFreezer sdk op rp action) s := by
  obtain ⟨-, -, -, hpl, -⟩ := freezer_plain action
  have hok := hs.operations _ _ hop
  have hd : Settled s op.operationId := ⟨op, hop, by simp [ho]⟩
  refine .read_bind fun live hl => ?_
  cases live with
  | none => exact .pure hd
  | some stored =>
    dsimp only
    split
    · exact .pure hd
    · rename_i hc
      push Not at hc
      obtain ⟨-, -, hrn, hrs, hp, -⟩ := hc
      have hf := (Live.normal hs (loadForReplay_some hl)).pid
      rw [hrn, ← hrs] at hf
      have hn := hok.response
      rw [ho] at hn
      rw [rebuildState_same hn hrs (by decide), ← hp]
      refine .check_bind fun rebound hr => ?_
      obtain rfl := rebuildPausedState_same (hn.withPid hf) hr
      refine .check_bind fun _ _ => ?_
      refine .rejectIf_bind fun _ => ?_
      exact rebind_spec hop (.record ho hf) (hok.plain hk hpl rfl (by simp)) fun _ ht => ht

theorem prepareFreezer_spec (hs : Sound sdk s) :
    Prepares sdk r.context.operationId (prepareFreezer sdk clock r action) s := by
  refine yields_lookup (fun op hop hi => ?_) fun hn => ?_
  · rw [← hi]
    refine .check_bind fun _ hr => ?_
    obtain ⟨hk, -⟩ := validateRetry_ok hr
    split
    · rename_i hp
      exact resumeFreezer_spec ⟨hs, hop, hp⟩ hi hk
    · rename_i rp ho
      exact reconcileSucceededFreezer_spec hs hop hk ho
    · exact .throw
    · exact .throw
  · refine .check_bind fun _ _ => ?_
    refine .read_bind fun stored hso => ?_
    refine .rejectIf_bind fun _ => ?_
    obtain ⟨hpc, hc, hf, hpl, hst, -⟩ := freezer_plain action
    exact journal_spec hs hn (loadRequested_ok hso).1
      ((shapeFault_plain hpl).mpr ⟨rfl, rfl⟩) ⟨hpc, hc⟩ (fun h => absurd h hst)
      (fun h => nomatch hf.symm.trans h) fun _ ht => ht

theorem completeFreezer_spec (hs : Sound sdk s) :
    Settles sdk o (completeFreezer sdk clock o sta pid paused action) s := by
  refine .check_bind fun _ _ => ?_
  refine hs.completion recordOutcome_reads (fun _ _ => .pure rfl) ?_
  rintro op hpn rfl hk
  obtain ⟨hp, -, -, hpl, -, hu⟩ := freezer_plain action
  refine .read_bind fun stored hso => ?_
  have h := hpn.on (loadForCompletion_ok hso)
  refine .check_bind fun state hst => ?_
  refine .check_bind fun _ ha => ?_
  obtain ⟨hsp, -, -, hr, -⟩ := frozenState_step h.normal hst
  exact complete_spec h (isLifecycle_of_kind hk hp) (fun d => .advance hsp
    (fun h => absurd (hr.symm.trans h) (by decide)) (ensureActiveOperation_ok.mp ha) rfl)
    rfl (h.ok.plain hk hpl rfl (by simp)) (fun _ _ => .of_kind hk hu hsp.normal)
    (fun t ht => appendFreezerEvent_spec ht.sound) fun _ ht => ht

end Freezer

/-! ## Update -/

theorem reconcileSucceededUpdate_spec (hs : Sound sdk s)
    (hop : s.operations.get? op.operationId = some op) (hk : op.kind = .update)
    (ho : op.outcome = .succeeded rp) :
    Prepares sdk op.operationId (reconcileSucceededUpdate sdk op rp) s := by
  have hok := hs.operations _ _ hop
  have hd : Settled s op.operationId := ⟨op, hop, by simp [ho]⟩
  refine .read_bind fun live hl => ?_
  cases live with
  | none => exact .pure hd
  | some stored =>
    dsimp only
    split
    · exact .pure hd
    · rename_i hc
      simp only [not_or, not_and_or, not_not] at hc
      obtain ⟨-, -, hst, hrs, -⟩ := hc
      have hn := hok.response
      rw [ho] at hn
      have hf := (Live.normal hs (loadForReplay_some hl)).pid.of_live hst hrs
      rw [rebuildState_same hn rfl (by rcases hrs with h | h <;> rw [h] <;> decide)]
      refine .check_bind fun rebound hr => ?_
      obtain rfl := carryPaused_same (hn.withPid hf) hr
      refine .check_bind fun _ _ => ?_
      refine .rejectIf_bind fun _ => ?_
      exact rebind_spec hop (.record ho hf) (hok.plain hk rfl rfl (by simp)) fun _ ht => ht

theorem prepareUpdate_spec (hs : Sound sdk s) :
    Prepares sdk r.context.operationId (prepareUpdate sdk clock r) s := by
  refine .check_bind fun _ _ => ?_
  refine yields_lookup (fun op hop hi => ?_) fun hn => ?_
  · rw [← hi]
    refine .check_bind fun _ hr => ?_
    obtain ⟨hk, -⟩ := validateRetry_ok hr
    split
    · rename_i hp
      refine .read_bind fun stored hst => ?_
      have hpn : Pending sdk s op := ⟨hs, hop, hp⟩
      exact claim_spec (hpn.on (loadStoredExact_ok.mp hst)) (isLifecycle_of_kind hk rfl)
        (unfenced hk rfl) fun _ ht => ht
    · rename_i rp ho
      exact reconcileSucceededUpdate_spec hs hop hk ho
    · exact .throw
    · exact .throw
  · refine .check_bind fun _ _ => ?_
    refine .read_bind fun stored hst => ?_
    refine .rejectIf_bind fun _ => ?_
    exact journal_spec hs hn (loadRequested_ok hst).1 rfl ⟨rfl, rfl⟩ nofun nofun fun _ ht => ht

theorem completeUpdate_spec (hs : Sound sdk s) :
    Settles sdk o (completeUpdate sdk clock o sta pid paused) s := by
  refine .check_bind fun _ _ => ?_
  refine hs.completion recordOutcome_reads (fun _ _ => .pure rfl) ?_
  rintro op hp rfl hk
  refine .read_bind fun stored hst => ?_
  have h := hp.on (loadForCompletion_ok hst)
  refine .rejectIf_bind fun _ => ?_
  refine .check_bind fun _ ha => ?_
  exact complete_spec h (isLifecycle_of_kind hk rfl)
    (fun d => .release h.normal (ensureActiveOperation_ok.mp ha) rfl) rfl
    (h.ok.plain hk rfl rfl (by simp)) (fun _ _ => .of_kind hk (by decide) h.normal)
    (fun t ht => appendOperationEvent_spec ht.sound fun _ _ hev => .other (by rw [hev]; rfl))
    fun _ ht => ht

end OciRuntime
