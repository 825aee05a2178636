import OciRuntime.Commit.Frame

/-!
# `OciRuntime.Commit.StateStep` — how the OCI state of one generation can change

Every function that computes a new state keeps the version, the ID, the bundle and the caller's
annotations, never moves the status back, and produces a *normal* state: the process ID fits the
status and the freezer annotation is present only while running.
-/

namespace OciRuntime

open Durable

variable {state rebuilt state' : State} {status : ContainerState} {pid : Option Int}

/-- Position of a status in the lifecycle. -/
def ContainerState.rank : ContainerState → Nat
  | .creating => 0
  | .created => 1
  | .running => 2
  | .stopped => 3

/-- The annotations of a state without the freezer annotation of the runtime. -/
def callerAnnotations (state : State) : Annotations :=
  (state.annotations.getD ∅).erase pausedStateAnnotation

/-- The process ID that fits a status. -/
def PidFits (status : ContainerState) (pid : Option Int) : Prop :=
  match status with
  | .creating | .stopped => pid = none
  | .created | .running => ∃ p > 0, pid = some p

/-- A state as the runtime writes it. -/
structure State.Normal (state : State) : Prop where
  pid : PidFits state.status state.pid
  annotations : state.annotations ≠ some ∅
  flag : ∀ value, (state.annotations.getD ∅).lookup pausedStateAnnotation = some value →
    value = "true" ∧ state.status = .running

/-- One change of the state of a generation. -/
structure StateStep (a b : State) : Prop where
  version : b.version = a.version
  id_eq : b.id = a.id
  bundle : b.bundle = a.bundle
  caller : callerAnnotations b = callerAnnotations a
  rank : a.status.rank ≤ b.status.rank
  normal : b.Normal

theorem StateStep.refl (h : a.Normal) : StateStep a a :=
  ⟨rfl, rfl, rfl, rfl, le_rfl, h⟩

theorem StateStep.trans (ha : StateStep a b) (hb : StateStep b c) : StateStep a c :=
  ⟨hb.version.trans ha.version, hb.id_eq.trans ha.id_eq, hb.bundle.trans ha.bundle,
    hb.caller.trans ha.caller, ha.rank.trans hb.rank, hb.normal⟩

theorem validateState_ok_of_pidFits (h : PidFits state.status state.pid) :
    validateState state = .ok () := by
  unfold validateState
  cases hpd : state.pid with
  | none => rfl
  | some pid =>
    rw [hpd] at h
    have hps : 0 ≤ pid := by
      cases hs : state.status <;> simp only [hs, PidFits] at h
      · cases h
      · obtain ⟨p, hp, heq⟩ := h
        cases heq
        omega
      · obtain ⟨p, hp, heq⟩ := h
        cases heq
        omega
      · cases h
    simp [not_lt.mpr hps]

theorem isPaused_iff : isPaused state = true ↔
      (state.annotations.getD ∅).lookup pausedStateAnnotation = some "true" := by
  unfold isPaused
  cases state.annotations with
  | none => simp
  | some annotations => simp

/-! ## The freezer annotation -/

theorem nonEmptyAnnotations_ne (annotations : Annotations) :
    nonEmptyAnnotations annotations ≠ some ∅ := by
  unfold nonEmptyAnnotations
  split
  · simp
  · rename_i h
    simpa using h

@[simp] theorem nonEmptyAnnotations_getD (annotations : Annotations) :
    (nonEmptyAnnotations annotations).getD ∅ = annotations := by
  unfold nonEmptyAnnotations
  split
  · rename_i h
    simp [h]
  · simp

/-- The annotations of a rebuilt state. -/
theorem rebuildState_annotations : (rebuildState state status pid).annotations.getD ∅ =
      if status = .stopped then callerAnnotations state else state.annotations.getD ∅ := by
  unfold rebuildState callerAnnotations
  cases state.annotations with
  | none =>
    by_cases h : status = .stopped
    · simp [h]
      rfl
    · simp [h]
  | some annotations => by_cases h : status = .stopped <;> simp [h]

theorem erase_erase_self (annotations : Annotations) (key : String) :
    (annotations.erase key).erase key = annotations.erase key := by
  refine Finmap.ext_lookup fun k => ?_
  by_cases hk : k = key
  · subst hk
    rw [Finmap.lookup_erase, Finmap.lookup_erase]
  · rw [Finmap.lookup_erase_ne hk]

@[simp] theorem callerAnnotations_rebuildState (state : State) (status : ContainerState)
    (pid : Option Int) :
    callerAnnotations (rebuildState state status pid) = callerAnnotations state := by
  unfold callerAnnotations
  rw [rebuildState_annotations]
  split
  · exact erase_erase_self _ _
  · rfl

/-- Rebuilding a normal state with a fitting process ID. -/
theorem rebuildState_step (h : state.Normal) (hrn : state.status.rank ≤ status.rank)
    (hp : PidFits status pid) : StateStep state (rebuildState state status pid) := by
  refine ⟨rfl, rfl, rfl, callerAnnotations_rebuildState _ _ _, hrn, hp, ?_, ?_⟩
  · unfold rebuildState
    cases state.annotations with
    | none => simp
    | some annotations => exact nonEmptyAnnotations_ne _
  · intro value hv
    rw [rebuildState_annotations] at hv
    split at hv
    · rw [callerAnnotations, Finmap.lookup_erase] at hv
      cases hv
    · rename_i hs
      obtain ⟨ht, hr⟩ := h.flag value hv
      refine ⟨ht, ?_⟩
      rw [hr] at hrn
      cases status with
      | running => rfl
      | stopped => exact absurd rfl hs
      | creating => simp [ContainerState.rank] at hrn
      | created => simp [ContainerState.rank] at hrn

/-- The annotations of a state whose freezer annotation was set or cleared. -/
theorem rebuildPausedState_annotations (h : rebuildPausedState state paused = .ok rebuilt) :
    rebuilt.annotations = nonEmptyAnnotations
      (if paused then (state.annotations.getD ∅).insert pausedStateAnnotation "true"
        else (state.annotations.getD ∅).erase pausedStateAnnotation) := by
  unfold rebuildPausedState at h
  split at h
  · cases h
  · cases h
    rfl

theorem callerAnnotations_rebuildPausedState (h : rebuildPausedState state paused = .ok rebuilt) :
    callerAnnotations rebuilt = callerAnnotations state := by
  unfold callerAnnotations
  rw [rebuildPausedState_annotations h, nonEmptyAnnotations_getD]
  refine Finmap.ext_lookup fun k => ?_
  by_cases hk : k = pausedStateAnnotation
  · subst hk
    rw [Finmap.lookup_erase, Finmap.lookup_erase]
  · rw [Finmap.lookup_erase_ne hk, Finmap.lookup_erase_ne hk]
    cases paused with
    | false => exact Finmap.lookup_erase_ne hk
    | true => exact Finmap.lookup_insert_of_ne _ hk

/-- Setting or clearing the freezer annotation of a normal state. -/
theorem rebuildPausedState_step (h : state.Normal)
    (ho : rebuildPausedState state paused = .ok rebuilt) :
    StateStep state rebuilt ∧ isPaused rebuilt = paused ∧ rebuilt.status = .running ∧
      rebuilt.pid = state.pid := by
  obtain ⟨hr, hv, hi, hb, hs, hpd⟩ := rebuildPausedState_ok ho
  have ha := rebuildPausedState_annotations ho
  have hl : (rebuilt.annotations.getD ∅).lookup pausedStateAnnotation =
      if paused then some "true" else none := by
    rw [ha, nonEmptyAnnotations_getD]
    cases paused <;> simp
  refine ⟨⟨hv, hi, hb, callerAnnotations_rebuildPausedState ho, by rw [hs],
    ?_, ?_, ?_⟩, ?_, hs.trans hr, hpd⟩
  · rw [hs, hpd]
    exact h.pid
  · rw [ha]
    exact nonEmptyAnnotations_ne _
  · intro value hvl
    rw [hl] at hvl
    cases paused with
    | false => cases hvl
    | true =>
      cases hvl
      exact ⟨rfl, hs.trans hr⟩
  · cases paused with
    | false =>
      rw [Bool.eq_false_iff]
      intro hp
      rw [isPaused_iff, hl] at hp
      cases hp
    | true => rw [isPaused_iff, hl]; rfl

/-! ## The functions that compute a new state -/

theorem advance_ok {state state' : LifecycleState} :
    advance state event name = .ok state' ↔ state.transition event = .ok state' :=
  mapError_eq_ok

theorem createdState_step {pid : Int} (hn : state.Normal) (hp : 0 < pid)
    (h : createdState opn state pid = .ok state') :
    StateStep state state' ∧ state'.status = .created ∧ state'.pid = some pid := by
  unfold createdState at h
  split at h
  · rename_i hc
    simp only [bind_eq_ok, advance_ok, pure_eq_ok] at h
    obtain ⟨lifecycle, hl, _, _, rfl⟩ := h
    cases hl
    refine ⟨rebuildState_step hn ?_ ⟨pid, hp, rfl⟩, rfl, rfl⟩
    rw [hc]
    exact Nat.zero_le _
  · rename_i hcr
    split at h
    · rename_i hs
      cases h
      exact ⟨.refl hn, hcr, hs⟩
    · cases h
  · cases h

/-- What a driver may report about a start. -/
theorem validateStartResult_status (h : validateStartResult status pid = .ok ()) :
    status = .running ∨ status = .stopped := by
  cases status <;> cases pid <;> simp [validateStartResult] at h ⊢

theorem startLifecycle_ok {name : String} (hst : status = .running ∨ status = .stopped)
    (h : startLifecycle status name = .ok lifecycle) : containerState lifecycle = status := by
  unfold startLifecycle at h
  simp only [bind_eq_ok, advance_ok] at h
  obtain ⟨started, hs, h⟩ := h
  cases hs
  rcases hst with rfl | rfl
  · cases h
    rfl
  · cases h
    rfl

theorem startedState_step (hnr : state.Normal) (hs : status = .running ∨ status = .stopped)
    (h : startedState opn state status pid = .ok state') :
    StateStep state state' ∧ state'.status = status := by
  unfold startedState at h
  split at h
  · rename_i hc
    simp only [bind_eq_ok, pure_eq_ok] at h
    obtain ⟨_, _, lifecycle, hl, _, _, rfl⟩ := h
    have hn := startLifecycle_ok hs hl
    have hp := hnr.pid
    rw [hc] at hp
    refine ⟨rebuildState_step hnr ?_ ?_, hn⟩
    · rw [hc, hn]
      rcases hs with h | h <;> rw [h] <;> decide
    · rw [hn]
      rcases hs with h | h <;> rw [h]
      · exact hp
      · rfl
  · rename_i hr
    simp only [bind_eq_ok, pure_eq_ok] at h
    obtain ⟨_, _, rfl⟩ := h
    exact ⟨.refl hnr, hr⟩
  · rename_i hr
    simp only [bind_eq_ok, advance_ok, pure_eq_ok] at h
    obtain ⟨lifecycle, hl, _, _, rfl⟩ := h
    cases hl
    refine ⟨rebuildState_step hnr ?_ rfl, rfl⟩
    rw [hr]
    decide
  · rename_i hsp
    cases h
    exact ⟨.refl hnr, hsp⟩
  · cases h

/-- A live process that stopped. -/
theorem startedState_ne_creating (h : startedState opn state status pid = .ok state') :
    state.status ≠ .creating := by
  intro hc
  unfold startedState at h
  rw [hc] at h
  cases status <;> cases h

theorem stoppedState_step (hn : state.Normal) :
    StateStep state (rebuildState state .stopped none) :=
  rebuildState_step hn (by cases state.status <;> decide) rfl

theorem killedState_step (hn : rc.state.Normal) (h : killedState opn rc status pid = .ok state') :
    StateStep rc.state state' ∧ state'.status = status := by
  unfold killedState at h
  dsimp only at h
  split at h
  case h_6 => cases h
  case h_5 hsp =>
    cases h
    exact ⟨.refl hn, hsp⟩
  case h_1 hs | h_2 hs =>
    simp only [bind_eq_ok, rejectIf_eq_ok, pure_eq_ok] at h
    obtain ⟨_, _, rfl⟩ := h
    exact ⟨.refl hn, hs⟩
  case h_3 hl | h_4 hl =>
    simp only [hl, bind_eq_ok, advance_ok, pure_eq_ok] at h
    obtain ⟨lifecycle, hlf, _, _, rfl⟩ := h
    cases hlf
    exact ⟨stoppedState_step hn, rfl⟩

theorem killedState_ne_creating (h : killedState opn rc status pid = .ok state') :
    rc.state.status ≠ .creating := by
  intro hc
  unfold killedState at h
  dsimp only at h
  rw [hc] at h
  cases status <;> cases h

theorem frozenState_step (hn : state.Normal)
    (h : frozenState opn state pid paused action = .ok state') :
    StateStep state state' ∧ state'.status = .running ∧ isPaused state' = paused ∧
      state.status = .running ∧ state'.pid = state.pid := by
  unfold frozenState at h
  simp only [bind_eq_ok, rejectIf_eq_ok, pure_eq_ok, not_or, not_not] at h
  obtain ⟨_, ⟨hrn, _⟩, rebuilt, hr, _, _, rfl⟩ := h
  obtain ⟨hs, hps, hst, hp⟩ := rebuildPausedState_step hn hr
  exact ⟨hs, hst, hps, hrn, hp⟩

theorem waitedState_step (hn : ct.record.state.Normal) (h : waitedState ct = .ok state') :
    StateStep ct.record.state state' ∧ state'.status = .stopped := by
  unfold waitedState at h
  dsimp only at h
  split at h
  case h_1 | h_2 =>
    obtain ⟨_, _, rfl⟩ := h
    exact ⟨stoppedState_step hn, rfl⟩
  case h_3 hs =>
    cases h
    exact ⟨.refl hn, hs⟩
  case h_4 => cases h

theorem restoredState_step {pid : Int} (hn : sc.record.state.Normal) (hp : 0 < pid)
    (h : restoredState opn sc pid = .ok state') :
    StateStep sc.record.state state' ∧ state'.status = .running ∧ isPaused state' = true ∧
      state'.pid = some pid ∧
      (sc.record.state.status = .creating → sc.activeOperation = some opn.operationId) := by
  unfold restoredState at h
  dsimp only at h
  split at h
  · rename_i hc
    simp only [bind_eq_ok, rejectIf_eq_ok, pure_eq_ok, not_not, ne_eq] at h
    obtain ⟨_, hw, rebuilt, hrb, _, _, rfl⟩ := h
    have hr : StateStep sc.record.state (rebuildState sc.record.state .running (some pid)) := by
      refine rebuildState_step hn ?_ ⟨pid, hp, rfl⟩
      rw [hc]
      exact Nat.zero_le _
    obtain ⟨hs, hps, hst, hp'⟩ := rebuildPausedState_step hr.normal hrb
    exact ⟨hr.trans hs, hst, hps, hp', fun _ => hw⟩
  · rename_i hc
    split at h
    · rename_i hsm
      cases h
      exact ⟨.refl hn, hsm.1, hsm.2.2, hsm.2.1, fun h => absurd h hc⟩
    · cases h

theorem observedPid_step {id : ContainerId} (hn : state.Normal) (hp : PidFits state.status ob.pid)
    (h : observedPid id state activeKind ob recreated = .ok (state', ch)) :
    StateStep state state' ∧ state'.status = state.status ∧ (ch = false → state' = state) := by
  unfold observedPid at h
  split at h
  · cases h
    exact ⟨.refl hn, rfl, fun _ => rfl⟩
  · split at h
    · simp only [bind_eq_ok, pure_eq_ok, Prod.mk.injEq] at h
      obtain ⟨_, _, rfl, rfl⟩ := h
      exact ⟨rebuildState_step hn le_rfl hp, rfl, by simp⟩
    · cases h

theorem observedFreezer_step (hn : state.Normal)
    (h : observedFreezer state paused ch = .ok (state', ch')) :
    StateStep state state' ∧ state'.status = state.status ∧
      (ch' = false → ch = false ∧ state' = state) := by
  unfold observedFreezer at h
  split at h
  · cases h
    exact ⟨.refl hn, rfl, fun h => ⟨h, rfl⟩⟩
  · simp only [bind_eq_ok, pure_eq_ok, Prod.mk.injEq] at h
    obtain ⟨rebuilt, hr, _, _, rfl, rfl⟩ := h
    have ho := rebuildPausedState_ok hr
    exact ⟨(rebuildPausedState_step hn hr).1, ho.2.2.2.2.1, by simp⟩

/-- The process ID a valid observation reports. -/
theorem validateObservation_pid (h : validateObservation ob = .ok ()) :
    PidFits ob.status ob.pid ∧ ob.status ≠ .creating ∧
      (ob.paused = true → ob.status = .running) := by
  obtain ⟨status, pid, paused⟩ := ob
  cases status <;> cases pid <;> cases paused <;> simp_all [validateObservation, PidFits]

theorem observedState_step {id : ContainerId} (hn : state.Normal)
    (ho : validateObservation ob = .ok ())
    (h : observedState id state activeKind ob recreated = .ok (state', ch)) :
    StateStep state state' ∧ state'.status = ob.status ∧ (ch = false → state' = state) ∧
      (state.status = .created → ob.status = .running → activeKind = some .start) := by
  obtain ⟨hp, _, _⟩ := validateObservation_pid ho
  unfold observedState at h
  split at h
  case h_1 hdr hd | h_2 hdr hd =>
    simp only [bind_eq_ok, Prod.exists] at h
    obtain ⟨followed, ch', hf, hfr⟩ := h
    have hft : PidFits state.status ob.pid := by
      rw [hdr, ← hd]
      exact hp
    obtain ⟨hs₁, hst₁, hsm₁⟩ := observedPid_step hn hft hf
    obtain ⟨hs₂, hst₂, hsm₂⟩ := observedFreezer_step hs₁.normal hfr
    refine ⟨hs₁.trans hs₂, ?_, ?_, ?_⟩
    · rw [hst₂, hst₁, hdr, hd]
    · intro hfl
      obtain ⟨hc, heq⟩ := hsm₂ hfl
      rw [heq, hsm₁ hc]
    · simp [hdr, hd]
  case h_3 hdr hd =>
    split at h
    · rename_i hsa
      simp only [bind_eq_ok, advance_ok, pure_eq_ok, Prod.mk.injEq] at h
      obtain ⟨lifecycle, hl, rebuilt, hr, _, _, rfl, rfl⟩ := h
      cases hl
      have hrn : StateStep state (rebuildState state .running ob.pid) := by
        refine rebuildState_step hn ?_ ?_
        · rw [hdr]
          decide
        · rw [hd] at hp
          exact hp
      unfold carryPaused at hr
      split at hr
      · obtain ⟨hs, _, hst, _⟩ := rebuildPausedState_step hrn.normal hr
        exact ⟨hrn.trans hs, by rw [hst, hd], by simp, fun _ _ => hsa⟩
      · cases hr
        exact ⟨hrn, hd.symm, by simp, fun _ _ => hsa⟩
    · cases h
  case h_4 hdr hd | h_5 hdr hd =>
    simp only [hdr, bind_eq_ok, advance_ok, pure_eq_ok, Prod.mk.injEq] at h
    obtain ⟨lifecycle, hl, _, _, rfl, rfl⟩ := h
    cases hl
    exact ⟨stoppedState_step hn, hd.symm, by simp, by simp [hd]⟩
  case h_6 hdr hd =>
    cases h
    exact ⟨.refl hn, by rw [hdr, hd], fun _ => rfl, by simp [hdr]⟩
  case h_7 => cases h

/-! ## Replacing the process ID -/

theorem State.Normal.withPid (h : state.Normal) (hf : PidFits state.status pid) :
    ({ state with pid } : State).Normal :=
  ⟨hf, h.annotations, h.flag⟩

theorem State.Normal.nonEmpty (h : state.Normal) :
    nonEmptyAnnotations (state.annotations.getD ∅) = state.annotations := by
  unfold nonEmptyAnnotations
  cases hm : state.annotations with
  | none => simp
  | some annotations =>
    have hn : annotations ≠ ∅ := by
      rintro rfl
      exact h.annotations hm
    simp [hn]

/-- Rebuilding a state that is not stopped under its own status replaces the process ID only. -/
theorem rebuildState_same (h : state.Normal) (hs : state.status = status)
    (hl : status ≠ .stopped) : rebuildState state status pid = { state with pid } := by
  have ha : (rebuildState state status pid).annotations = state.annotations := by
    unfold rebuildState
    have hn := h.nonEmpty
    cases hm : state.annotations with
    | none => rfl
    | some annotations =>
      rw [hm] at hn
      simpa [hl] using hn
  subst hs
  exact congrArg (fun annotations => ({ state with pid, annotations } : State)) ha

/-- Setting the freezer annotation to what it says already changes nothing. -/
theorem rebuildPausedState_same (h : state.Normal)
    (hr : rebuildPausedState state (isPaused state) = .ok rebuilt) : rebuilt = state := by
  have hm : (if isPaused state then (state.annotations.getD ∅).insert pausedStateAnnotation "true"
      else (state.annotations.getD ∅).erase pausedStateAnnotation) = state.annotations.getD ∅ := by
    refine Finmap.ext_lookup fun key => ?_
    by_cases hk : key = pausedStateAnnotation
    · subst hk
      cases hp : isPaused state with
      | true =>
        rw [if_pos rfl, Finmap.lookup_insert]
        exact (isPaused_iff.mp hp).symm
      | false =>
        rw [if_neg (by simp), Finmap.lookup_erase]
        cases hl : (state.annotations.getD ∅).lookup pausedStateAnnotation with
        | none => rfl
        | some value =>
          rw [(h.flag value hl).1] at hl
          rw [isPaused_iff.mpr hl] at hp
          cases hp
    · cases isPaused state with
      | true => exact Finmap.lookup_insert_of_ne _ hk
      | false => exact Finmap.lookup_erase_ne hk
  unfold rebuildPausedState at hr
  split at hr
  · cases hr
  · cases hr
    rw [hm, h.nonEmpty]

end OciRuntime
