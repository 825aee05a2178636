import OciRuntime.State.StartupAudit

/-!
# `OciRuntime.Commit.Frame` — what each commit leaves alone, and what a loaded record is

Every commit of the store changes one file or moves one directory. The frame lemmas say which part
of the store that is; `Loadable` says what `loadStoredContainer` checked about a record, in a form
that survives the changes the store makes to it.
-/

namespace OciRuntime

open Durable Program

variable {stored a b : StoredContainer} {sdk : Sdk}

/-! ## Frames -/

/-- Replace (or create) the directory of a container. -/
def Store.setDirectory (s : Store) (id : ContainerId) (d : ContainerDirectory) : Store :=
  { s with containers := s.containers.write id d }

section Frames

variable (s : Store) (id : ContainerId) (d : ContainerDirectory)

@[simp] theorem Store.setDirectory_self : (s.setDirectory id d).containers.get? id = some d := by
  simp [Store.setDirectory]

theorem Store.setDirectory_of_ne (h : k ≠ id) :
    (s.setDirectory id d).containers.get? k = s.containers.get? k :=
  Directory.get?_write_of_ne _ _ h

variable {s id d}

theorem Store.modifyContainer_eq (h : s.containers.get? id = some d) :
    s.modifyContainer id change = s.setDirectory id (change d) := by
  unfold Store.modifyContainer
  rw [h]
  rfl

theorem Store.writeContainer_eq (h : s.containers.get? stored.id = some d) :
    s.writeContainer stored =
      s.setDirectory stored.id { d with record := some stored, recordTransaction := false } :=
  Store.modifyContainer_eq h

theorem Store.writeConfig_eq (h : s.containers.get? id = some d) :
    s.writeConfig id configJson = s.setDirectory id
    { d with config := some configJson, configTransaction := false } :=
  Store.modifyContainer_eq h

theorem Store.createProcessDirectory_eq (h : s.containers.get? id = some d) :
    s.createProcessDirectory id = s.setDirectory id { d with processes := some .empty } :=
  Store.modifyContainer_eq h

theorem Store.writeProcess_eq (h : s.containers.get? pr.record.target.container.id = some d)
    (hp : d.processes = some ps) :
    s.writeProcess pr = s.setDirectory pr.record.target.container.id
    { d with processes := some (ps.write pr.record.target.processId pr) } := by
  rw [Store.writeProcess, Store.modifyContainer_eq h, hp]
  rfl

theorem Store.quarantineContainer_eq (h : s.containers.get? id = some d) :
    s.quarantineContainer id tb = { s with
      containers := s.containers.remove id
      quarantine := s.quarantine.write tb d } := by
  unfold Store.quarantineContainer
  rw [h]

end Frames

@[simp] theorem Store.writeOperation_self (s : Store) (op : StoredOperation) :
    (s.writeOperation op).operations.get? op.operationId = some op :=
  Directory.get?_write_self _ _ _

/-- Nothing but the event journal differs. -/
def OnlyEvents (s t : Store) : Prop := t = { s with events := t.events }

namespace OnlyEvents

variable {s t u : Store}

theorem refl (s : Store) : OnlyEvents s s := rfl

theorem trans (hs : OnlyEvents s t) (ht : OnlyEvents t u) : OnlyEvents s u := by
  unfold OnlyEvents at *
  rw [ht, hs]

theorem operations (h : OnlyEvents s t) : t.operations = s.operations := by rw [h]
theorem containers (h : OnlyEvents s t) : t.containers = s.containers := by rw [h]

end OnlyEvents

/-! ## Loaded operations -/

theorem loadOperation_ok : loadOperation sdk o s = .ok op ↔
      s.operations.get? o = some op ∧ op.schemaVersion.atLeast 1 = true ∧ op.operationId = o ∧
        op.shapeFault sdk = none := by
  unfold loadOperation
  cases h : s.operations.get? o with
  | none => simp
  | some found =>
    by_cases hb : !found.schemaVersion.atLeast 1 ∨ found.operationId ≠ o
    · simp only [hb, if_true]
      constructor
      · intro h
        cases h
      · rintro ⟨heq, hs, hi, -⟩
        cases heq
        simp [hs, hi] at hb
    · simp only [hb, if_false]
      push Not at hb
      cases hf : found.shapeFault sdk with
      | some message =>
        simp only [reduceCtorEq, false_iff, not_and]
        rintro heq _ _
        cases heq
        simp [hf]
      | none =>
        simp only [Except.ok.injEq, Option.some.injEq]
        constructor
        · rintro rfl
          exact ⟨rfl, by simpa using hb.1, hb.2, hf⟩
        · exact fun h => h.1

theorem loadOperationIfPresent_none (h : loadOperationIfPresent sdk o s = .ok none) :
    s.operations.get? o = none := by
  unfold loadOperationIfPresent at h
  split at h
  · rename_i hn
    simpa using hn
  · obtain ⟨op, _, ho⟩ := map_eq_ok.mp h
    cases ho

theorem loadOperationIfPresent_some (h : loadOperationIfPresent sdk o s = .ok (some op)) :
    loadOperation sdk o s = .ok op := by
  unfold loadOperationIfPresent at h
  split at h
  · cases h
  · obtain ⟨op', hl, ho⟩ := map_eq_ok.mp h
    cases ho
    exact hl

/-! ## Loaded containers -/

/-- What loading a record checks. -/
structure Loadable (sdk : Sdk) (id : ContainerId) (d : ContainerDirectory)
    (stored : StoredContainer) : Prop where
  record : d.record = some stored
  schema : stored.schemaVersion = containerSchemaVersion
  id_eq : stored.id = id
  generation : stored.record.generation ≠ 0
  stateId : stored.record.state.id = id.value
  state : validateState stored.record.state = .ok ()
  contract : ∃ bundle, loadBundleFromDirectory sdk stored d = .ok bundle ∧
    bundle.configDigest = stored.record.configDigest ∧
    validateStoredAttachments sdk stored bundle = .ok ()

theorem loadFromDirectory_ok {id : ContainerId} :
    loadStoredContainerFromDirectory sdk id d = .ok stored ↔ Loadable sdk id d stored := by
  unfold loadStoredContainerFromDirectory
  cases hr : d.record with
  | none =>
    constructor
    · intro h
      cases h
    · intro h
      rw [h.record] at hr
      cases hr
  | some found =>
    dsimp only
    constructor
    · intro h
      split at h
      · cases h
      · rename_i hh
        simp only [not_or, ne_eq, not_not] at hh
        simp only [bind_eq_ok, rejectIf_eq_ok, pure_eq_ok, ne_eq, not_not] at h
        obtain ⟨_, hs, bundle, hb, _, hd, _, ha, rfl⟩ := h
        exact ⟨hr, hh.1, hh.2.1, hh.2.2.1, hh.2.2.2, hs, bundle, hb, hd, ha⟩
    · intro h
      have hf : found = stored := by
        have := h.record
        rw [hr] at this
        exact Option.some.inj this
      subst hf
      obtain ⟨bundle, hb, hd, ha⟩ := h.contract
      rw [if_neg (by simp [h.schema, h.id_eq, h.generation, h.stateId])]
      simp only [bind_eq_ok, rejectIf_eq_ok, pure_eq_ok, ne_eq, not_not]
      exact ⟨(), h.state, bundle, hb, (), hd, (), ha, trivial⟩

/-- The record of a live container, as `loadStoredContainer` returns it. -/
def Live (sdk : Sdk) (s : Store) (id : ContainerId) (stored : StoredContainer) : Prop :=
  ∃ d, s.containers.get? id = some d ∧ Loadable sdk id d stored

theorem loadStoredContainer_ok {id : ContainerId} :
    loadStoredContainer sdk id s = .ok stored ↔ Live sdk s id stored := by
  unfold loadStoredContainer Live
  cases h : s.containers.get? id with
  | none => simp
  | some d => simp [loadFromDirectory_ok]

theorem loadStoredExact_ok {id : ContainerId} : loadStoredExact sdk id generation s = .ok stored ↔
      Live sdk s id stored ∧ stored.record.generation = generation := by
  rw [← loadStoredContainer_ok]
  unfold loadStoredExact
  cases h : loadStoredContainer sdk id s with
  | error e =>
    simp only [reduceCtorEq, false_and, iff_false]
    split <;> simp
  | ok found =>
    by_cases hg : found.record.generation = generation
    · simp only [hg, ne_eq, not_true_eq_false, if_false, Except.ok.injEq]
      constructor
      · rintro rfl
        exact ⟨rfl, hg⟩
      · exact fun h => h.1
    · simp only [ne_eq, hg, not_false_eq_true, if_true, reduceCtorEq, Except.ok.injEq, false_iff]
      rintro ⟨rfl, h⟩
      exact hg h

theorem Live.id_eq {id : ContainerId} (h : Live sdk s id stored) : stored.id = id := by
  obtain ⟨d, _, hl⟩ := h
  exact hl.id_eq

/-- A container has one record. -/
theorem Live.unique {id : ContainerId} (ha : Live sdk s id a) (hb : Live sdk s id b) : a = b := by
  obtain ⟨d, hd, hl⟩ := ha
  obtain ⟨d', hd', hl'⟩ := hb
  obtain rfl : d = d' := Option.some.inj (hd.symm.trans hd')
  exact Option.some.inj (hl.record.symm.trans hl'.record)

/-- Being live depends on the `containers` directory only. -/
theorem Live.congr {id : ContainerId} (h : Live sdk s id stored)
    (hs : t.containers.get? id = s.containers.get? id) : Live sdk t id stored := by
  obtain ⟨d, hd, hl⟩ := h
  exact ⟨d, hs.trans hd, hl⟩

/-! ## Changes that keep a record loadable -/

/-- Two stored records of one generation: everything but the state, the claims and the terminal
    result is the same, and the states name the same container and bundle. -/
structure SameContract (a b : StoredContainer) : Prop where
  schema : b.schemaVersion = a.schemaVersion
  id_eq : b.id = a.id
  attachments : b.attachments = a.attachments
  record : { b.record with state := a.record.state } = a.record
  stateId : b.record.state.id = a.record.state.id
  bundle : b.record.state.bundle = a.record.state.bundle

theorem SameContract.refl (a : StoredContainer) : SameContract a a := ⟨rfl, rfl, rfl, rfl, rfl, rfl⟩

theorem SameContract.generation (h : SameContract a b) :
    b.record.generation = a.record.generation := by
  have := congrArg ContainerRecord.generation h.record
  exact this

/-- The record is a function of its immutable part and its state. -/
theorem SameContract.record_eq (h : SameContract a b) :
    b.record = { a.record with state := b.record.state } := by
  rw [← h.record]

theorem Loadable.update {id : ContainerId} (h : Loadable sdk id d a) (hab : SameContract a b)
    (hs : validateState b.record.state = .ok ()) :
    Loadable sdk id { d with record := some b, recordTransaction := false } b := by
  have hr := hab.record_eq
  obtain ⟨bundle, hb, hd, ha⟩ := h.contract
  refine ⟨rfl, hab.schema.trans h.schema, hab.id_eq.trans h.id_eq, ?_,
    hab.stateId.trans h.stateId, hs, bundle, ?_, ?_, ?_⟩
  · rw [hab.generation]
    exact h.generation
  · rw [← hb]
    unfold loadBundleFromDirectory
    rw [hab.id_eq, hab.bundle]
  · rw [hd, hr]
  · rw [← ha]
    unfold validateStoredAttachments storedIsolationRequest
    rw [hab.id_eq, hab.attachments, hr]

/-! ## Loaded processes -/

@[simp] theorem exactProcessTarget_generation (stored : StoredContainer) (p : ProcessId) :
    (exactProcessTarget stored p).container.generation = some stored.record.generation := rfl

/-- What loading a process record of an exact generation checks. -/
theorem loadProcess_ok : loadStoredProcessFromPath (exactProcessTarget stored p) pr = .ok found ↔
      found = pr ∧ pr.schemaVersion = processSchemaVersion ∧
        pr.record.target = exactProcessTarget stored p ∧ pr.record.pid ≠ some 0 ∧
        ∀ exit, pr.exitStatus = some exit → exit.validate = .ok () := by
  unfold loadStoredProcessFromPath
  simp only [exactProcessTarget_generation, bind_eq_ok, rejectIf_eq_ok, not_or, ne_eq, not_not]
  cases hx : pr.exitStatus with
  | none =>
    simp only [pure_eq_ok, reduceCtorEq, false_implies, implies_true, and_true]
    constructor
    · rintro ⟨_, ⟨hs, ht, _, hp⟩, rfl⟩
      exact ⟨rfl, hs, ht, hp⟩
    · rintro ⟨rfl, hs, ht, hp⟩
      exact ⟨(), ⟨hs, ht, by rw [ht]; rfl, hp⟩, rfl⟩
  | some exit =>
    simp only [bind_eq_ok, pure_eq_ok, Option.some.injEq, forall_eq']
    constructor
    · rintro ⟨_, ⟨hs, ht, _, hp⟩, _, hv, rfl⟩
      exact ⟨rfl, hs, ht, hp, hv⟩
    · rintro ⟨rfl, hs, ht, hp, hv⟩
      exact ⟨(), ⟨hs, ht, by rw [ht]; rfl, hp⟩, (), hv, rfl⟩

end OciRuntime
