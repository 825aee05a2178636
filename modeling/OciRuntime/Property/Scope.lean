import OciRuntime.Commit.Calls

/-!
# `OciRuntime.Property.Scope` — an operation writes its own generation only

A journal entry names the container and the generation its operation was prepared for. Container IDs
are reused and requests may leave the generation out, so a retry or a late completion can find
another generation under its ID. Nothing of that generation is ever written: every commit on behalf
of a journaled operation is a write to the directory of exactly the journaled generation, or moves
it to quarantine.

## Contents
- **Foreign directories.** `Foreign`, `Spares`.
- **One commit.** `DirectoryStep.own`, `Write.spares`.
- **Calls.** `operation_scope`.
-/

namespace OciRuntime

open Durable Program

variable {sdk : Sdk} {s t u : Store} {id : ContainerId} {generation : Nat} {o : OperationId}
  {op : StoredOperation}

/-! ## Foreign directories -/

/-- The directory of another container, or of another generation of the container. -/
def Foreign (id : ContainerId) (generation : Nat) (k : ContainerId) (d : ContainerDirectory) : Prop :=
  k ≠ id ∨ ∃ stored, d.record = some stored ∧ stored.record.generation ≠ generation

/-- From `s` to `t` only the directory of one generation was written or moved. -/
structure Spares (id : ContainerId) (generation : Nat) (s t : Store) : Prop where
  containers : ∀ k d, Foreign id generation k d →
    (s.containers.get? k = some d ↔ t.containers.get? k = some d)
  kept : ∀ tombstone d, s.quarantine.get? tombstone = some d → t.quarantine.get? tombstone = some d
  moved : ∀ tombstone d, t.quarantine.get? tombstone = some d →
    s.quarantine.get? tombstone = some d ∨
      ∃ stored, d.record = some stored ∧ stored.id = id ∧ stored.record.generation = generation

theorem Spares.refl (s : Store) : Spares id generation s s :=
  ⟨fun _ _ _ => Iff.rfl, fun _ _ h => h, fun _ _ h => .inl h⟩

theorem Spares.trans (hs : Spares id generation s t) (ht : Spares id generation t u) :
    Spares id generation s u := by
  refine ⟨fun k d hd => (hs.containers k d hd).trans (ht.containers k d hd),
    fun tb d hd => ht.kept tb d (hs.kept tb d hd), fun tb d hd => ?_⟩
  rcases ht.moved tb d hd with hd | hm
  · exact hs.moved tb d hd
  · exact .inr hm

/-- A commit that keeps the containers and the quarantine. -/
theorem Spares.of_eq (hc : t.containers = s.containers)
    (hq : t.quarantine = s.quarantine) : Spares id generation s t := by
  refine ⟨fun k d _ => ?_, fun tombstone d hd => ?_, fun tombstone d hd => .inl ?_⟩
  · rw [hc]
  · rwa [hq]
  · rwa [hq] at hd

/-! ## One commit -/

/-- The pending creation that acts is the journaled operation itself. -/
theorem PendingCreation.eq_actor (h : PendingCreation ops id creation)
    (ha : some o = some creation.operationId) (ho : ops.get? o = some op) : creation = op := by
  cases ha
  exact Option.some.inj (h.found.symm.trans ho)

/-- What a journaled operation writes is the directory of its container, and the record there, before
    and after, is one of its generation. -/
theorem DirectoryStep.own (h : DirectoryStep sdk ops (some o) id old new)
    (ho : ops.get? o = some op) (hold : ∀ d, old = some d → DirectoryOk sdk ops id d) :
    id = op.containerId ∧ (∀ d stored, old = some d → d.record = some stored →
        stored.record.generation = op.generation) ∧
      ∀ stored, new.record = some stored → stored.record.generation = op.generation := by
  cases h with
  | create creation by_actor =>
    obtain rfl := creation.eq_actor by_actor ho
    refine ⟨creation.container.symm, by simp, fun stored hs => ?_⟩
    cases hs
  | @config _ d _ creation by_actor absent =>
    obtain rfl := creation.eq_actor by_actor ho
    -- a directory without a snapshot has no record yet
    have hn : ∀ stored, d.record ≠ some stored := fun stored hs =>
      absurd absent ((hold d rfl).record stored hs).loadable.config_isSome
    refine ⟨creation.container.symm, ?_, fun stored hs => absurd hs (hn stored)⟩
    rintro _ stored ⟨⟩ hs
    exact absurd hs (hn stored)
  | record creation by_actor absent _ _ _ generation =>
    obtain rfl := creation.eq_actor by_actor ho
    refine ⟨creation.container.symm, ?_, ?_⟩
    · rintro _ stored ⟨⟩ hs
      rw [absent] at hs
      cases hs
    · rintro _ ⟨⟩
      exact generation
  | update loadable acts step =>
    obtain ⟨hi, hg⟩ := acts o op rfl ho
    refine ⟨hi.symm, ?_, ?_⟩
    · rintro _ stored ⟨⟩ hs
      cases loadable.record.symm.trans hs
      exact hg.symm
    · rintro _ ⟨⟩
      rw [step.sameContract.generation, hg]
  | processDirectory recorded acts =>
    obtain ⟨hi, hg⟩ := acts o op rfl ho
    refine ⟨hi.symm, ?_, fun stored hs => ?_⟩
    · rintro _ stored ⟨⟩ hs
      cases recorded.symm.trans hs
      exact hg.symm
    · cases recorded.symm.trans hs
      exact hg.symm
  | process loadable acts =>
    obtain ⟨hi, hg⟩ := acts o op rfl ho
    refine ⟨hi.symm, ?_, fun stored hs => ?_⟩
    · rintro _ stored ⟨⟩ hs
      cases loadable.record.symm.trans hs
      exact hg.symm
    · cases loadable.record.symm.trans hs
      exact hg.symm

/-- A commit on behalf of a journaled operation touches its own generation only. -/
theorem Write.spares (hs : Sound sdk s) (h : Write sdk (some o) s t)
    (ho : s.operations.get? o = some op) : Spares op.containerId op.generation s t := by
  have hkp : ∀ tb d, s.quarantine.get? tb = some d →
      t.quarantine.get? tb = some d := fun _ _ hd => h.quarantine_kept hd
  cases h with
  | operation => exact .of_eq rfl rfl
  | generation => exact .of_eq rfl rfl
  | @directory k d' step =>
    obtain ⟨rfl, hold, hn⟩ := step.own ho fun d hd => hs.containers k d hd
    refine ⟨fun k d hd => ?_, fun _ _ h => h, fun _ _ h => .inl h⟩
    by_cases hk : k = op.containerId
    · subst hk
      obtain ⟨c, hst, ht⟩ : ∃ c, d.record = some c ∧
          c.record.generation ≠ op.generation := hd.resolve_left (fun hne => hne rfl)
      rw [Store.setDirectory_self]
      refine ⟨fun hf => absurd (hold d c hf hst) ht, fun hf => ?_⟩
      cases hf
      exact absurd (hn c hst) ht
    · rw [Store.setDirectory_of_ne _ _ _ hk]
  | @quarantine moved d c tb found by_actor live loadable hg =>
    obtain rfl : moved.operationId = o := (Option.some.inj by_actor).symm
    cases found.found.symm.trans ho
    refine ⟨fun k d' hd' => ?_, hkp, fun name d' hd' => ?_⟩
    · by_cases hk : k = op.containerId
      · subst hk
        obtain ⟨c', hst', ht⟩ := hd'.resolve_left (fun hne => hne rfl)
        refine ⟨fun hf => ?_, fun hf => ?_⟩
        · cases live.symm.trans hf
          cases loadable.record.symm.trans hst'
          exact absurd hg ht
        · rw [Directory.get?_remove_self] at hf
          cases hf
      · rw [Directory.get?_remove_of_ne _ hk]
    · by_cases hnm : name = tb
      · subst hnm
        rw [Directory.get?_write_self] at hd'
        cases hd'
        exact .inr ⟨c, loadable.record, loadable.id_eq, hg⟩
      · rw [Directory.get?_write_of_ne _ _ hnm] at hd'
        exact .inl hd'
  | event => exact .of_eq rfl rfl

/-! ## Calls -/

/-- Every state that a call of a journaled operation passes through. -/
theorem Call.spares {call : Call sdk} (hs : Sound sdk s) (ho : s.operations.get? o = some op)
    (ha : call.actor s = some o) :
    ∀ u ∈ call.run.states s, Sound sdk u ∧ Spares op.containerId op.generation s u := by
  have hc := (call.run_spec hs).chain
  rw [ha] at hc
  -- the entry may be settled on the way, but it stays an entry of this generation
  have hr := isChain_invariant hc (I := fun x => Sound sdk x ∧
      Spares op.containerId op.generation s x ∧ ∃ op', x.operations.get? o = some op' ∧
        SameEntry op op') ?_ ⟨hs, .refl s, op, ho, .refl op⟩
  · exact fun u hu => ⟨(hr u hu).1, (hr u hu).2.1⟩
  · rintro x y ⟨hx, hsr, op', ho', hsm⟩ hxy
    obtain ⟨op'', ho'', hsm'⟩ := hxy.grows o op' ho'
    have hsp := hxy.spares hx ho'
    rw [hsm.container, hsm.generation] at hsp
    exact ⟨hx.write hxy, hsr.trans hsp, op'', ho'', hsm.trans hsm'⟩

theorem Spares.recordOf (h : Spares id generation s t)
    (ht : k ≠ id ∨ stored.record.generation ≠ generation) :
    s.recordOf k = some stored ↔ t.recordOf k = some stored := by
  simp only [recordOf_eq_some]
  have hf : ∀ d, d.record = some stored → Foreign id generation k d := fun d hd =>
    ht.imp_right fun hn => ⟨stored, hd, hn⟩
  constructor
  · rintro ⟨d, hd, hs⟩
    exact ⟨d, (h.containers k d (hf d hs)).mp hd, hs⟩
  · rintro ⟨d, hd, hs⟩
    exact ⟨d, (h.containers k d (hf d hs)).mpr hd, hs⟩

/-- The directory of a process record of another generation is foreign. -/
theorem Sound.process_foreign (hs : Sound sdk s) (h : s.process? target = some pr)
    (hth : pr.record.target.container ≠ .exact id generation) :
    ∃ d ps, s.containers.get? target.container.id = some d ∧ d.processes = some ps ∧
      ps.get? target.processId = some pr ∧ Foreign id generation target.container.id d := by
  simp only [Store.process?, Option.bind_eq_bind, Option.bind_eq_some_iff] at h
  obtain ⟨d, hd, ps, hp, hpr⟩ := h
  refine ⟨d, ps, hd, hp, hpr, ?_⟩
  have ho := hs.containers _ d hd
  cases hrc : d.record with
  | none =>
    rw [ho.bare hrc] at hp
    cases hp
  | some c =>
    have hr := ho.record c hrc
    have ht := (loadProcess_ok.mp (hr.processes ps _ pr hp hpr).loads).2.2.1
    rw [ht] at hth
    by_cases hi : target.container.id = id
    · refine .inr ⟨c, hrc, ?_⟩
      rintro rfl
      exact hth (by rw [exactProcessTarget, hr.loadable.id_eq, hi])
    · exact .inl hi

theorem Spares.process? (h : Spares id generation s t) (hs : Sound sdk s) (ht : Sound sdk t)
    (hth : process.record.target.container ≠ .exact id generation) :
    s.process? target = some process ↔ t.process? target = some process := by
  constructor
  · intro hpr
    obtain ⟨d, ps, hd, hp, hf, hfr⟩ := hs.process_foreign hpr hth
    simp only [Store.process?, (h.containers _ d hfr).mp hd, Option.bind_eq_bind,
      Option.bind_some, hp, hf]
  · intro hpr
    obtain ⟨d, ps, hd, hp, hf, hfr⟩ := ht.process_foreign hpr hth
    simp only [Store.process?, (h.containers _ d hfr).mpr hd, Option.bind_eq_bind,
      Option.bind_some, hp, hf]

/-- **The scope of an operation.** Take an operation journaled for one generation of a container, and
    a retry, completion or failure of it in any later state of the run, cut anywhere. The container
    records and process records of every other container and generation are the same before and
    after, live or quarantined; a directory that the call quarantines is the one of the journaled
    generation. -/
theorem operation_scope {l before later : List Store} (h : Trace sdk l)
    (hl : .empty :: l = before ++ s :: later) (hop : s.operations.get? o = some op)
    (ht : t ∈ s :: later) {call : Call sdk} (hact : call.actor t = some o)
    (hu : u ∈ call.run.states t) :
    (∀ k stored, k ≠ op.containerId ∨ stored.record.generation ≠ op.generation →
        (t.recordOf k = some stored ↔ u.recordOf k = some stored)) ∧
      (∀ target process, process.record.target.container ≠ .exact op.containerId op.generation →
        (t.process? target = some process ↔ u.process? target = some process)) ∧
      (∀ tombstone d, t.quarantine.get? tombstone = some d → u.quarantine.get? tombstone = some d) ∧
      ∀ tombstone d, u.quarantine.get? tombstone = some d → t.quarantine.get? tombstone = some d ∨
          ∃ stored, d.record = some stored ∧ stored.id = op.containerId ∧
            stored.record.generation = op.generation := by
  obtain ⟨hsn, hg⟩ := h.later hl (I := fun x => JournalGrows s.operations x.operations)
    (fun x y hx hxy => hx.trans hxy.choose_spec.grows) (.refl _) t ht
  obtain ⟨op', hop', hsm⟩ := hg o op hop
  obtain ⟨hsn', hs⟩ := call.spares hsn hop' hact u hu
  rw [hsm.container, hsm.generation] at hs
  exact ⟨fun k stored hth => hs.recordOf hth,
    fun target process hth => hs.process? hsn hsn' hth, hs.kept, hs.moved⟩

/-- The container `web` is created, deleted without naming its generation, and created again. -/
def Sample.recreated : List Store :=
  Program.visited Call.run .empty [(Sample.create Sample.opA, 9), (Sample.created Sample.opA, 9),
    (Sample.delete Sample.opB, 9), (.completeDelete Sample.clock Sample.opB, 9),
    (Sample.create Sample.opC, 9)]

/-- A retry of the delete leaves the second generation alone. -/
theorem operation_scope_recreated :
    ∃ stored, (Sample.recreated.getLastD .empty).recordOf Sample.web = some stored ∧
      stored.record.generation = 2 ∧
      ((Sample.delete Sample.opB).run.final (Sample.recreated.getLastD .empty)).recordOf Sample.web =
        some stored := by
  have hen : ((Sample.recreated.getLastD .empty).operations.get? Sample.opB).map
      (·.generation) = some 1 := by decide +kernel
  have hrc : ((Sample.recreated.getLastD .empty).recordOf Sample.web).map
      (·.record.generation) = some 2 := by decide +kernel
  obtain ⟨op, hop, ho⟩ := Option.map_eq_some_iff.mp hen
  obtain ⟨stored, hs, ht⟩ := Option.map_eq_some_iff.mp hrc
  have htr : Trace Sample.sdk Sample.recreated := Trace.visited _
  obtain ⟨hr, -⟩ := operation_scope htr (cons_eq_dropLast_append _ _) hop
    List.mem_cons_self (rfl : (Sample.delete Sample.opB).actor _ = _) (getLastD_mem_cons _ _)
  refine ⟨stored, hs, ht, (hr Sample.web stored (.inr ?_)).mp hs⟩
  rw [ht, ho]
  decide

end OciRuntime
