import OciRuntime.Commit.Calls

/-!
# `OciRuntime.Commit.Audit` — what the startup audit accepts

The audit checks the documents of a store one by one and against each other. On a sound store most
of its checks cannot fail; `Fit` collects what is left of them, and `audit_iff_fit` says that the
audit accepts a sound store exactly when it is fit.

## Contents
- **Journals.** The checks of the operation, generation and event directories.
- **Claims and processes.** `auditClaims_ok`, `auditMovedProcesses_iff`.
- **Containers and quarantine.** `auditContainer_iff`, `auditQuarantine_iff`.
- **The audit.** `Fit`, `audit_iff_fit`.
-/

namespace OciRuntime

open Durable Program

variable {sdk : Sdk} {s : Store} {id : ContainerId} {d : ContainerDirectory}
  {stored : StoredContainer} {op : StoredOperation}

variable {ops : OperationInventory}

@[simp] theorem rejectStrays_ok {strays : List String} {name label : String} {u : Unit} :
    rejectStrays strays name label = .ok u ↔ strays = [] := by
  cases strays with
  | nil => simp [rejectStrays]
  | cons _ _ => simp [rejectStrays]

/-! ## Journals -/

theorem auditOperations_ok (hs : Sound sdk s) : auditOperationEntries sdk s = .ok s.operations := by
  obtain ⟨-, hst, -⟩ := hs.strays
  simp only [auditOperationEntries, bind_eq_ok, rejectStrays_ok, forM_eq_ok, pure_eq_ok, and_true]
  refine ⟨(), hst, (), ?_⟩
  rintro ⟨o, op⟩ hen
  have hop := Directory.mem_entries.mp hen
  have ho := hs.operations o op hop
  rw [map_eq_ok]
  refine ⟨op, loadOperation_ok.mpr ⟨hop, ?_, ho.id_eq, ho.shape⟩, rfl⟩
  rw [ho.schema]
  rfl

theorem auditGenerations_ok (hs : Sound sdk s) : auditGenerationEntries s = .ok s.generations := by
  obtain ⟨-, -, hst, -⟩ := hs.strays
  simp only [auditGenerationEntries, bind_eq_ok, rejectStrays_ok, forM_eq_ok, pure_eq_ok, and_true]
  refine ⟨(), hst, (), ?_⟩
  rintro ⟨id, last⟩ hen
  obtain ⟨hsc, hi, hp⟩ := hs.generations id last (Directory.mem_entries.mp hen)
  simp [auditGenerationEntry, hsc, hi, hp]

theorem auditOperationGeneration_ok {o : OperationId} (ho : OperationOk sdk s o op) :
    auditOperationGeneration s.generations op = .ok () := by
  obtain ⟨last, hl, hb⟩ := ho.allocated
  simp only [auditOperationGeneration, bind_eq_ok, okOr_eq_ok, rejectIf_eq_ok, not_or]
  exact ⟨last, hl, ho.positive, by omega⟩

/-- The walk over the journal finds no generation with two creations, because creations that it has
    not seen yet belong to other generations than `owners`. -/
theorem auditOperationGenerations_ok (hs : Sound sdk s) {owners : List (ContainerId × Nat)}
    {l : List StoredOperation}
    (hf : ∀ op ∈ l, s.operations.get? op.operationId = some op)
    (hn : ∀ op ∈ l, op.kind.isCreation = true → (op.containerId, op.generation) ∉ owners)
    (hd : (l.map (·.operationId)).Nodup) :
    auditOperationGenerations s.generations owners l = .ok () := by
  induction l generalizing owners with
  | nil => rfl
  | cons op rest ih =>
    have ho := hf op List.mem_cons_self
    obtain ⟨hh, htl⟩ := List.nodup_cons.mp hd
    simp only [auditOperationGenerations, bind_eq_ok, rejectIf_eq_ok, not_and]
    refine ⟨(), auditOperationGeneration_ok (hs.operations _ _ ho), (),
      hn op List.mem_cons_self, ih ?_ ?_ htl⟩
    · exact fun other ht => hf other (List.mem_cons_of_mem _ ht)
    · intro other ht hc
      have hold := hn other (List.mem_cons_of_mem _ ht) hc
      split
      · rename_i hk
        rw [List.mem_cons, not_or]
        refine ⟨fun hsm => ?_, hold⟩
        obtain ⟨hcn, hg⟩ := Prod.mk.injEq .. ▸ hsm
        have ht' := hf other (List.mem_cons_of_mem _ ht)
        have heq := hs.creations _ _ _ _ ht' ho hc hk hcn hg
        exact hh (List.mem_map.mpr ⟨other, ht, heq⟩)
      · exact hold

theorem auditOperationInventory_ok (hs : Sound sdk s) :
    auditOperationGenerations s.generations [] (s.operations.entries.map Prod.snd) = .ok () := by
  have hen : ∀ en ∈ s.operations.entries, en.2.operationId = en.1 := by
    rintro ⟨o, op⟩ hen
    exact (hs.operations o op (Directory.mem_entries.mp hen)).id_eq
  refine auditOperationGenerations_ok hs ?_ (by simp) ?_
  · intro op ho
    obtain ⟨⟨o, op⟩, hm, rfl⟩ := List.mem_map.mp ho
    rw [hen _ hm]
    exact Directory.mem_entries.mp hm
  · rw [List.map_map]
    have hk : s.operations.entries.map ((·.operationId) ∘ Prod.snd) =
        s.operations.entries.map Prod.fst := List.map_congr_left hen
    rw [hk]
    exact s.operations.nodup_keys

/-! ## Events -/

theorem auditEventClaims_ok {e : EventJournal} (he : EventsOk s.operations e)
    {claims : List RuntimeEvent} {l : List (EventIdentity × StoredEventClaim)}
    (hf : ∀ en ∈ l, e.keys.get? en.1 = some en.2)
    (hn : ∀ en ∈ l, ∀ event ∈ claims, event.sequence ≠ en.2.event.sequence)
    (hds : (l.map Prod.fst).Nodup) :
    ∃ all, auditEventClaims e.last claims l = .ok all ∧
      ∀ event, event ∈ all ↔ event ∈ claims ∨ ∃ en ∈ l, en.2.event = event := by
  induction l generalizing claims with
  | nil => exact ⟨claims, rfl, by simp⟩
  | cons en rest ih =>
    obtain ⟨identity, claim⟩ := en
    have hc : e.keys.get? identity = some claim := hf _ List.mem_cons_self
    obtain ⟨hh, htl⟩ := List.nodup_cons.mp hds
    obtain ⟨hs, hd⟩ := he.schema _ _ hc
    obtain ⟨hp, hb⟩ := he.bounded _ _ hc
    have hn' : ∀ other ∈ rest, ∀ event ∈ claim.event :: claims,
        event.sequence ≠ other.2.event.sequence := by
      intro other ht event hev
      rcases List.mem_cons.mp hev with rfl | hev
      · -- two claims of one sequence would be claims of one identity
        intro hsm
        have ht' := hf other (List.mem_cons_of_mem _ ht)
        have heq := he.distinct _ _ _ _ hc ht' hsm
        exact hh (List.mem_map.mpr ⟨other, ht, heq.symm⟩)
      · exact hn other (List.mem_cons_of_mem _ ht) event hev
    obtain ⟨all, ha, hm⟩ := ih (fun other ht => hf other (List.mem_cons_of_mem _ ht)) hn' htl
    refine ⟨all, ?_, fun event => ?_⟩
    · simp only [auditEventClaims, bind_eq_ok, rejectIf_eq_ok]
      refine ⟨(), ?_, (), he.target _ _ hc, (), ?_, (), ?_, ha⟩
      · simp only [not_or, not_not, not_lt]
        exact ⟨hs, hd, by omega, hb⟩
      · rw [hd]
        exact he.identified _ _ hc
      · simpa using hn _ List.mem_cons_self
    · rw [hm]
      simp only [List.mem_cons, exists_eq_or_imp]
      tauto

theorem auditEvents_ok (hs : Sound sdk s) : auditEventEntries s = .ok () := by
  have he := hs.events
  obtain ⟨hrt, hk, hr⟩ := he.strays
  have hcr := loadEventCursor_last he
  obtain ⟨all, ha, hm⟩ := @auditEventClaims_ok s s.events he [] _
    (fun en hen => Directory.mem_entries.mp hen) (by simp) s.events.keys.nodup_keys
  simp only [auditEventEntries, auditEventJournal, bind_eq_ok, rejectStrays_ok, forM_eq_ok]
  refine ⟨(), hrt, (), hk, (), hr, _, hcr, all, ha, ?_⟩
  rintro ⟨n, record⟩ hen
  obtain ⟨identity, claim, hc, rfl, rfl⟩ := he.records n record (Directory.mem_entries.mp hen)
  obtain ⟨hp, hb⟩ := he.bounded _ _ hc
  have hcl : claim.event ∈ all :=
    (hm _).mpr (.inr ⟨_, Directory.mem_entries.mpr hc, rfl⟩)
  -- the sequence of a record determines the claim it repeats
  have hfn : all.find? (fun event => event.sequence = claim.event.sequence) = some claim.event := by
    cases hf : all.find? (fun event => event.sequence = claim.event.sequence) with
    | none => simpa using List.find?_eq_none.mp hf _ hcl
    | some event =>
      have hsm : event.sequence = claim.event.sequence := by simpa using List.find?_some hf
      rcases (hm event).mp (List.mem_of_find?_eq_some hf) with hn | ⟨en, hen, rfl⟩
      · cases hn
      · have hen' := Directory.mem_entries.mp hen
        obtain rfl := he.distinct _ _ _ _ hen' hc hsm
        rw [Option.some.inj (hen'.symm.trans hc)]
  simp only [auditEventRecord, validateEventRecord, bind_eq_ok, rejectIf_eq_ok]
  refine ⟨(), ⟨(), ?_, he.target _ _ hc⟩, ?_⟩
  · simp only [not_or, not_not, not_lt]
    exact ⟨trivial, by omega, trivial, hb⟩
  · rw [hfn]
    simp

/-! ## Claims and processes -/

theorem hasExec_iff (hids : ∀ o op, ops.get? o = some op → op.operationId = o) :
    hasExec ops stored p = true ↔
      ∃ op, JournaledAt ops stored.id stored.record.generation op ∧ op.kind = .exec ∧
        op.processId = some p := by
  simp only [hasExec, List.any_eq_true, decide_eq_true_eq]
  constructor
  · rintro ⟨⟨o, op⟩, hen, hk, hc, hg, hp⟩
    have ho := Directory.mem_entries.mp hen
    exact ⟨op, ⟨hids o op ho ▸ ho, hc, hg⟩, hk, hp⟩
  · rintro ⟨op, ho, hk, hp⟩
    exact ⟨(op.operationId, op), Directory.mem_entries.mpr ho.found, hk, ho.container,
      ho.generation, hp⟩

theorem hasCreation_iff {g : Nat} {accepts : StoredOperationStatus → Bool}
    (hids : ∀ o op, ops.get? o = some op → op.operationId = o) :
    hasCreation ops id g accepts = true ↔
      ∃ op, JournaledAt ops id g op ∧ op.kind.isCreation = true ∧ accepts op.outcome = true := by
  simp only [hasCreation, List.any_eq_true, decide_eq_true_eq]
  constructor
  · rintro ⟨⟨o, op⟩, hen, hk, hc, hg, ha⟩
    have ho := Directory.mem_entries.mp hen
    exact ⟨op, ⟨hids o op ho ▸ ho, hc, hg⟩, hk, ha⟩
  · rintro ⟨op, ho, hk, ha⟩
    exact ⟨(op.operationId, op), Directory.mem_entries.mpr ho.found, hk, ho.container,
      ho.generation, ha⟩

theorem validateClaim_ok {g : Nat} {p : Option ProcessId} {owner : String}
    (ho : JournaledAt ops id g op) (hp : p.isSome = true → op.processId = p)
    (hr : recoverableOutcome op p = true) :
    validateClaim ops id g p owner op.operationId = .ok () := by
  simp only [validateClaim, bind_eq_ok, okOr_eq_ok, rejectIf_eq_ok]
  refine ⟨op, ho.found, ?_⟩
  simp [ho.container, ho.generation, hr]
  exact hp

theorem recoverableOutcome_prepared {p : Option ProcessId} (h : op.outcome = .prepared) :
    recoverableOutcome op p = true := by
  simp [recoverableOutcome, h]

theorem auditClaimSet_ok {claims : Finset OperationId} {accepts : OperationId → Result Unit}
    {fault : Error} (h : ∀ o ∈ claims, accepts o = .ok ()) :
    auditClaimSet claims accepts fault = .ok () := by
  simp only [auditClaimSet, rejectIf_eq_ok, not_exists, not_and]
  intro o ho
  rw [h o ho]
  simp [Except.toOption]

theorem auditClaims_ok (hok : RecordOk sdk ops id d stored) :
    auditContainerClaims ops stored = .ok () := by
  obtain rfl := hok.loadable.id_eq
  simp only [auditContainerClaims, bind_eq_ok, forM_eq_ok, Option.mem_toList]
  refine ⟨(), fun o ho => ?_, auditClaimSet_ok fun o ho => ?_⟩
  · obtain ⟨op, hop, rfl, -, hou⟩ := hok.active o ho
    refine validateClaim_ok hop (by simp) ?_
    simpa [recoverableOutcome] using hou
  · obtain ⟨op, hop, rfl, hn, -⟩ := hok.io o ho
    exact validateClaim_ok hop.toJournaledAt (fun _ => hn)
      (recoverableOutcome_prepared hop.prepared)

section
variable (hids : ∀ o op, ops.get? o = some op → op.operationId = o)
include hids

theorem auditLiveProcess_ok {pr : StoredProcess} (hok : ProcessOk ops stored p pr) :
    auditProcessEntry ops stored true (p, pr) = .ok () := by
  have hn : p.isInit = false := by
    rw [Bool.eq_false_iff]
    exact fun h => hok.not_init (ProcessId.isInit_iff.mp h)
  simp only [auditProcessEntry, bind_eq_ok, rejectIf_eq_ok, forM_eq_ok, Option.mem_toList]
  refine ⟨(), by simp [hn], pr, hok.loads, (), by simp, (), ?_, (), fun o ho => ?_,
    auditClaimSet_ok fun o ho => ?_⟩
  · simpa using (hasExec_iff hids).mpr hok.exec
  · obtain ⟨op, hop, rfl, hp, -⟩ := hok.active o ho
    exact validateClaim_ok hop.toJournaledAt (fun _ => hp) (recoverableOutcome_prepared hop.prepared)
  · obtain ⟨op, hop, rfl, hp, -⟩ := hok.io o ho
    exact validateClaim_ok hop.toJournaledAt (fun _ => hp) (recoverableOutcome_prepared hop.prepared)

theorem auditLiveProcesses_ok
    (hc : ∀ ps, d.processes = some ps → ps.strays = [] ∧ ps.transactions = [])
    (ho : RecordOk sdk ops id d stored) : auditProcessEntries ops stored d true = .ok () := by
  unfold auditProcessEntries
  split
  · rfl
  · rename_i ps hp
    simp only [bind_eq_ok, rejectStrays_ok, forM_eq_ok]
    refine ⟨(), (hc ps hp).1, ?_⟩
    rintro ⟨p, pr⟩ hen
    exact auditLiveProcess_ok hids (ho.processes ps p pr hp (Directory.mem_entries.mp hen))

/-- A quarantined process passes exactly when nothing claims it. -/
theorem auditMovedProcess_iff {pr : StoredProcess} (ho : ProcessShape ops stored p pr) :
    auditProcessEntry ops stored false (p, pr) = .ok () ↔ pr.isClaimed = false := by
  have hn : p.isInit = false := by
    rw [Bool.eq_false_iff]
    exact fun h => ho.not_init (ProcessId.isInit_iff.mp h)
  simp only [auditProcessEntry, bind_eq_ok, rejectIf_eq_ok, forM_eq_ok, Option.mem_toList]
  constructor
  · rintro ⟨_, -, found, hf, _, hu, -⟩
    cases ho.loads.symm.trans hf
    simpa using hu
  · intro hu
    have hfr := hu
    simp only [StoredProcess.isClaimed, Bool.or_eq_false_iff, Option.isSome_eq_false_iff,
      Option.isNone_iff_eq_none, decide_eq_false_iff_not, not_not] at hfr
    obtain ⟨ha, hi⟩ := hfr
    refine ⟨(), by simp [hn], pr, ho.loads, (), by simp [hu], (), ?_, (), ?_, ?_⟩
    · simpa using (hasExec_iff hids).mpr ho.exec
    · simp [ha]
    · exact auditClaimSet_ok (by simp [hi])

theorem auditMovedProcesses_iff
    (hc : ∀ ps, d.processes = some ps → ps.strays = [] ∧ ps.transactions = [])
    (ho : ∀ ps p pr, d.processes = some ps → ps.get? p = some pr → ProcessShape ops stored p pr) :
    auditProcessEntries ops stored d false = .ok () ↔
      ∀ ps p pr, d.processes = some ps → ps.get? p = some pr → pr.isClaimed = false := by
  unfold auditProcessEntries
  split
  · rename_i hnn
    simp [hnn]
  · rename_i ps hps
    simp only [bind_eq_ok, rejectStrays_ok, forM_eq_ok, hps, Option.some.injEq]
    constructor
    · rintro ⟨_, -, hn⟩ _ p pr rfl hp
      exact (auditMovedProcess_iff hids (ho ps p pr hps hp)).mp
        (hn (p, pr) (Directory.mem_entries.mpr hp))
    · intro hu
      refine ⟨(), (hc ps hps).1, ?_⟩
      rintro ⟨p, pr⟩ hen
      have hp := Directory.mem_entries.mp hen
      exact (auditMovedProcess_iff hids (ho ps p pr hps hp)).mpr (hu ps p pr rfl hp)

end

/-! ## Containers -/

/-- The creation of the newest generation of the ID is still pending. -/
def AwaitsCreation (s : Store) (id : ContainerId) : Prop :=
  ∃ last op, s.generations.get? id = some last ∧
    JournaledAt s.operations id last.lastGeneration op ∧ op.kind.isCreation = true ∧
    op.outcome = .prepared

/-- The generation is the newest one allocated for the ID. -/
def IsLatest (s : Store) (id : ContainerId) (generation : Nat) : Prop :=
  ∃ last, s.generations.get? id = some last ∧ last.lastGeneration = generation

/-- Journaled evidence agrees with the launch bindings of the directory. -/
def EvidenceFits (sdk : Sdk) (d : ContainerDirectory) (stored : StoredContainer)
    (op : StoredOperation) : Prop :=
  ∀ response, op.outcome = .succeededAttestation response →
    ∃ request source, op.request = some (.attest request) ∧
      validateAttestationBindings sdk stored d = .ok source ∧
      validateAttestationResponseBindings sdk source op.operationId request response = .ok ()

/-- What the audit demands of a live directory beyond soundness. -/
structure LiveFit (sdk : Sdk) (s : Store) (id : ContainerId) (d : ContainerDirectory) : Prop where
  pending : d.record = none → AwaitsCreation s id
  latest : ∀ stored, d.record = some stored → IsLatest s id stored.record.generation
  attested : ∀ stored op, d.record = some stored →
    JournaledAt s.operations id stored.record.generation op → op.kind = .attest →
    EvidenceFits sdk d stored op

theorem auditHalfCreated_iff (hids : ∀ o op, s.operations.get? o = some op → op.operationId = o) :
    auditHalfCreated s.operations s.generations id = .ok () ↔ AwaitsCreation s id := by
  simp only [auditHalfCreated, rejectIf_eq_ok, Bool.not_eq_true', Bool.not_eq_false,
    Option.any_eq_true, AwaitsCreation]
  constructor
  · rintro ⟨last, hl, hc⟩
    obtain ⟨op, ho, hk, hp⟩ := (hasCreation_iff hids).mp hc
    exact ⟨last, op, hl, ho, hk, by simpa using hp⟩
  · rintro ⟨last, op, hl, ho, hk, hp⟩
    exact ⟨last, hl, (hasCreation_iff hids).mpr ⟨op, ho, hk, by simpa using hp⟩⟩

theorem auditAttestation_iff : auditAttestationOutcome sdk stored d op = .ok () ↔
      (op.kind = .attest → op.containerId = stored.id → op.generation = stored.record.generation →
        EvidenceFits sdk d stored op) := by
  unfold auditAttestationOutcome EvidenceFits
  cases ho : op.outcome with
  | succeededAttestation response =>
    dsimp only
    split
    · rename_i hsm
      simp only [bind_eq_ok, mapError_eq_ok, StoredOperationStatus.succeededAttestation.injEq,
        hsm, forall_const, forall_eq']
      constructor
      · rintro ⟨r, hr, source, hs, hev⟩
        exact ⟨r, source, retainedAttestationRequest_ok hr, hs, hev⟩
      · rintro ⟨r, source, hr, hs, hev⟩
        refine ⟨r, ?_, source, hs, hev⟩
        unfold retainedAttestationRequest
        rw [hr]
    · rename_i ht
      simp only [true_iff]
      exact fun hk hc hg => absurd ⟨hk, hc, hg⟩ ht
  | _ => simp

theorem auditLayout_ok (hs : d.strays = []) (hb : d.record = none → d.processes = none) :
    auditContainerLayout d id = .ok d.record.isSome := by
  simp only [auditContainerLayout, bind_eq_ok, rejectStrays_ok, rejectIf_eq_ok, pure_eq_ok,
    and_true, not_and]
  refine ⟨(), hs, (), fun hp hn => ?_⟩
  rw [hb (Option.isNone_iff_eq_none.mp hn)] at hp
  cases hp

theorem auditContainer_iff (hs : Sound sdk s) (hd : s.containers.get? id = some d) :
    auditContainerEntry sdk s.operations s.generations s (id, d) = .ok () ↔ LiveFit sdk s id d := by
  have hids : ∀ o op, s.operations.get? o = some op → op.operationId = o :=
    fun o op ho => (hs.operations o op ho).id_eq
  have hok := hs.containers id d hd
  unfold auditContainerEntry
  rw [bind_of_ok (auditLayout_ok hok.strays hok.bare)]
  cases hrc : d.record with
  | none =>
    simp only [Option.isSome_none, Bool.not_false, if_true]
    rw [auditHalfCreated_iff hids]
    constructor
    · intro hp
      exact ⟨fun _ => hp, by simp [hrc], by simp [hrc]⟩
    · exact fun hf => hf.pending hrc
  | some stored =>
    have hr := hok.record stored hrc
    have hld : loadStoredContainer sdk id s = .ok stored :=
      loadStoredContainer_ok.mpr ⟨d, hd, hr.loadable⟩
    have hc : hasCreation s.operations id stored.record.generation (fun _ => true) = true := by
      obtain ⟨op, ho, hk⟩ := hr.creation
      exact (hasCreation_iff hids).mpr ⟨op, ho, hk, rfl⟩
    simp only [Option.isSome_some, Bool.not_true, Bool.false_eq_true, if_false]
    rw [bind_of_ok hld]
    simp only [bind_eq_ok, okOr_eq_ok, rejectIf_eq_ok, forM_eq_ok, not_not]
    constructor
    · rintro ⟨last, hls, _, hl, _, -, _, ha, -⟩
      refine ⟨by simp [hrc], ?_, ?_⟩
      · intro stored' hst'
        cases hrc.symm.trans hst'
        exact ⟨last, hls, hl.symm⟩
      · intro stored' op hst' ho hk
        cases hrc.symm.trans hst'
        have hen := ha (op.operationId, op) (Directory.mem_entries.mpr ho.found)
        exact auditAttestation_iff.mp hen hk
          (ho.container.trans hr.loadable.id_eq.symm) ho.generation
    · intro hf
      obtain ⟨last, hls, hl⟩ := hf.latest stored hrc
      refine ⟨last, hls, (), hl.symm, (), by simp [hc], (), ?_, (),
        auditClaims_ok hr, auditLiveProcesses_ok hids hok.clean hr⟩
      rintro ⟨o, op⟩ hen
      have ho := Directory.mem_entries.mp hen
      refine auditAttestation_iff.mpr fun hk hcn hg => ?_
      refine hf.attested stored op hrc ⟨?_, ?_, hg⟩ hk
      · rw [hids o op ho]
        exact ho
      · exact hcn.trans hr.loadable.id_eq

/-! ## Quarantine -/

/-- What the audit demands of a quarantined directory beyond soundness. -/
structure MovedFit (s : Store) (tombstone : Tombstone) (d : ContainerDirectory)
    (op : StoredOperation) : Prop where
  settled : tombstone.kind.acceptsOutcome op.outcome = true
  vacated : ∀ stored, d.record = some stored →
    stored.activeOperation = some op.operationId ∧ Unowned d stored
  gone : ∀ live, s.containers.get? op.containerId = some live →
    ∃ stored, live.record = some stored ∧ stored.record.generation ≠ op.generation

theorem auditNotLive_iff (hs : Sound sdk s) {u : Unit} : auditNotLive sdk op s = .ok u ↔
      ∀ live, s.containers.get? op.containerId = some live →
        ∃ stored, live.record = some stored ∧ stored.record.generation ≠ op.generation := by
  unfold auditNotLive
  cases hlv : s.containers.get? op.containerId with
  | none => simp
  | some live =>
    simp only [bind_eq_ok, rejectIf_eq_ok, Option.some.injEq, forall_eq']
    constructor
    · rintro ⟨stored, hld, hg⟩
      obtain ⟨d, hd, hl⟩ := loadStoredContainer_ok.mp hld
      cases hlv.symm.trans hd
      exact ⟨stored, hl.record, hg⟩
    · rintro ⟨stored, hr, hg⟩
      have ho := (hs.containers _ _ hlv).record stored hr
      exact ⟨stored, loadStoredContainer_ok.mpr ⟨live, hlv, ho.loadable⟩, hg⟩

theorem auditQuarantine_iff {tb : Tombstone} (hs : Sound sdk s) (hd : s.quarantine.get? tb = some d)
    (hop : s.operations.get? tb.operationId = some op) :
    auditQuarantineEntry sdk s.operations s (tb, d) = .ok () ↔ MovedFit s tb d op := by
  have hids : ∀ o op, s.operations.get? o = some op → op.operationId = o :=
    fun o op hop => (hs.operations o op hop).id_eq
  obtain ⟨found, stored, ho⟩ := hs.quarantine tb d hd
  cases hop.symm.trans ho.found
  have hl : auditContainerLayout d op.containerId = .ok true := by
    rw [auditLayout_ok ho.strays (by simp [ho.loadable.record]), ho.loadable.record]
    rfl
  have hld := loadFromDirectory_ok.mpr ho.loadable
  unfold auditQuarantineEntry
  simp only [bind_eq_ok, okOr_eq_ok, rejectIf_eq_ok, mapError_eq_ok, hop, Option.some.injEq,
    exists_eq_left', hl, Except.ok.injEq, hld, not_or, not_not, Bool.not_eq_true']
  simp only [auditNotLive_iff hs, auditMovedProcesses_iff hids ho.clean ho.processes]
  constructor
  · rintro ⟨_, ⟨-, hac⟩, _, -, _, ⟨-, ha, hi⟩, _, hg, hp⟩
    refine ⟨by simpa using hac, fun stored' hst' => ?_, hg⟩
    cases ho.loadable.record.symm.trans hst'
    exact ⟨ha, hi, hp⟩
  · rintro ⟨hac, hv, hg⟩
    obtain ⟨ha, hi, hp⟩ := hv stored ho.loadable.record
    exact ⟨(), ⟨ho.kind, by simpa using hac⟩, (), by simp, (), ⟨ho.generation, ha, hi⟩, (), hg, hp⟩

/-! ## The audit -/

/-- What the audit demands of a store beyond soundness. -/
structure Fit (sdk : Sdk) (s : Store) : Prop where
  containers : ∀ id d, s.containers.get? id = some d → LiveFit sdk s id d
  quarantine : ∀ tombstone d op, s.quarantine.get? tombstone = some d →
    s.operations.get? tombstone.operationId = some op → MovedFit s tombstone d op

/-- **What the audit accepts.** -/
theorem audit_iff_fit (hs : Sound sdk s) : auditStartupState sdk s = .ok () ↔ Fit sdk s := by
  obtain ⟨hr, -, -, hc, hq⟩ := hs.strays
  unfold auditStartupState
  rw [bind_of_ok (show auditRootEntries s = .ok () from rejectStrays_ok.mpr hr),
    bind_of_ok (auditOperations_ok hs), bind_of_ok (auditGenerations_ok hs),
    bind_of_ok (auditOperationInventory_ok hs)]
  simp only [auditContainerEntries, auditQuarantineEntries, bind_eq_ok, rejectStrays_ok, forM_eq_ok]
  constructor
  · rintro ⟨_, ⟨_, -, hl⟩, _, ⟨_, -, hm⟩, -⟩
    refine ⟨fun id d hd => ?_, fun tb d op hd hop => ?_⟩
    · exact (auditContainer_iff hs hd).mp (hl (id, d) (Directory.mem_entries.mpr hd))
    · exact (auditQuarantine_iff hs hd hop).mp (hm (tb, d) (Directory.mem_entries.mpr hd))
  · intro hf
    refine ⟨(), ⟨(), hc, ?_⟩, (), ⟨(), hq, ?_⟩, auditEvents_ok hs⟩
    · rintro ⟨id, d⟩ hen
      have hd := Directory.mem_entries.mp hen
      exact (auditContainer_iff hs hd).mpr (hf.containers id d hd)
    · rintro ⟨tb, d⟩ hen
      have hd := Directory.mem_entries.mp hen
      obtain ⟨op, _, ho⟩ := hs.quarantine tb d hd
      exact (auditQuarantine_iff hs hd ho.found).mpr (hf.quarantine tb d op hd ho.found)

end OciRuntime
