import OciRuntime.Commit.Sound

/-!
# `OciRuntime.Commit.Preserve` — every commit preserves the store invariant

One section for each constructor of `Write`: what a new journal entry, a new generation, a changed
container directory, a move to quarantine and a step of the event journal do to the parts of
`Sound`. `Sound.write` puts them together.
-/

namespace OciRuntime

open Durable

variable {id : ContainerId}

variable {kind : StoredOperationKind} {process : StoredProcess}

/-! ## Journal steps -/

theorem EventBasis.grow (h : EventBasis a identity event) (hg : JournalGrows a b) :
    EventBasis b identity event := by
  cases h with
  | created ct kind found basis =>
    obtain ⟨op', ho', hs⟩ := found.grow hg
    exact .created ct kind ho' (hs.kind.trans basis)
  | started ct kind found basis =>
    obtain ⟨op', ho', hs⟩ := found.grow hg
    exact .started ct kind ho' (hs.kind.trans basis)
  | ended ct kind => exact .ended ct kind
  | restored ct kind found basis =>
    obtain ⟨op', hf, hs⟩ := hg _ _ found
    rw [← hs.operationId]
    refine .restored ?_ kind ?_ (hs.kind.trans basis)
    · rw [hs.container, hs.generation]
      exact ct
    · rw [hs.operationId]
      exact hf
  | other kind => exact .other kind

/-- The failure of an operation is final. -/
theorem OperationStep.failed_kept (h : OperationStep sdk s op)
    (hf : s.operations.get? failed.operationId = some failed)
    (hfl : failed.outcome.isFailed = true) :
    (s.writeOperation op).operations.get? failed.operationId = some failed := by
  by_cases ho : failed.operationId = op.operationId
  · rw [ho] at hf
    cases h with
    | create fresh => rw [fresh] at hf; cases hf
    | journal fresh => rw [fresh] at hf; cases hf
    | settle found prepared =>
      cases found.symm.trans hf
      rw [prepared] at hfl
      cases hfl
    | rebind found rebound =>
      cases found.symm.trans hf
      cases rebound with
      | record was => rw [was] at hfl; cases hfl
      | restored was => rw [was] at hfl; cases hfl
      | process was => rw [was] at hfl; cases hfl
  · exact (Directory.get?_write_of_ne _ _ ho).trans hf

/-- A pending process operation that holds a claim stays pending: creations are of another kind. -/
theorem OperationStep.claimed_pending {pending : StoredOperation} (h : OperationStep sdk s op)
    (hp : PendingAt s.operations id generation pending) (hcl : HoldsClaim s pending)
    (hk : pending.kind.isCreation = false) :
    PendingAt (s.writeOperation op).operations id generation pending := by
  rcases h.pending hp with hkp | ⟨outcome, -, hr | ⟨hc, -⟩⟩
  · exact hkp
  · exact absurd hcl hr
  · rw [hk] at hc
    cases hc

theorem isCreation_of_io (h : isProcessIoKind kind = true) : kind.isCreation = false := by
  cases kind <;> first | rfl | cases h

theorem isProcessOperation_of_creation (h : kind.isCreation = true) :
    kind.isProcessOperation = false := by
  cases kind <;> first | rfl | cases h

theorem isCreation_of_mutation (h : kind = .exec ∨ kind = .signalProcess) :
    kind.isCreation = false := by
  rcases h with rfl | rfl <;> rfl

theorem ProcessShape.grow (h : ProcessShape a stored p process) (hg : JournalGrows a b) :
    ProcessShape b stored p process := by
  obtain ⟨op, ho, hk, hp⟩ := h.exec
  obtain ⟨op', ho', hs⟩ := ho.grow hg
  exact ⟨h.not_init, h.loads, op', ho', hs.kind.trans hk, hs.process.trans hp⟩

theorem ProcessOk.journal (h : ProcessOk s.operations c p process)
    (hs : OperationStep sdk s op) (hd : s.containers.get? c.id = some d)
    (hr : d.record = some c) (hps : d.processes = some ps)
    (hp : ps.get? p = some process) :
    ProcessOk (s.writeOperation op).operations c p process := by
  refine ⟨h.toProcessShape.grow hs.grows, ?_, ?_⟩
  · intro o ho
    obtain ⟨claimant, hpn, rfl, hpr, hk⟩ := h.active o ho
    have hc : HoldsClaim s claimant :=
      ⟨d, c, hpn.container.symm ▸ hd, hr, .inr (.inr ⟨ps, p, process, hps, hp, .inl ho⟩)⟩
    exact ⟨claimant, hs.claimed_pending hpn hc (isCreation_of_mutation hk), rfl, hpr, hk⟩
  · intro o ho
    obtain ⟨claimant, hpn, rfl, hpr, hk⟩ := h.io o ho
    have hc : HoldsClaim s claimant :=
      ⟨d, c, hpn.container.symm ▸ hd, hr, .inr (.inr ⟨ps, p, process, hps, hp, .inr ho⟩)⟩
    exact ⟨claimant, hs.claimed_pending hpn hc (isCreation_of_io hk), rfl, hpr, hk⟩

theorem RecordOk.journal (h : RecordOk sdk s.operations id d stored)
    (hst : OperationStep sdk s op) (hd : s.containers.get? id = some d) :
    RecordOk sdk (s.writeOperation op).operations id d stored := by
  have hg := hst.grows
  have hr := h.loadable.record
  refine ⟨h.loadable, h.normal, ?_, ?_, ?_, ?_, ?_, ?_⟩
  · obtain ⟨creation, hf, hk⟩ := h.creation
    obtain ⟨creation', hf', hs⟩ := hf.grow hg
    exact ⟨creation', hf', hs.kind ▸ hk⟩
  · intro hcd
    obtain ⟨creation, hf, hk⟩ := h.origin hcd
    obtain ⟨creation', hf', hs⟩ := hf.grow hg
    exact ⟨creation', hf', hs.kind ▸ hk⟩
  · intro o ho
    obtain ⟨claimant, hf, rfl, hl, hpp | ⟨hk, hfl⟩⟩ := h.active o ho
    · have hc : HoldsClaim s claimant :=
        ⟨d, stored, hf.container.symm ▸ hd, hr, .inl ho⟩
      rcases hst.pending ⟨hf, hpp⟩ with hkp | ⟨outcome, rfl, hrl⟩
      · exact ⟨claimant, hkp.toJournaledAt, rfl, hl, .inl hpp⟩
      · -- the claimant was settled while it holds its claim: it is a creation that failed
        obtain ⟨hk, hfl⟩ := hrl.resolve_left (not_not.mpr hc)
        exact ⟨_, ⟨Directory.get?_write_self _ _ _, hf.container, hf.generation⟩, rfl,
          hl, .inr ⟨hk, hfl⟩⟩
    · exact ⟨claimant, ⟨hst.failed_kept hf.found hfl, hf.container,
        hf.generation⟩, rfl, hl, .inr ⟨hk, hfl⟩⟩
  · intro o ho
    obtain ⟨claimant, hpn, rfl, hpr, hk⟩ := h.io o ho
    have hc : HoldsClaim s claimant :=
      ⟨d, stored, hpn.container.symm ▸ hd, hr, .inr (.inl ho)⟩
    exact ⟨claimant, hst.claimed_pending hpn hc (isCreation_of_io hk), rfl, hpr, hk⟩
  · intro o active ho ha hfn
    obtain ⟨claimant, hf, rfl, -, -⟩ := h.active o ho
    obtain ⟨grown, hgn, hs⟩ := hg _ _ hf.found
    cases hgn.symm.trans ha
    rw [hs.kind] at hfn
    exact h.fence _ _ ho hf.found hfn
  · intro ps p process hps hp
    have hi := h.loadable.id_eq
    exact (h.processes ps p process hps hp).journal hst (hi.symm ▸ hd) hr hps hp

theorem DirectoryOk.journal (h : DirectoryOk sdk s.operations id d)
    (hst : OperationStep sdk s op) (hd : s.containers.get? id = some d) :
    DirectoryOk sdk (s.writeOperation op).operations id d := by
  refine ⟨h.strays, h.clean, h.bare, ?_, fun stored hs => (h.record stored hs).journal hst hd⟩
  obtain ⟨creation, hf, hc, hk⟩ := h.creation
  obtain ⟨creation', hf', hsm⟩ := hst.grows _ _ hf
  refine ⟨creation', ?_, hsm.container.trans hc, hsm.kind ▸ hk⟩
  rw [hsm.operationId]
  exact hf'

theorem TombstoneOk.journal (h : TombstoneOk sdk s.operations tb d old stored)
    (hst : OperationStep sdk s op) :
    ∃ op', TombstoneOk sdk (s.writeOperation op).operations tb d op' stored := by
  obtain ⟨op', hf, hs⟩ := hst.grows _ _ h.found
  refine ⟨op', hf, hs.kind.trans h.kind, ?_, h.normal,
    h.generation.trans hs.generation.symm, h.strays, h.clean, fun ps p process hps hp =>
    (h.processes ps p process hps hp).grow hst.grows⟩
  rw [hs.container]
  exact h.loadable

theorem EventsOk.grow (h : EventsOk a e) (hg : JournalGrows a b) : EventsOk b e :=
  { h with basis := fun identity claim hc => (h.basis identity claim hc).grow hg }

theorem Live.recordOk (h : Sound sdk s) (hlv : Live sdk s id stored) :
    ∃ d, s.containers.get? id = some d ∧ RecordOk sdk s.operations id d stored := by
  obtain ⟨d, hd, hl⟩ := hlv
  exact ⟨d, hd, (h.containers id d hd).record stored hl.record⟩

theorem OperationOk.withOutcome (h : OperationOk sdk s o old)
    (hs : ({ old with outcome } : StoredOperation).shapeFault sdk = none)
    (hn : outcome.Normal) : OperationOk sdk s o { old with outcome } :=
  ⟨h.id_eq, h.schema, hs, h.positive, h.allocated, h.process, h.exec, hn, h.start⟩

theorem restoreResponse_restored (h : restoreResponse sdk request restored = .ok rp) :
    rp.restored = restored := by
  unfold restoreResponse RestoreResponse.new at h
  simp only [bind_eq_ok, pure_eq_ok] at h
  obtain ⟨_, _, _, ⟨_, _, _, _, _, _, _, _, _, _, _, _, _, _, rfl⟩, _, _, rfl⟩ := h
  rfl

/-- A response that rests on the live record repeats a state that the runtime has written. -/
theorem ResponseBasis.normal (h : Sound sdk s) (hb : ResponseBasis sdk s op outcome) :
    outcome.Normal := by
  cases hb with
  | record _ live =>
    obtain ⟨_, _, hr⟩ := live.recordOk h
    exact hr.normal
  | @restored stored request rp live _ _ response_ok =>
    obtain ⟨_, _, hr⟩ := live.recordOk h
    show rp.restored.state.Normal
    rw [restoreResponse_restored response_ok]
    exact hr.normal
  | attested => trivial
  | other _ _ normal => exact normal
  | failed => trivial

theorem Rebound.normal (h : Rebound sdk op outcome) (hn : op.outcome.Normal) : outcome.Normal := by
  cases h with
  | record was fits =>
    rw [was] at hn
    exact State.Normal.withPid hn fits
  | restored was fits =>
    rw [was] at hn
    exact State.Normal.withPid hn fits
  | process => trivial

/-- The entry that a journal step writes is well formed. -/
theorem Sound.stepped_entry (h : Sound sdk s) (hst : OperationStep sdk s op) :
    OperationOk sdk s op.operationId op := by
  cases hst with
  | @create op last fresh kind schema shape prepared absent allocated last_eq first =>
    refine ⟨rfl, schema, shape, ?_, ⟨last, allocated, last_eq.ge⟩, ?_, ?_, ?_, ?_⟩
    · rw [← last_eq]
      exact (h.generations _ _ allocated).2.2
    -- Create and Restore are neither process operations nor a start
    · intro hp
      rw [isProcessOperation_of_creation kind] at hp
      cases hp
    · intro hx
      rw [hx] at kind
      cases kind
    · rw [prepared]
      trivial
    · intro hs
      rw [hs] at kind
      cases kind
  | @journal op stored fresh schema shape prepared live g guard =>
    obtain ⟨d, hd, hr⟩ := live.recordOk h
    obtain ⟨creation, hf, -⟩ := hr.creation
    refine ⟨rfl, schema, shape, ?_, ?_, guard.process, guard.exec, ?_, ?_⟩
    · rw [← g]
      exact hr.loadable.generation
    · obtain ⟨last, hls, hl⟩ := (h.operations _ _ hf.found).allocated
      rw [hf.container] at hls
      rw [hf.generation, g] at hl
      exact ⟨last, hls, hl⟩
    · rw [prepared]
      trivial
    · intro hs
      obtain ⟨create, hc, hk⟩ := hr.origin (guard.start hs)
      rw [g] at hc
      exact ⟨create, hc, hk⟩
  | settle found _ _ shape _ rp =>
    exact (h.operations _ _ found).withOutcome shape (rp.normal h)
  | rebind found rebound shape =>
    have ho := h.operations _ _ found
    exact ho.withOutcome shape (rebound.normal ho.response)

theorem OperationOk.grow (h : OperationOk sdk s o op) (hg : JournalGrows s.operations t.operations)
    (hls : ∀ id last, s.generations.get? id = some last →
      ∃ last', t.generations.get? id = some last' ∧ last.lastGeneration ≤ last'.lastGeneration) :
    OperationOk sdk t o op := by
  refine ⟨h.id_eq, h.schema, h.shape, h.positive, ?_, h.process, h.exec, h.response, ?_⟩
  · obtain ⟨last, hf, hl⟩ := h.allocated
    obtain ⟨last', hf', hl'⟩ := hls _ _ hf
    exact ⟨last', hf', hl.trans hl'⟩
  · intro hs
    obtain ⟨create, hc, hk⟩ := h.start hs
    obtain ⟨create', hc', hsm⟩ := hc.grow hg
    exact ⟨create', hc', hsm.kind.trans hk⟩

/-- A creation is the only one of its generation. -/
theorem Sound.stepped_creation (h : Sound sdk s) (hs : OperationStep sdk s op)
    (hn : o ≠ op.operationId) (ht : s.operations.get? o = some other)
    (hk : op.kind.isCreation = true) (hk' : other.kind.isCreation = true)
    (hc : op.containerId = other.containerId) : op.generation ≠ other.generation := by
  intro hg
  cases hs with
  | create fresh kind schema shape prepared absent allocated last_eq first =>
    exact first o other ht hc.symm hg.symm
  | journal fresh schema shape prepared live generation guard =>
    rw [guard.notCreation] at hk
    cases hk
  | settle found => exact hn (h.creations _ _ _ _ ht found hk' hk hc.symm hg.symm)
  | rebind found => exact hn (h.creations _ _ _ _ ht found hk' hk hc.symm hg.symm)

theorem Sound.operation (h : Sound sdk s) (hs : OperationStep sdk s op) :
    Sound sdk (s.writeOperation op) := by
  have hgr := hs.grows
  have hsm : ∀ id last, s.generations.get? id = some last →
      ∃ last', (s.writeOperation op).generations.get? id = some last' ∧
        last.lastGeneration ≤ last'.lastGeneration :=
    fun id last hl => ⟨last, hl, le_rfl⟩
  refine ⟨?_, h.generations, ?_, ?_, ?_, h.events.grow hgr, h.strays⟩
  · exact Directory.forall_write ((h.stepped_entry hs).grow hgr hsm)
      fun o found hf => (h.operations o found hf).grow hgr hsm
  · intro o o' a b ha hb hk hk' hc hg
    rw [show (s.writeOperation op).operations.get? o = _ from Directory.get?_write ..] at ha
    rw [show (s.writeOperation op).operations.get? o' = _ from Directory.get?_write ..] at hb
    split at ha <;> split at hb
    · rename_i ho ho'
      rw [ho, ho']
    · rename_i ho ho'
      cases ha
      exact absurd hg (h.stepped_creation hs ho' hb hk hk' hc)
    · rename_i ho ho'
      cases hb
      exact absurd hg.symm (h.stepped_creation hs ho ha hk' hk hc.symm)
    · exact h.creations o o' a b ha hb hk hk' hc hg
  · intro id d hd
    exact (h.containers id d hd).journal hs hd
  · intro tb d hd
    obtain ⟨old, stored, hok⟩ := h.quarantine tb d hd
    obtain ⟨op', hok'⟩ := hok.journal hs
    exact ⟨op', stored, hok'⟩

/-! ## Generations -/

theorem Sound.generation (h : Sound sdk s)
    (hl : last = ((s.generations.get? id).map (·.lastGeneration)).getD 0) :
    Sound sdk (s.writeGeneration ⟨generationSchemaVersion, id, last + 1⟩) := by
  refine ⟨?_, ?_, h.creations, h.containers, h.quarantine, h.events, h.strays⟩
  · intro o op ho
    refine (h.operations o op ho).grow (.refl _) ?_
    intro k old hold
    rw [show (s.writeGeneration _).generations.get? k = _ from Directory.get?_write ..]
    split
    · rename_i hk
      subst hk
      rw [hold] at hl
      exact ⟨_, rfl, by simpa using hl ▸ Nat.le_succ last⟩
    · exact ⟨old, hold, le_rfl⟩
  · exact Directory.forall_write ⟨rfl, rfl, Nat.succ_ne_zero _⟩ h.generations

/-! ## Container directories -/

section Directories

variable {a b : StoredContainer}

/-- A process record speaks about the container's ID and generation only. -/
theorem ProcessOk.congr (h : ProcessOk ops a p process) (ha : SameContract a b) :
    ProcessOk ops b p process := by
  have ht : exactProcessTarget b p = exactProcessTarget a p := by
    unfold exactProcessTarget
    rw [ha.id_eq, ha.generation]
  refine ⟨⟨h.not_init, ht ▸ h.loads, ?_⟩, ?_, ?_⟩
  · rw [ha.id_eq, ha.generation]
    exact h.exec
  · rw [ha.id_eq, ha.generation]
    exact h.active
  · rw [ha.id_eq, ha.generation]
    exact h.io

theorem RecordStep.sameContract (hs : RecordStep ops actor d a b) : SameContract a b := by
  cases hs with
  | claim => exact ⟨rfl, rfl, rfl, rfl, rfl, rfl⟩
  | ioClaim => exact ⟨rfl, rfl, rfl, rfl, rfl, rfl⟩
  | change state_step => exact ⟨rfl, rfl, rfl, rfl, state_step.id_eq, state_step.bundle⟩

theorem RecordStep.normal (hs : RecordStep ops actor d a b)
    (h : a.record.state.Normal) : b.record.state.Normal := by
  cases hs with
  | claim => exact h
  | ioClaim => exact h
  | change state_step => exact state_step.normal

/-- A generation becomes `Created` through its create operation only. -/
theorem RecordStep.origin (hst : RecordStep ops actor d a b)
    (hc : b.record.state.status = .created) :
    a.record.state.status = .created ∨
      ∃ op, JournaledAt ops a.id a.record.generation op ∧ op.kind = .create := by
  cases hst with
  | claim => exact .inl hc
  | ioClaim => exact .inl hc
  | change state_step born =>
    have hrn := state_step.rank
    rw [show _ = ContainerState.created from hc] at hrn
    cases hs : a.record.state.status with
    | created => exact .inl rfl
    | creating =>
      obtain ⟨op, ho, ⟨hk, -⟩ | ⟨-, hr⟩⟩ :=
        born hs (by rw [show _ = ContainerState.created from hc]; decide)
      · exact .inr ⟨op, ho, hk⟩
      · rw [show _ = ContainerState.created from hc] at hr
        cases hr
    | running => rw [hs] at hrn; exact absurd hrn (by decide)
    | stopped => rw [hs] at hrn; exact absurd hrn (by decide)

theorem RecordOk.update (h : RecordOk sdk ops id d a) (hs : RecordStep ops actor d a b) :
    RecordOk sdk ops id { d with record := some b, recordTransaction := false } b := by
  have ha := hs.sameContract
  have hi := h.loadable.id_eq
  have hnr := hs.normal h.normal
  refine ⟨h.loadable.update ha (validateState_ok_of_pidFits hnr.pid), hnr, ?_, ?_, ?_,
    ?_, ?_, fun ps p process hps hp => (h.processes ps p process hps hp).congr ha⟩
  · rw [ha.generation]
    exact h.creation
  · intro hc
    rw [ha.generation]
    rcases hs.origin hc with hold | ⟨op, hop, hkn⟩
    · exact h.origin hold
    · exact ⟨op, hi ▸ hop, hkn⟩
  · intro o ho
    cases hs with
    | claim pn lifecycle =>
      cases ho
      exact ⟨_, hi ▸ pn.toJournaledAt, rfl, lifecycle, .inl pn.prepared⟩
    | ioClaim => exact h.active o ho
    | change _ _ active_kept =>
      rcases active_kept with hk | ⟨hn, -⟩
      · exact h.active o (hk ▸ ho)
      · rw [show _ = none from hn] at ho
        cases ho
  · intro o ho
    cases hs with
    | claim => exact h.io o ho
    | ioClaim pn kind init =>
      rcases Finset.mem_insert.mp ho with rfl | hold
      · exact ⟨_, hi ▸ pn, rfl, init, kind⟩
      · exact h.io o hold
    | change _ _ _ io_kept => exact h.io o (io_kept ho)
  · intro o op ho hop hf
    cases hs with
    | claim pn lifecycle _ free fence =>
      cases ho
      cases pn.found.symm.trans hop
      exact fence hf
    | ioClaim pn kind init admitted =>
      rw [admitted o op ho hop] at hf
      cases hf
    | change _ _ active_kept io_kept =>
      rcases active_kept with hk | ⟨hn, -⟩
      · obtain ⟨hio, hpr⟩ := h.fence o op (hk ▸ ho) hop hf
        refine ⟨?_, hpr⟩
        rw [hio] at io_kept
        exact Finset.subset_empty.mp io_kept
      · rw [show _ = none from hn] at ho
        cases ho

theorem isClaimed_eq_false : process.isClaimed = false ↔
      process.activeOperation = none ∧ process.activeIoOperations = ∅ := by
  simp [StoredProcess.isClaimed]

/-- The record a process step writes, under its own process ID. -/
theorem ProcessStep.ok
    (hxc : ∀ o op, ops.get? o = some op → op.kind = .exec → op.processId ≠ some .init)
    (h : ∀ p process, ps.get? p = some process → ProcessOk ops a p process)
    (hst : ProcessStep ops a ps process) :
    ProcessOk ops a process.record.target.processId process := by
  cases hst with
  | @create op p terminal pn kind process absent unclaimed =>
    refine ⟨⟨?_, ?_, op, pn.toJournaledAt, kind, process⟩, ?_, ?_⟩
    · rintro rfl
      exact hxc _ op pn.found kind process
    · exact loadProcess_ok.mpr ⟨rfl, rfl, rfl, by simp, by simp⟩
    · intro o ho
      cases ho
      exact ⟨op, pn, rfl, process, .inl kind⟩
    · intro o ho
      cases ho
  | @claim op p old pn kind process found free unclaimed =>
    have hold := h p old found
    obtain ⟨-, hs, ht, hpd, hx⟩ := loadProcess_ok.mp hold.loads
    have hp : old.record.target.processId = p := by rw [ht]; rfl
    show ProcessOk ops a old.record.target.processId _
    rw [hp]
    refine ⟨⟨hold.not_init, loadProcess_ok.mpr ⟨rfl, hs, ht, hpd, hx⟩, hold.exec⟩, ?_, hold.io⟩
    intro o ho
    cases ho
    exact ⟨op, pn, rfl, process, kind⟩
  | @ioClaim op p old pn kind process found admitted =>
    have hold := h p old found
    obtain ⟨-, hs, ht, hpd, hx⟩ := loadProcess_ok.mp hold.loads
    have hp : old.record.target.processId = p := by rw [ht]; rfl
    show ProcessOk ops a old.record.target.processId _
    rw [hp]
    refine ⟨⟨hold.not_init, loadProcess_ok.mpr ⟨rfl, hs, ht, hpd, hx⟩, hold.exec⟩, hold.active, ?_⟩
    intro o ho
    rcases Finset.mem_insert.mp ho with rfl | ho'
    · exact ⟨op, pn, rfl, process, kind⟩
    · exact hold.io o ho'
  | @change p old pid exit active io found pid_ne exit_valid active_kept io_kept =>
    have hold := h p old found
    obtain ⟨-, hs, ht, -, -⟩ := loadProcess_ok.mp hold.loads
    have hp : old.record.target.processId = p := by rw [ht]; rfl
    show ProcessOk ops a old.record.target.processId _
    rw [hp]
    refine ⟨⟨hold.not_init, loadProcess_ok.mpr ⟨rfl, hs, ht, pid_ne, exit_valid⟩,
      hold.exec⟩, ?_, fun o ho => hold.io o (io_kept ho)⟩
    intro o ho
    rcases active_kept with hk | hn
    · exact hold.active o (hk ▸ ho)
    · rw [show _ = none from hn] at ho
      cases ho

/-- No process is claimed while Delete or Checkpoint holds the container. -/
theorem ProcessStep.unclaimed (hs : ProcessStep ops a ps process)
    (ha : a.activeOperation = some o) (ho : ops.get? o = some op)
    (hf : op.kind.isFencing = true)
    (h : ∀ p process, ps.get? p = some process → process.isClaimed = false) :
    process.isClaimed = false := by
  cases hs with
  | create _ _ _ _ unclaimed => rw [unclaimed] at ha; cases ha
  | claim _ _ _ _ _ unclaimed => rw [unclaimed] at ha; cases ha
  | ioClaim _ _ _ _ admitted =>
    rw [admitted o op ha ho] at hf
    cases hf
  | change found _ _ active_kept io_kept =>
    obtain ⟨hn, hm⟩ := isClaimed_eq_false.mp (h _ _ found)
    refine isClaimed_eq_false.mpr ⟨?_, ?_⟩
    · rcases active_kept with hk | hd
      · exact hk.trans hn
      · exact hd
    · rw [hm] at io_kept
      exact Finset.subset_empty.mp io_kept

theorem RecordOk.withProcess (h : RecordOk sdk ops id d a)
    (hx : ∀ o op, ops.get? o = some op → op.kind = .exec → op.processId ≠ some .init)
    (hps : d.processes = some ps) (hs : ProcessStep ops a ps process) :
    RecordOk sdk ops id
      { d with processes := some (ps.write process.record.target.processId process) } a := by
  have hl := h.loadable
  refine ⟨⟨hl.record, hl.schema, hl.id_eq, hl.generation, hl.stateId, hl.state,
    hl.contract⟩, h.normal, h.creation, h.origin, h.active, h.io, ?_, ?_⟩
  · intro o op ho hop hf
    obtain ⟨hi, hp⟩ := h.fence o op ho hop hf
    refine ⟨hi, ?_⟩
    rintro ps' p found ⟨⟩
    exact Directory.forall_write (P := fun _ found => found.isClaimed = false)
      (hs.unclaimed ho hop hf fun p process => hp ps p process hps)
      (fun p found => hp ps p found hps) p found
  · rintro ps' p found ⟨⟩
    exact Directory.forall_write (hs.ok hx fun p process => h.processes ps p process hps)
      (fun p found => h.processes ps p found hps) p found

/-- A container without a configuration snapshot does not load. -/
theorem Loadable.config_isSome (h : Loadable sdk id d a) : d.config ≠ none := by
  intro hn
  obtain ⟨bundle, hb, -⟩ := h.contract
  unfold loadBundleFromDirectory at hb
  rw [hn] at hb
  cases hb

theorem PendingCreation.isLifecycle (h : PendingCreation ops id op) : op.isLifecycle = true := by
  have hkn := h.kind
  unfold StoredOperation.isLifecycle
  cases hk : op.kind <;> rw [hk] at hkn <;> first | rfl | cases hkn

theorem PendingCreation.not_fencing (h : PendingCreation ops id op) :
    op.kind.isFencing = false := by
  have hkn := h.kind
  cases hk : op.kind <;> rw [hk] at hkn <;> first | rfl | cases hkn

/-- The record of a creation. -/
theorem RecordOk.born (hc : PendingCreation ops id op) (hl : Loadable sdk id d a)
    (hp : d.processes = none) (hn : a.record.state.Normal)
    (hs : a.record.state.status = .creating)
    (hg : a.record.generation = op.generation)
    (ha : a.activeOperation = some op.operationId) (hi : a.initIoOperations = ∅) :
    RecordOk sdk ops id d a := by
  have hf : JournaledAt ops id a.record.generation op := by
    rw [hg]
    exact hc.toJournaledAt
  refine ⟨hl, hn, ⟨op, hf, hc.kind⟩, ?_, ?_, ?_, ?_, ?_⟩
  · rw [hs]
    intro h
    cases h
  · intro o ho
    cases ha.symm.trans ho
    exact ⟨op, hf, rfl, hc.isLifecycle, .inl hc.prepared⟩
  · rw [hi]
    simp
  · intro o found ho hf' hfn
    cases ha.symm.trans ho
    cases hf.found.symm.trans hf'
    rw [hc.not_fencing] at hfn
    cases hfn
  · intro ps p process hps
    rw [hp] at hps
    cases hps

theorem DirectoryOk.step
    (hx : ∀ o op, ops.get? o = some op → op.kind = .exec → op.processId ≠ some .init)
    (h : ∀ d, old = some d → DirectoryOk sdk ops id d)
    (hst : DirectoryStep sdk ops actor id old new) : DirectoryOk sdk ops id new := by
  cases hst with
  | @create op creation =>
    refine ⟨rfl, ?_, fun _ => rfl, ⟨op, creation.found, creation.container, creation.kind⟩, ?_⟩
    · intro ps hps
      cases hps
    · intro c hs
      cases hs
  | @config op d configJson creation _ absent =>
    have hd := h d rfl
    refine ⟨hd.strays, hd.clean, hd.bare, hd.creation, ?_⟩
    intro c hs
    exact absurd absent (hd.record c hs).loadable.config_isSome
  | @record op d c creation _ absent loadable normal status generation active io =>
    have hd := h d rfl
    refine ⟨hd.strays, hd.clean, ?_, hd.creation, ?_⟩
    · intro hn
      cases hn
    · intro found hf
      cases hf
      exact .born creation loadable (hd.bare absent) normal status generation active io
  | @update d a b loadable _ step =>
    have hd := h d rfl
    refine ⟨hd.strays, hd.clean, ?_, hd.creation, ?_⟩
    · intro hn
      cases hn
    · intro found hf
      cases hf
      exact (hd.record a loadable.record).update step
  | @processDirectory d c recorded _ absent =>
    have hd := h d rfl
    refine ⟨hd.strays, ?_, ?_, hd.creation, ?_⟩
    · intro ps hps
      cases hps
      exact ⟨rfl, rfl⟩
    · intro hn
      rw [show d.record = none from hn] at recorded
      cases recorded
    · intro c hs
      have hok := hd.record c hs
      have hl := hok.loadable
      refine ⟨⟨hl.record, hl.schema, hl.id_eq, hl.generation, hl.stateId,
        hl.state, hl.contract⟩, hok.normal, hok.creation, hok.origin, hok.active, hok.io,
        ?_, ?_⟩
      · intro o op ho hop hfn
        refine ⟨(hok.fence o op ho hop hfn).1, ?_⟩
        intro ps p process hps hp
        cases hps
        cases hp
      · intro ps p process hps hp
        cases hps
        cases hp
  | @process d c ps process loadable _ processes step =>
    have hd := h d rfl
    refine ⟨hd.strays, ?_, ?_, hd.creation, ?_⟩
    · intro ps' hps'
      cases hps'
      obtain ⟨hsr, ht⟩ := hd.clean ps processes
      refine ⟨hsr, ?_⟩
      show ps.transactions.filter _ = []
      rw [ht]
      rfl
    · intro hn
      cases loadable.record.symm.trans (show d.record = none from hn)
    · intro found hf
      cases loadable.record.symm.trans hf
      exact (hd.record c loadable.record).withProcess hx processes step

end Directories

theorem Sound.exec (h : Sound sdk s) :
    ∀ o op, s.operations.get? o = some op → op.kind = .exec → op.processId ≠ some .init :=
  fun o op ho => (h.operations o op ho).exec

theorem Sound.directory (h : Sound sdk s)
    (hs : DirectoryStep sdk s.operations actor id (s.containers.get? id) d) :
    Sound sdk (s.setDirectory id d) := by
  refine ⟨fun o op ho => ?_, h.generations, h.creations, ?_, h.quarantine, h.events, h.strays⟩
  · exact (h.operations o op ho).grow (.refl _) fun id last hl => ⟨last, hl, le_rfl⟩
  · intro k found hf
    exact Directory.forall_write (DirectoryOk.step h.exec (h.containers id) hs) h.containers k
      found hf

/-! ## Quarantine -/

theorem MoveGuard.names (h : MoveGuard op tb) :
    tb.operationId = op.operationId ∧ op.kind = tb.kind.operationKind := by
  cases h with
  | deleted kind => exact ⟨rfl, kind⟩
  | failed kind =>
    unfold failedCreationTombstone
    cases hk : op.kind <;> rw [hk] at kind <;> first | exact ⟨rfl, rfl⟩ | cases kind

theorem Sound.quarantined (h : Sound sdk s)
    (hf : JournaledAt s.operations op.containerId op.generation op)
    (hlv : s.containers.get? op.containerId = some d)
    (hl : Loadable sdk op.containerId d c)
    (hg : c.record.generation = op.generation) (hgd : MoveGuard op tb) :
    Sound sdk { s with
      containers := s.containers.remove op.containerId
      quarantine := s.quarantine.write tb d } := by
  obtain ⟨ho, hkn⟩ := hgd.names
  have hd := h.containers _ _ hlv
  refine ⟨fun o op hop => ?_, h.generations, h.creations, ?_, ?_, h.events, h.strays⟩
  · exact (h.operations o op hop).grow (.refl _) fun id last hls => ⟨last, hls, le_rfl⟩
  · intro k found hk
    rw [Directory.get?_remove] at hk
    split at hk
    · cases hk
    · exact h.containers k found hk
  · refine Directory.forall_write ⟨op, c, ⟨?_, hkn, hl, (hd.record c hl.record).normal,
      hg, hd.strays, hd.clean, ?_⟩⟩ h.quarantine
    · rw [ho]
      exact hf.found
    · intro ps p process hps hp
      exact ((hd.record c hl.record).processes ps p process hps hp).toProcessShape

/-! ## Events -/

section Events

variable {e : EventJournal}

theorem loadEventCursor_ok (h : loadEventCursor s = .ok last) : s.events.last = last := by
  unfold loadEventCursor at h
  unfold EventJournal.last
  split at h
  · rename_i hn
    rw [hn]
    exact Except.ok.inj h
  · rename_i cursor hs
    rw [hs]
    split at h
    · cases h
    · exact Except.ok.inj h

theorem loadEventCursor_last (he : EventsOk s.operations s.events) :
    loadEventCursor s = .ok s.events.last := by
  unfold loadEventCursor EventJournal.last
  cases hc : s.events.cursor with
  | none => rfl
  | some cursor => simp [he.cursor cursor hc]

theorem EventsOk.cursorStep (h : EventsOk ops e) : EventsOk ops { e with
      cursor := some ⟨eventCursorSchemaVersion, e.last + 1⟩, cursorTransaction := false } := by
  refine ⟨?_, h.schema, h.target, h.identified, ?_, h.distinct, h.records, h.basis, h.strays⟩
  · intro c hc
    cases hc
    rfl
  · intro identity claim hcl
    obtain ⟨hp, hl⟩ := h.bounded identity claim hcl
    exact ⟨hp, hl.trans (Nat.le_succ _)⟩

theorem EventsOk.claimStep (h : EventsOk ops e) (hnw : e.keys.get? identity = none)
    (ht : validateExactEventTarget event = .ok ())
    (hi : validateEventIdentity identity event = .ok ())
    (hc : e.last = event.sequence)
    (hl : ∀ identity' claim, e.keys.get? identity' = some claim →
      claim.event.sequence < event.sequence) (hbs : EventBasis ops identity event) :
    EventsOk ops { e with
      keys := e.keys.write identity ⟨eventClaimSchemaVersion, identity, event⟩ } := by
  -- each property holds of the new claim, and of the old ones as before
  have hcs := Directory.forall_write (d := e.keys) (P := fun identity' claim =>
    (identity' = identity ∧ claim = ⟨eventClaimSchemaVersion, identity, event⟩) ∨
      e.keys.get? identity' = some claim) (.inl ⟨rfl, rfl⟩) fun _ _ => .inr
  have hp : 0 < event.sequence := by
    unfold validateExactEventTarget at ht
    simp only [bind_eq_ok, rejectIf_eq_ok, not_or] at ht
    obtain ⟨_, _, _, ⟨hne, -⟩, -⟩ := ht
    exact Nat.pos_of_ne_zero hne
  refine ⟨h.cursor, ?_, ?_, ?_, ?_, ?_, ?_, ?_, h.strays⟩
  · exact Directory.forall_write ⟨rfl, rfl⟩ h.schema
  · exact Directory.forall_write ht h.target
  · exact Directory.forall_write hi h.identified
  · exact Directory.forall_write ⟨hp, hc.ge⟩ h.bounded
  · intro a b claim claim' ha hb hs
    rcases hcs _ _ ha with ⟨rfl, rfl⟩ | hold <;> rcases hcs _ _ hb with ⟨rfl, rfl⟩ | hold'
    · rfl
    · exact absurd hs (hl _ _ hold').ne'
    · exact absurd hs (hl _ _ hold).ne
    · exact h.distinct a b claim claim' hold hold' hs
  · intro n record hr
    obtain ⟨identity', claim, hcl, hn, heq⟩ := h.records n record hr
    refine ⟨identity', claim, ?_, hn, heq⟩
    refine (Directory.get?_write_of_ne _ _ ?_).trans hcl
    rintro rfl
    rw [hnw] at hcl
    cases hcl
  · exact Directory.forall_write hbs h.basis

theorem EventsOk.recordStep (h : EventsOk ops e) (hc : e.keys.get? identity = some claim) :
    EventsOk ops { e with
      records := e.records.write claim.event.sequence ⟨eventRecordSchemaVersion, claim.event⟩ } := by
  refine ⟨h.cursor, h.schema, h.target, h.identified, h.bounded, h.distinct, ?_, h.basis, h.strays⟩
  exact Directory.forall_write ⟨identity, claim, hc, rfl, rfl⟩ h.records

end Events

theorem Sound.event (h : Sound sdk s) (hs : EventStep s journal) :
    Sound sdk { s with events := journal } := by
  refine ⟨fun o op ho => ?_, h.generations, h.creations, h.containers, h.quarantine, ?_, h.strays⟩
  · exact (h.operations o op ho).grow (.refl _) fun id last hl => ⟨last, hl, le_rfl⟩
  · cases hs with
    | cursor loaded =>
      rw [← loadEventCursor_ok loaded]
      exact h.events.cursorStep
    | claim fresh target identified cursor latest basis =>
      exact h.events.claimStep fresh target identified (loadEventCursor_ok cursor) latest basis
    | record claimed => exact h.events.recordStep claimed

/-! ## Runs -/

/-- **Every commit preserves the invariant.** -/
theorem Sound.write (h : Sound sdk s) (hs : Write sdk actor s t) : Sound sdk t := by
  cases hs with
  | operation _ step => exact h.operation step
  | generation _ absent last_eq => exact h.generation last_eq
  | directory step => exact h.directory step
  | quarantine found _ live loadable generation _ _ guard =>
    exact h.quarantined found live loadable generation guard
  | event step => exact h.event step

/-- A new root directory is sound. -/
theorem Sound.empty (sdk : Sdk) : Sound sdk .empty := by
  refine ⟨?_, ?_, ?_, ?_, ?_, ⟨?_, ?_, ?_, ?_, ?_, ?_, ?_, ?_, ?_⟩, ?_⟩ <;> first
      | exact ⟨rfl, rfl, rfl, rfl, rfl⟩
      | exact ⟨rfl, rfl, rfl⟩
      | (intros; contradiction)

/-! ## What a commit does to one container -/

section Inversion

variable {s t : Store} {id : ContainerId}

variable {a b : StoredContainer}

/-- A directory comes into existence empty. -/
theorem DirectoryStep.reserved (h : DirectoryStep sdk ops actor id none d) :
    d = .empty ∧ ∃ op, PendingCreation ops id op := by
  cases h with
  | create creation => exact ⟨rfl, _, creation⟩

/-- A later record of the same generation: its status does not move back. -/
structure Advances (a b : StoredContainer) : Prop extends SameContract a b where
  rank : a.record.state.status.rank ≤ b.record.state.status.rank

theorem Advances.refl (a : StoredContainer) : Advances a a := ⟨.refl a, le_rfl⟩

theorem RecordStep.advances (h : RecordStep ops actor d a b) : Advances a b := by
  refine ⟨h.sameContract, ?_⟩
  cases h with
  | claim => exact le_rfl
  | ioClaim => exact le_rfl
  | change state_step => exact state_step.rank

/-- While a generation is live its snapshot and its contract stay the same. -/
theorem DirectoryStep.kept (h : DirectoryStep sdk ops actor id (some d) d')
    (hd : DirectoryOk sdk ops id d) (ha : d.record = some a) :
    d'.config = d.config ∧ ∃ b, d'.record = some b ∧ Advances a b := by
  cases h with
  | config _ _ absent => exact absurd absent (hd.record a ha).loadable.config_isSome
  | record _ _ absent =>
    rw [ha] at absent
    cases absent
  | update loadable _ step =>
    cases ha.symm.trans loadable.record
    exact ⟨rfl, _, rfl, step.advances⟩
  | processDirectory => exact ⟨rfl, a, ha, .refl a⟩
  | process => exact ⟨rfl, a, ha, .refl a⟩

/-- A record comes into existence in a directory that a creation has reserved. -/
theorem DirectoryStep.born (h : DirectoryStep sdk ops actor id (some d) d') (hd : d.record = none)
    (hb : d'.record = some b) :
    ∃ op, PendingCreation ops id op ∧ b.record.generation = op.generation ∧
      actor = some op.operationId := by
  cases h with
  | config =>
    rw [show d.record = some b from hb] at hd
    cases hd
  | record creation by_actor _ _ _ _ generation =>
    cases hb
    exact ⟨_, creation, generation, by_actor⟩
  | update loadable =>
    rw [loadable.record] at hd
    cases hd
  | processDirectory =>
    rw [show d.record = some b from hb] at hd
    cases hd
  | process =>
    rw [show d.record = some b from hb] at hd
    cases hd

/-- The directory of one ID is left alone, rewritten, or moved away. -/
theorem Write.container (h : Write sdk actor s t) (id : ContainerId) :
    t.containers.get? id = s.containers.get? id ∨
      (∃ d, DirectoryStep sdk s.operations actor id (s.containers.get? id) d ∧
        t = s.setDirectory id d) ∨
      t.containers.get? id = none := by
  cases h with
  | operation => exact .inl rfl
  | generation => exact .inl rfl
  | @directory k d step =>
    by_cases hk : id = k
    · subst hk
      exact .inr (.inl ⟨d, step, rfl⟩)
    · exact .inl (Store.setDirectory_of_ne _ _ _ hk)
  | @quarantine op d stored tb =>
    by_cases hk : id = op.containerId
    · subst hk
      exact .inr (.inr (Directory.get?_remove_self _ _))
    · exact .inl (Directory.get?_remove_of_ne _ hk)
  | event => exact .inl rfl

theorem recordOf_eq_some :
    s.recordOf id = some stored ↔ ∃ d, s.containers.get? id = some d ∧ d.record = some stored := by
  simp only [Store.recordOf, Option.bind_eq_some_iff]

/-- A record stays with its generation, or it is written by the pending creation it belongs to. -/
theorem Write.record_cases (hs : Sound sdk s) (h : Write sdk actor s t)
    (hb : t.recordOf id = some b) :
    (∃ a, s.recordOf id = some a ∧ Advances a b) ∨
      (s.recordOf id = none ∧ ∃ op, PendingCreation s.operations id op ∧
        b.record.generation = op.generation ∧ actor = some op.operationId) := by
  obtain ⟨d', hd', hb'⟩ := recordOf_eq_some.mp hb
  rcases h.container id with hsm | ⟨d, step, rfl⟩ | hn
  · rw [hsm] at hd'
    exact .inl ⟨b, recordOf_eq_some.mpr ⟨d', hd', hb'⟩, .refl b⟩
  · rw [Store.setDirectory_self] at hd'
    cases hd'
    cases hd : s.containers.get? id with
    | none =>
      rw [hd] at step
      rw [step.reserved.1] at hb'
      cases hb'
    | some old =>
      rw [hd] at step
      cases ha : old.record with
      | none =>
        refine .inr ⟨?_, step.born ha hb'⟩
        simp only [Store.recordOf, hd, Option.bind_some, ha]
      | some a =>
        obtain ⟨_, b', hb'', hsm⟩ := step.kept (hs.containers id old hd) ha
        cases hb'.symm.trans hb''
        exact .inl ⟨a, recordOf_eq_some.mpr ⟨old, hd, ha⟩, hsm⟩
  · rw [hn] at hd'
    cases hd'

/-- A record goes away only when its directory is moved, by an operation of its generation. -/
theorem Write.record_gone (hs : Sound sdk s) (h : Write sdk actor s t) (ha : s.recordOf id = some a)
    (hb : t.recordOf id = none) :
    ∃ op tb d, s.operations.get? op.operationId = some op ∧
      actor = some op.operationId ∧ MoveGuard op tb ∧
      t.quarantine.get? tb = some d ∧ d.record = some a ∧ a.id = id := by
  obtain ⟨d, hd, hda⟩ := recordOf_eq_some.mp ha
  have hl : t.containers.get? id ≠ some d := by
    intro hd'
    rw [recordOf_eq_some.mpr ⟨d, hd', hda⟩] at hb
    cases hb
  cases h with
  | operation => exact absurd hd hl
  | generation => exact absurd hd hl
  | @directory k d' step =>
    by_cases hk : id = k
    · subst hk
      rw [hd] at step
      obtain ⟨_, b, hdb, _⟩ := step.kept (hs.containers id d hd) hda
      rw [recordOf_eq_some.mpr ⟨d', Store.setDirectory_self _ _ _, hdb⟩] at hb
      cases hb
    · exact absurd ((Store.setDirectory_of_ne _ _ _ hk).trans hd) hl
  | @quarantine op moved stored tb found by_actor live loadable _ _ _ guard =>
    by_cases hk : id = op.containerId
    · subst hk
      cases hd.symm.trans live
      cases hda.symm.trans loadable.record
      exact ⟨op, tb, d, found.found, by_actor, guard, Directory.get?_write_self _ _ _, hda,
        loadable.id_eq⟩
    · exact absurd ((Directory.get?_remove_of_ne _ hk).trans hd) hl
  | event => exact absurd hd hl

/-- An update of a record leaves the lifecycle claim of an operation that does not act alone. -/
theorem RecordStep.claim_kept (h : RecordStep ops actor d a b) (ho : actor ≠ some o)
    (hc : a.activeOperation = some o) : b.activeOperation = some o := by
  cases h with
  | claim _ _ _ free =>
    rw [hc] at free
    cases free
  | ioClaim => exact hc
  | change _ _ active_kept =>
    rcases active_kept with rfl | ⟨_, hct⟩
    · exact hc
    · exact absurd (hct.symm.trans hc) ho

/-- **Claims are kept.** A commit on behalf of another operation leaves a lifecycle claim and the
    directory that holds it in place. -/
theorem Write.claim_kept (hs : Sound sdk s) (h : Write sdk actor s t) (ho : actor ≠ some o)
    (hc : s.lifecycleClaim id = some o) : t.lifecycleClaim id = some o := by
  obtain ⟨a, ha, hac⟩ := Option.bind_eq_some_iff.mp hc
  have hkp : ∀ b, t.recordOf id = some b → b.activeOperation = some o →
      t.lifecycleClaim id = some o := fun b hb hb' => Option.bind_eq_some_iff.mpr ⟨b, hb, hb'⟩
  obtain ⟨d, hd, hda⟩ := recordOf_eq_some.mp ha
  cases h with
  | operation => exact hkp a ha hac
  | generation => exact hkp a ha hac
  | @directory k d' step =>
    by_cases hk : id = k
    · subst hk
      rw [hd] at step
      have hsl := Store.setDirectory_self s id d'
      cases step with
      | config _ _ absent =>
        exact absurd absent ((hs.containers id d hd).record a hda).loadable.config_isSome
      | record _ _ absent =>
        rw [hda] at absent
        cases absent
      | update loadable _ step =>
        cases hda.symm.trans loadable.record
        exact hkp _ (recordOf_eq_some.mpr ⟨_, hsl, rfl⟩) (step.claim_kept ho hac)
      | processDirectory => exact hkp a (recordOf_eq_some.mpr ⟨_, hsl, hda⟩) hac
      | process => exact hkp a (recordOf_eq_some.mpr ⟨_, hsl, hda⟩) hac
    · have hn := Store.setDirectory_of_ne s k d' hk
      exact hkp a (recordOf_eq_some.mpr ⟨d, hn.trans hd, hda⟩) hac
  | @quarantine op moved stored tb found by_actor live loadable _ owner =>
    by_cases hk : id = op.containerId
    · subst hk
      cases hd.symm.trans live
      cases hda.symm.trans loadable.record
      rcases owner with hnn | how
      · rw [hac] at hnn
        cases hnn
      · exact absurd (by_actor.trans (how.symm.trans hac)) ho
    · have hn := Directory.get?_remove_of_ne s.containers hk
      exact hkp a (recordOf_eq_some.mpr ⟨d, hn.trans hd, hda⟩) hac
  | event => exact hkp a ha hac

/-- The journal entry of a pending creation was there before the commit, or it was just journaled
    with the generation allocated for it, the first operation of that generation. -/
theorem Write.pending_cases (h : Write sdk actor s t) (hop : t.operations.get? o = some op)
    (hk : op.kind.isCreation = true) (hp : op.outcome = .prepared) :
    s.operations.get? o = some op ∨ (t = s.writeOperation op ∧
        (∃ last, s.generations.get? op.containerId = some last ∧
          last.lastGeneration = op.generation) ∧
        ∀ o' other, s.operations.get? o' = some other → other.containerId = op.containerId →
          other.generation ≠ op.generation) := by
  cases h with
  | @operation new _ step =>
    by_cases ho : o = new.operationId
    · subst ho
      rw [Store.writeOperation_self] at hop
      cases hop
      cases step with
      | create _ _ _ _ _ _ allocated last_eq first =>
        exact .inr ⟨rfl, ⟨_, allocated, last_eq⟩, first⟩
      | journal _ _ _ _ _ _ guard =>
        rw [guard.notCreation] at hk
        cases hk
      | settle _ _ settled => exact absurd hp settled
      | rebind _ rebound => cases rebound <;> cases hp
    · exact .inl ((Directory.get?_write_of_ne _ _ ho).symm.trans hop)
  | generation => exact .inl hop
  | directory => exact .inl hop
  | quarantine => exact .inl hop
  | event => exact .inl hop

theorem Write.grows (h : Write sdk actor s t) : JournalGrows s.operations t.operations := by
  cases h with
  | operation _ step => exact step.grows
  | generation => exact .refl _
  | directory => exact .refl _
  | quarantine => exact .refl _
  | event => exact .refl _

/-- Quarantined directories stay. -/
theorem Write.quarantine_kept (h : Write sdk actor s t) (hd : s.quarantine.get? tb = some d) :
    t.quarantine.get? tb = some d := by
  cases h with
  | operation => exact hd
  | generation => exact hd
  | directory => exact hd
  | @quarantine op moved stored name _ _ _ _ _ _ absent =>
    have hn : tb ≠ name := by
      rintro rfl
      rw [hd] at absent
      cases absent
    exact (Directory.get?_write_of_ne _ _ hn).trans hd
  | event => exact hd

end Inversion

end OciRuntime
