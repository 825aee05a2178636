import OciRuntime.Commit.Audit

/-!
# `OciRuntime.Property.Startup` — which crashes the startup audit survives

A crash may leave the store in any state between two commits, and the next start audits that state.
`Fenced` names the commits after which the audit still succeeds; a run can be cut anywhere and
reopened exactly if all its commits are fenced. Not all commits of the store are: a generation of
an ID that has a tombstone passes through a state without a record, which the audit of the
quarantine rejects.

## Contents
- **Quarantined generations.** `Quarantined` is permanent.
- **Rooted operations.** Every operation but a creation has had a live record.
- **Fenced commits.** `Fenced`, `Fit.write`, `Fenced.of_fit`.
- **Runs.** `audit_ok_iff_fenced`.
-/

namespace OciRuntime

open Durable Program

variable {sdk : Sdk} {actor : Option OperationId} {s t : Store} {id : ContainerId}
  {generation : Nat}

variable {d d' : ContainerDirectory} {op : StoredOperation}

/-! ## Quarantined generations -/

/-- A directory of this generation has been moved to quarantine. -/
def Quarantined (s : Store) (id : ContainerId) (generation : Nat) : Prop :=
  ∃ tombstone d op, s.quarantine.get? tombstone = some d ∧
    s.operations.get? tombstone.operationId = some op ∧ op.containerId = id ∧
    op.generation = generation

theorem Quarantined.write (h : Quarantined s id generation) (hw : Write sdk actor s t) :
    Quarantined t id generation := by
  obtain ⟨tombstone, d, op, hd, ho, hc, hg⟩ := h
  obtain ⟨op', ho', hsm⟩ := hw.grows _ _ ho
  exact ⟨tombstone, d, op', hw.quarantine_kept hd, ho', hsm.container.trans hc,
    hsm.generation.trans hg⟩

/-! ## Rooted operations -/

/-- The generation has a live record. -/
def Recorded (s : Store) (id : ContainerId) (generation : Nat) : Prop :=
  ∃ d stored, s.containers.get? id = some d ∧ d.record = some stored ∧
    stored.record.generation = generation

/-- The generation of every operation that needs a container is live or was moved away. -/
def Rooted (s : Store) : Prop :=
  ∀ o op, s.operations.get? o = some op → op.kind.isCreation = false →
    Recorded s op.containerId op.generation ∨ Quarantined s op.containerId op.generation

/-- A live generation stays live until it is quarantined. -/
theorem Recorded.write (hs : Sound sdk s) (h : Recorded s id generation)
    (hw : Write sdk actor s t) :
    Recorded t id generation ∨ Quarantined t id generation := by
  obtain ⟨d, c, hd, hst, hg⟩ := h
  cases hw with
  | operation => exact .inl ⟨d, c, hd, hst, hg⟩
  | generation => exact .inl ⟨d, c, hd, hst, hg⟩
  | @directory k d' step =>
    left
    by_cases hk : id = k
    · subst hk
      rw [hd] at step
      obtain ⟨-, b, hb, hsm⟩ := step.kept (hs.containers id d hd) hst
      exact ⟨d', b, Store.setDirectory_self _ _ _, hb, hsm.generation.trans hg⟩
    · exact ⟨d, c, (Store.setDirectory_of_ne _ _ _ hk).trans hd, hst, hg⟩
  | @quarantine op moved found tombstone journaled _ live loadable same _ _ guard =>
    by_cases hk : id = op.containerId
    · subst hk
      right
      cases hd.symm.trans live
      cases hst.symm.trans loadable.record
      refine ⟨tombstone, d, op, Directory.get?_write_self _ _ _, ?_, rfl, ?_⟩
      · rw [guard.names.1]
        exact journaled.found
      · exact same.symm.trans hg
    · left
      exact ⟨d, c, (Directory.get?_remove_of_ne _ hk).trans hd, hst, hg⟩
  | event => exact .inl ⟨d, c, hd, hst, hg⟩

theorem Rooted.write (hs : Sound sdk s) (h : Rooted s) (hw : Write sdk actor s t) : Rooted t := by
  have hkp : ∀ o op, s.operations.get? o = some op → op.kind.isCreation = false →
      Recorded t op.containerId op.generation ∨ Quarantined t op.containerId op.generation := by
    intro o op hop hk
    rcases h o op hop hk with hr | hm
    · exact hr.write hs hw
    · exact .inr (hm.write hw)
  intro o op hop hk
  cases hw with
  | @operation new _ step =>
    by_cases ho : o = new.operationId
    · subst ho
      cases (Store.writeOperation_self s new).symm.trans hop
      cases step with
      | create _ creation =>
        rw [creation] at hk
        cases hk
      | @journal _ stored _ _ _ _ live same =>
        obtain ⟨d, hd, hl⟩ := live
        exact .inl ⟨d, stored, hd, hl.record, same⟩
      | @settle old _ found => exact hkp _ old found hk
      | @rebind old _ found => exact hkp _ old found hk
    · exact hkp o op ((Directory.get?_write_of_ne _ _ ho).symm.trans hop) hk
  | generation => exact hkp o op hop hk
  | directory => exact hkp o op hop hk
  | quarantine => exact hkp o op hop hk
  | event => exact hkp o op hop hk

/-! ## Fenced commits -/

/-- **The commits that keep the store acceptable.** Each condition is about the state `s` before the
    commit and about what the commit adds. -/
structure Fenced (s t : Store) : Prop where
  /-- A directory is created for the newest creation of an ID that has no tombstone. -/
  reserve : ∀ id d, s.containers.get? id = none → t.containers.get? id = some d →
    AwaitsCreation s id ∧ ∀ generation, ¬Quarantined s id generation
  /-- A record comes into existence with the newest generation of its ID, and only once. -/
  birth : ∀ id d d' stored, s.containers.get? id = some d → d.record = none →
    t.containers.get? id = some d' → d'.record = some stored →
    IsLatest s id stored.record.generation ∧ ¬Quarantined s id stored.record.generation
  /-- A directory is moved by the operation that holds its claim, and no other claim is left. -/
  move : ∀ tombstone d stored, s.quarantine.get? tombstone = none →
    t.quarantine.get? tombstone = some d → d.record = some stored →
    stored.activeOperation = some tombstone.operationId ∧ Unowned d stored
  /-- A pending creation is not settled while its directory has no record. -/
  settle : ∀ id d op, s.containers.get? id = some d → d.record = none →
    JournaledAt s.operations id op.generation op → IsLatest s id op.generation →
    op.kind.isCreation = true → op.outcome = .prepared →
    t.operations.get? op.operationId = some op

theorem AwaitsCreation.congr (h : AwaitsCreation s id) (ho : t.operations = s.operations)
    (hg : t.generations = s.generations) : AwaitsCreation t id := by
  unfold AwaitsCreation
  rw [ho, hg]
  exact h

/-- Evidence stays valid while the snapshot and the contract of the generation stay the same. -/
theorem EvidenceFits.congr (h : EvidenceFits sdk d a op) (hc : d'.config = d.config)
    (ha : SameContract a b) : EvidenceFits sdk d' b op := by
  intro response hrs
  obtain ⟨request, ⟨record, launch⟩, hrq, hsr, hev⟩ := h response hrs
  have hr := ha.record_eq
  have hsm : ∀ source, validateAttestationBindings sdk a d = .ok source →
      validateAttestationBindings sdk b d' = .ok ⟨b.record, source.launch⟩ ∧
        source.record = a.record := by
    intro source hsr
    simp only [validateAttestationBindings, bind_eq_ok, rejectIf_eq_ok, okOr_eq_ok,
      pure_eq_ok] at hsr ⊢
    obtain ⟨_, hi, attachments, ht, bundle, hb, launched, hl, launch, hln, rfl⟩ := hsr
    refine ⟨⟨(), ?_, attachments, ha.attachments.trans ht, bundle, ?_, launched, hl,
      launch, hln, rfl⟩, rfl⟩
    · rw [hr]
      exact hi
    · rw [← hb]
      unfold loadBundleFromDirectory
      rw [hc, ha.id_eq, ha.bundle]
  obtain ⟨hbn, hsr'⟩ := hsm _ hsr
  refine ⟨request, ⟨b.record, launch⟩, hrq, hbn, ?_⟩
  obtain rfl : record = a.record := hsr'
  rw [← hev, hr]
  rfl

/-! ### Fenced commits keep the store fit -/

/-- New evidence is checked against the live directory before it is journaled. -/
theorem OperationStep.evidence (h : OperationStep sdk s op) (hk : op.kind = .attest)
    (hd : s.containers.get? op.containerId = some d) (hst : d.record = some stored) :
    EvidenceFits sdk d stored op := by
  intro response hr
  cases h with
  | create _ creation =>
    rw [hk] at creation
    cases creation
  | journal _ _ _ prepared =>
    rw [prepared] at hr
    cases hr
  | settle found prepared settled shape released basis =>
    subst hr
    cases basis with
    | attested live loadable generation request_eq bindings evidence =>
      cases hd.symm.trans live
      cases hst.symm.trans loadable.record
      exact ⟨_, _, request_eq, bindings, evidence⟩
    | other unbound =>
      rw [show _ = StoredOperationKind.attest from hk] at unbound
      cases unbound
  | rebind found rebound =>
    subst hr
    cases rebound

/-- A tombstone keeps an outcome that the audit accepts. -/
theorem OperationStep.acceptsOutcome {kind : TombstoneKind} (h : OperationStep sdk s op)
    (hold : s.operations.get? op.operationId = some old) (hk : old.kind = kind.operationKind)
    (ha : kind.acceptsOutcome old.outcome = true)
    (hgn : ¬Recorded s old.containerId old.generation) (hsh : old.shapeFault sdk = none) :
    kind.acceptsOutcome op.outcome = true := by
  cases h with
  | create fresh =>
    rw [hold] at fresh
    cases fresh
  | journal fresh =>
    rw [hold] at fresh
    cases fresh
  | @settle old' outcome found prepared settled shape released basis =>
    cases hold.symm.trans found
    rw [prepared] at ha
    cases kind with
    | deleted =>
      have hdl : old.kind = .delete := hk
      have hr := ((shapeFault_plain (by rw [hdl]; rfl)).mp hsh).1
      cases basis with
      | record bound =>
        rw [hdl] at bound
        cases bound
      | restored _ _ request_eq =>
        rw [hr] at request_eq
        cases request_eq
      | attested _ _ _ request_eq =>
        rw [hr] at request_eq
        cases request_eq
      | other _ deleted =>
        show TombstoneKind.deleted.acceptsOutcome outcome = true
        rw [deleted hdl]
        rfl
      | failed live =>
        obtain ⟨stored, ⟨d, hd, hl⟩, hg⟩ := live hdl
        exact absurd ⟨d, stored, hd, hl.record, hg⟩ hgn
    | failedCreate => cases ha
    | failedRestore => cases ha
  | rebind found rebound =>
    cases hold.symm.trans found
    cases rebound with
    | record was => rw [was] at ha; cases kind <;> cases ha
    | restored was => rw [was] at ha; cases kind <;> cases ha
    | process was => rw [was] at ha; cases kind <;> cases ha

theorem Fit.gone (h : Fit sdk s) (hd : s.quarantine.get? tb = some d)
    (ho : s.operations.get? tb.operationId = some op) :
    ¬Recorded s op.containerId op.generation := by
  rintro ⟨live, stored, hl, hst, hg⟩
  obtain ⟨found, hf, hn⟩ := (h.quarantine tb d op hd ho).gone live hl
  cases hst.symm.trans hf
  exact hn hg

theorem Fit.operation (hs : Sound sdk s) (hft : Fit sdk s) (hsp : OperationStep sdk s op)
    (hfn : Fenced s (s.writeOperation op)) : Fit sdk (s.writeOperation op) := by
  refine ⟨fun id d hd => ⟨fun hr => ?_, (hft.containers id d hd).latest, ?_⟩, ?_⟩
  · obtain ⟨last, creation, hl, hc, hk, hp⟩ :=
      (hft.containers id d hd).pending hr
    have hf := hfn.settle id d creation hd hr
      ⟨hc.found, hc.container, rfl⟩ ⟨last, hl, hc.generation.symm⟩ hk
      hp
    exact ⟨last, creation, hl, ⟨hf, hc.container, hc.generation⟩, hk, hp⟩
  · intro c attest hst ha hk
    by_cases ho : attest.operationId = op.operationId
    · have hsl := ha.found
      rw [ho] at hsl
      cases (Store.writeOperation_self s op).symm.trans hsl
      exact hsp.evidence hk (ha.container.symm ▸ hd) hst
    · have hf := (Directory.get?_write_of_ne s.operations op ho).symm.trans ha.found
      exact (hft.containers id d hd).attested c attest hst ⟨hf, ha.container, ha.generation⟩ hk
  · intro tb d moved hd hm
    obtain ⟨old, c, hok⟩ := hs.quarantine tb d hd
    have hft' := hft.quarantine tb d old hd hok.found
    obtain ⟨new, hn, hsm⟩ := hsp.grows _ _ hok.found
    cases hn.symm.trans hm
    refine ⟨?_, ?_, ?_⟩
    · by_cases ho : tb.operationId = op.operationId
      · have hsl := hm
        rw [ho] at hsl
        cases (Store.writeOperation_self s op).symm.trans hsl
        exact hsp.acceptsOutcome (ho ▸ hok.found) hok.kind hft'.settled
          (hft.gone hd hok.found) (hs.operations _ _ hok.found).shape
      · have hsm := (Directory.get?_write_of_ne s.operations op ho).symm.trans hm
        rw [← Option.some.inj (hok.found.symm.trans hsm)]
        exact hft'.settled
    · rw [hsm.operationId]
      exact hft'.vacated
    · rw [hsm.container, hsm.generation]
      exact hft'.gone

theorem LiveFit.congr (h : LiveFit sdk s id d) (ho : t.operations = s.operations)
    (hg : t.generations.get? id = s.generations.get? id) : LiveFit sdk t id d := by
  refine ⟨fun hr => ?_, fun stored hst => ?_, ?_⟩
  · obtain ⟨last, op, hls, hop, hc⟩ := h.pending hr
    exact ⟨last, op, hg.trans hls, ho.symm ▸ hop, hc⟩
  · obtain ⟨last, hls, hl⟩ := h.latest stored hst
    exact ⟨last, hg.trans hls, hl⟩
  · rw [ho]
    exact h.attested

/-- What is demanded of a directory survives a rewrite of it that keeps its record. -/
theorem LiveFit.kept (h : LiveFit sdk s id d) (hd : DirectoryOk sdk s.operations id d)
    (ha : d.record = some a) (hsp : DirectoryStep sdk s.operations actor id (some d) d') :
    LiveFit sdk s id d' := by
  obtain ⟨hc, b, hb, hsm⟩ := hsp.kept hd ha
  refine ⟨by simp [hb], ?_, ?_⟩
  · intro stored hst
    cases hb.symm.trans hst
    rw [hsm.generation]
    exact h.latest a ha
  · intro stored op hst ho hk
    cases hb.symm.trans hst
    rw [hsm.generation] at ho
    exact (h.attested a op ha ho hk).congr hc hsm.toSameContract

section
variable (hs : Sound sdk s)
include hs

/-- The directory after a fenced rewrite. -/
theorem LiveFit.step (hrt : Rooted s) (hft : Fit sdk s)
    (hsp : DirectoryStep sdk s.operations actor id (s.containers.get? id) d')
    (hf : Fenced s (s.setDirectory id d')) : LiveFit sdk s id d' := by
  have hd' := Store.setDirectory_self s id d'
  cases hd : s.containers.get? id with
  | none =>
    rw [hd] at hsp
    obtain ⟨rfl, -⟩ := hsp.reserved
    refine ⟨fun _ => (hf.reserve id _ hd hd').1, fun _ h => ?_, fun _ _ h => ?_⟩
    · cases h
    · cases h
  | some d =>
    rw [hd] at hsp
    cases ha : d.record with
    | some a => exact (hft.containers id d hd).kept (hs.containers id d hd) ha hsp
    | none =>
      refine ⟨fun _ => (hft.containers id d hd).pending ha, ?_, ?_⟩
      · intro b hb
        exact (hf.birth id d d' b hd ha hd' hb).1
      · -- an attestation of this generation would mean that it was live before
        intro b op hb ho hk
        have hn := (hf.birth id d d' b hd ha hd' hb).2
        rcases hrt _ op ho.found (by rw [hk]; rfl) with hr | hm
        · obtain ⟨live, stored, hl, hst, -⟩ := hr
          rw [ho.container, hd] at hl
          cases hl
          rw [ha] at hst
          cases hst
        · rw [ho.container, ho.generation] at hm
          exact absurd hm hn

theorem MovedFit.step (h : MovedFit s tb d op) (hd : s.quarantine.get? tb = some d)
    (ho : s.operations.get? tb.operationId = some op)
    (hsp : DirectoryStep sdk s.operations actor id (s.containers.get? id) d')
    (hf : Fenced s (s.setDirectory id d')) :
    MovedFit (s.setDirectory id d') tb d op := by
  refine ⟨h.settled, h.vacated, ?_⟩
  intro live hl
  by_cases hk : op.containerId = id
  · have hm : Quarantined s id op.generation := ⟨tb, d, op, hd, ho, hk, rfl⟩
    rw [hk, Store.setDirectory_self] at hl
    cases hl
    have hsl := Store.setDirectory_self s id d'
    cases hold : s.containers.get? id with
    | none => exact absurd hm ((hf.reserve id _ hold hsl).2 _)
    | some old =>
      rw [hold] at hsp
      obtain ⟨a, ha, hn⟩ := h.gone old (hk ▸ hold)
      obtain ⟨-, b, hb, hsm⟩ := hsp.kept (hs.containers id old hold) ha
      exact ⟨b, hb, hsm.generation ▸ hn⟩
  · rw [Store.setDirectory_of_ne _ _ _ hk] at hl
    exact h.gone live hl

/-- **Fenced commits keep the store fit.** -/
theorem Fit.write (hr : Rooted s) (hf : Fit sdk s)
    (hw : Write sdk actor s t) (hfn : Fenced s t) : Fit sdk t := by
  cases hw with
  | operation _ step => exact hf.operation hs step hfn
  | @generation k last _ absent =>
    refine ⟨fun id d hd => ?_, fun tb d op hd hop => ?_⟩
    · have hn : id ≠ k := by
        rintro rfl
        rw [show s.containers.get? id = some d from hd] at absent
        cases absent
      exact (hf.containers id d hd).congr rfl (Directory.get?_write_of_ne _ _ hn)
    · have h := hf.quarantine tb d op hd hop
      exact ⟨h.settled, h.vacated, h.gone⟩
  | @directory k d' step =>
    refine ⟨fun id d hd => ?_, fun tb d op hd hop => ?_⟩
    · by_cases hk : id = k
      · subst hk
        rw [Store.setDirectory_self] at hd
        cases hd
        exact (LiveFit.step hs hr hf step hfn).congr rfl rfl
      · rw [Store.setDirectory_of_ne _ _ _ hk] at hd
        exact (hf.containers id d hd).congr rfl rfl
    · exact (hf.quarantine tb d op hd hop).step hs hd hop step hfn
  | @quarantine op d stored tb found _ live loadable generation _ absent guard =>
    refine ⟨fun id d' hd' => ?_, fun name moved owner hm hwn => ?_⟩
    · have hn : id ≠ op.containerId := by
        rintro rfl
        rw [Directory.get?_remove_self] at hd'
        cases hd'
      rw [Directory.get?_remove_of_ne _ hn] at hd'
      exact (hf.containers id d' hd').congr rfl rfl
    · by_cases hnm : name = tb
      · subst hnm
        have hsl := Directory.get?_write_self s.quarantine name d
        cases hsl.symm.trans hm
        have hwn : s.operations.get? name.operationId = some owner := hwn
        rw [guard.names.1] at hwn
        cases found.found.symm.trans hwn
        refine ⟨?_, fun stored' hst' => ?_, fun live' hl' => ?_⟩
        · cases guard with
          | deleted _ prepared =>
            rw [prepared]
            rfl
          | failed _ failed =>
            unfold failedCreationTombstone
            cases ho : op.outcome with
            | failed => split <;> rfl
            | _ =>
              rw [ho] at failed
              cases failed
        · have h := hfn.move name d stored' absent hm hst'
          rw [guard.names.1] at h
          exact h
        · rw [Directory.get?_remove_self] at hl'
          cases hl'
      · rw [Directory.get?_write_of_ne _ _ hnm] at hm
        have h := hf.quarantine name moved owner hm hwn
        refine ⟨h.settled, h.vacated, fun live' hl' => ?_⟩
        rw [Directory.get?_remove] at hl'
        split at hl'
        · cases hl'
        · exact h.gone live' hl'
  | event => exact ⟨fun id d hd => (hf.containers id d hd).congr rfl rfl, fun tb d op hd hop =>
        have h := hf.quarantine tb d op hd hop
        ⟨h.settled, h.vacated, h.gone⟩⟩

/-! ### Commits that keep the store fit are fenced -/

/-- A pending creation whose directory has no record stays as it is in a fit store. -/
theorem Fit.pending_kept (hft : Fit sdk t) (hw : Write sdk actor s t)
    (hd : s.containers.get? id = some d) (hr : d.record = none)
    (hop : JournaledAt s.operations id op.generation op) (hl : IsLatest s id op.generation)
    (hk : op.kind.isCreation = true) (hp : op.outcome = .prepared) :
    t.operations.get? op.operationId = some op := by
  have ht := hs.write hw
  cases hw with
  | @operation new _ step =>
    by_cases ho : op.operationId = new.operationId
    · rcases step.fresh_or_same with hfr | ⟨old, outcome, hold, rfl⟩
      · rw [← ho, hop.found] at hfr
        cases hfr
      · have ho : op.operationId = old.operationId := ho
        cases hop.found.symm.trans (ho ▸ hold)
        have hsl := Store.writeOperation_self s { op with outcome }
        -- the newest creation is pending after the commit, and it is this one
        obtain ⟨last, creation, hls, hc, hk', hpn⟩ :=
          (hft.containers id d hd).pending hr
        obtain ⟨last', hls', hg⟩ := hl
        cases hls'.symm.trans hls
        have hsm := ht.creations _ _ _ _ hc.found hsl hk' hk
          (hc.container.trans hop.container.symm) (hc.generation.trans hg)
        have hf := hc.found
        rw [hsm, hsl] at hf
        cases hf
        obtain rfl : outcome = op.outcome := Eq.trans hpn hp.symm
        exact hsl
    · exact (Directory.get?_write_of_ne _ _ ho).trans hop.found
  | generation => exact hop.found
  | directory => exact hop.found
  | quarantine => exact hop.found
  | event => exact hop.found

theorem Fenced.of_fit (hft : Fit sdk t) (hw : Write sdk actor s t) : Fenced s t := by
  refine ⟨?_, ?_, ?_, ?_⟩
  · intro id d hn hd
    rcases hw.container id with hsm | ⟨d', hsp, rfl⟩ | hgn
    · rw [hd, hn] at hsm
      cases hsm
    · rw [hn] at hsp
      obtain ⟨rfl, -⟩ := hsp.reserved
      rw [Store.setDirectory_self] at hd
      cases hd
      have hsl := Store.setDirectory_self s id .empty
      refine ⟨((hft.containers id _ hsl).pending rfl).congr rfl rfl, ?_⟩
      rintro generation ⟨tb, moved, op, hm, ho, rfl, -⟩
      obtain ⟨c, hst, -⟩ := (hft.quarantine tb moved op hm ho).gone _ hsl
      cases hst
    · rw [hd] at hgn
      cases hgn
  · intro id d d' c hd hr hd' hst
    refine ⟨?_, ?_⟩
    · rcases hw.container id with hsm | ⟨_, _, rfl⟩ | hgn
      · rw [hd, hd'] at hsm
        cases hsm
        rw [hr] at hst
        cases hst
      · exact (hft.containers id d' hd').latest c hst
      · rw [hd'] at hgn
        cases hgn
    · intro hm
      obtain ⟨tb, moved, op, hf, ho, rfl, hg⟩ := hm.write hw
      exact hft.gone hf ho ⟨d', c, hd', hst, hg.symm⟩
  · intro tb d c _ hd hst
    have ht := hs.write hw
    obtain ⟨op, _, hok⟩ := ht.quarantine tb d hd
    have h := (hft.quarantine tb d op hd hok.found).vacated c hst
    rw [(ht.operations _ _ hok.found).id_eq] at h
    exact h
  · intro id d op hd hr ho hl hk hp
    exact hft.pending_kept hs hw hd hr ho hl hk hp

end

/-! ## Runs -/

theorem Rooted.empty : Rooted .empty := by
  intro _ _ ho
  cases ho

theorem Fit.empty (sdk : Sdk) : Fit sdk .empty := by
  refine ⟨fun _ _ hd => ?_, fun _ _ _ hd => ?_⟩
  · cases hd
  · cases hd

/-- **Reopening after a crash.** Every state of a run passes the startup audit if and only if every
    commit of the run is fenced. -/
theorem audit_ok_iff_fenced {l : List Store} (h : Trace sdk l) :
    (∀ s ∈ .empty :: l, auditStartupState sdk s = .ok ()) ↔ List.IsChain Fenced (.empty :: l) := by
  have hsn := h.sound
  constructor
  · intro hd
    have hf : ∀ s ∈ .empty :: l, Fit sdk s :=
      fun s hs => (audit_iff_fit (hsn s hs)).mp (hd s hs)
    refine h.commits.imp_of_mem_imp fun s t hs ht hc => ?_
    obtain ⟨actor, hw⟩ := hc
    exact .of_fit (hsn s hs) (hf t ht) hw
  · intro hfn s hs
    have ha : ∀ s ∈ .empty :: l, Sound sdk s ∧ Rooted s ∧ Fit sdk s := by
      refine isChain_invariant (isChain_and h.commits hfn) ?_ ⟨.empty sdk, .empty, .empty sdk⟩
      rintro s t ⟨hs, hr, hf⟩ ⟨⟨actor, hw⟩, hst⟩
      exact ⟨hs.write hw, hr.write hs hw, hf.write hs hr hw hst⟩
    exact (audit_iff_fit (hsn s hs)).mpr (ha s hs).2.2

/-- A create that is completed, with every crash on the way. -/
theorem fenced_create_run : List.IsChain Fenced (.empty ::
      Program.visited Call.run .empty [(Sample.create Sample.opA, 9),
        (.completeCreate Sample.clock Sample.opA 7, 9)]) :=
  (audit_ok_iff_fenced (Trace.visited _)).mp (by decide +kernel)

/-- **A crash that the audit does not survive.** A create fails and is quarantined; the next create
    of the same ID is cut between the creation of its directory and the writing of its record. -/
theorem audit_rejects_interrupted_recreation : ∃ l, Trace Sample.sdk l ∧
      ¬∀ s ∈ .empty :: l, auditStartupState Sample.sdk s = .ok () :=
  ⟨Program.visited Call.run .empty
      [(Sample.create Sample.opA, 9), (Sample.fail Sample.opA, 2), (Sample.create Sample.opB, 3)],
    Trace.visited _, by decide +kernel⟩

end OciRuntime
