import OciRuntime.Commit.Deletion

/-!
# `OciRuntime.Commit.Processes` — exec, process signals and process I/O

These operations claim one process record, or for the init process the container record. The first
part is about a process of a live container (`LiveProcess`) and the claims on it, the rest verifies
the calls.
-/

namespace OciRuntime

open Durable Program

variable {sdk : Sdk} {s : Store} {id : ContainerId}
  {stored : StoredContainer} {p : ProcessId} {process : StoredProcess} {op : StoredOperation}

variable {d : ContainerDirectory} {rq : ExecRequest}

/-! ## Processes of a live container -/

/-- The record of a process of a live container. -/
def LiveProcess (sdk : Sdk) (s : Store) (id : ContainerId) (stored : StoredContainer)
    (p : ProcessId) (process : StoredProcess) : Prop :=
  ∃ d ps, s.containers.get? id = some d ∧ Loadable sdk id d stored ∧ d.processes = some ps ∧
    ps.get? p = some process

theorem LiveProcess.live (h : LiveProcess sdk s id stored p process) : Live sdk s id stored := by
  obtain ⟨d, ps, hd, hl, -, -⟩ := h
  exact ⟨d, hd, hl⟩

theorem LiveProcess.congr (h : LiveProcess sdk s id stored p process)
    (hst : t.containers.get? id = s.containers.get? id) :
    LiveProcess sdk t id stored p process := by
  obtain ⟨d, ps, hd, hl, hps, hp⟩ := h
  exact ⟨d, ps, hst.trans hd, hl, hps, hp⟩

/-- A process record is found under its own target. -/
theorem LiveProcess.ok (hs : Sound sdk s) (h : LiveProcess sdk s id stored p process) :
    ProcessOk s.operations stored p process := by
  obtain ⟨d, ps, hd, hl, hps, hp⟩ := h
  exact ((hs.containers id d hd).record stored hl.record).processes ps p process hps hp

theorem process?_eq (hd : s.containers.get? target.container.id = some d) :
    s.process? target = d.processes.bind (·.get? target.processId) := by
  unfold Store.process?
  rw [hd]
  rfl

theorem process?_live (hd : s.containers.get? id = some d) (hl : Loadable sdk id d stored) :
    s.process? (exactProcessTarget stored p) = d.processes.bind (·.get? p) := by
  refine process?_eq ?_
  show s.containers.get? stored.id = some d
  rw [hl.id_eq]
  exact hd

theorem loadStoredProcess_ok (hlv : Live sdk s id stored)
    (h : loadStoredProcess (exactProcessTarget stored p) s = .ok process) :
    LiveProcess sdk s id stored p process := by
  obtain ⟨d, hd, hl⟩ := hlv
  unfold loadStoredProcess at h
  rw [process?_live hd hl] at h
  simp only [exactProcessTarget_generation] at h
  split at h
  · cases h
  · rename_i found hf
    obtain ⟨rfl, -⟩ := loadProcess_ok.mp h
    obtain ⟨ps, hps, hp⟩ := Option.bind_eq_some_iff.mp hf
    exact ⟨d, ps, hd, hl, hps, hp⟩

/-- What a change of one process record leaves behind. -/
structure ProcessRewritten (sdk : Sdk) (s : Store) (id : ContainerId) (stored : StoredContainer)
    (p : ProcessId) (process : StoredProcess) (t : Store) : Prop where
  live : LiveProcess sdk t id stored p process
  operations : t.operations = s.operations

/-- One rewrite of a process record. -/
theorem writeProcess_write (hd : s.containers.get? id = some d) (hl : Loadable sdk id d stored)
    (hps : d.processes = some ps) (ht : new.record.target = exactProcessTarget stored p)
    (hc : ActsOn s.operations actor id stored.record.generation)
    (hsp : ProcessStep s.operations stored ps new) :
    Write sdk actor s (s.writeProcess new) ∧
      ProcessRewritten sdk s id stored p new (s.writeProcess new) := by
  have hi : new.record.target.container.id = id := by
    rw [ht]
    exact hl.id_eq
  have hp : new.record.target.processId = p := by
    rw [ht]
    rfl
  rw [Store.writeProcess_eq (hi ▸ hd) hps, hi, hp]
  refine ⟨.directory (hd ▸ hp ▸ .process hl hc hps hsp), ⟨_, _, Store.setDirectory_self _ _ _, ?_,
    rfl, Directory.get?_write_self _ _ _⟩, rfl⟩
  exact ⟨hl.record, hl.schema, hl.id_eq, hl.generation, hl.stateId, hl.state, hl.contract⟩

section
variable (hs : Sound sdk s)
include hs

/-- A rewrite of an existing process record. -/
theorem LiveProcess.write (h : LiveProcess sdk s id stored p process)
    (hc : ActsOn s.operations actor id stored.record.generation) (new : StoredProcess)
    (ht : new.record.target = process.record.target)
    (hsp : ∀ ps, ps.get? p = some process → ProcessStep s.operations stored ps new) :
    Write sdk actor s (s.writeProcess new) ∧
      ProcessRewritten sdk s id stored p new (s.writeProcess new) := by
  have hls := loadProcess_ok.mp (h.ok hs).loads
  obtain ⟨d, ps, hd, hl, hps, hp⟩ := h
  exact writeProcess_write hd hl hps (ht.trans hls.2.2.1) hc (hsp ps hp)

/-! ## Claims on a process -/

theorem vacateProcessClaim_ok (hl : LiveProcess sdk s id stored p process)
    (h : vacateProcessClaim sdk process name s = .ok vacated) :
    process.activeOperation = none ∧ vacated = process := by
  unfold vacateProcessClaim at h
  split at h
  · rename_i hn
    exact ⟨hn, (Except.ok.inj h).symm⟩
  · rename_i active ha
    obtain ⟨migrated, hm, hmv⟩ := bind_eq_ok.mp h
    rw [okOr_eq_ok] at hmv
    unfold migrateLegacyProcessIoClaim at hm
    rw [ha] at hm
    obtain ⟨found, hf, hr⟩ := bind_eq_ok.mp hm
    obtain ⟨holder, hh, heq, -, hk⟩ := (hl.ok hs).active _ ha
    cases (heq ▸ hh.found).symm.trans (loadOperation_ok.mp hf).1
    split at hr
    · subst hmv
      cases hr
    · rename_i hi
      rcases hk with hk | hk <;> rw [hk] at hi <;> exact absurd rfl hi

theorem claimActiveProcessOperation_spec (hl : LiveProcess sdk s id stored p process)
    (hpn : PendingAt s.operations id stored.record.generation op)
    (hk : op.kind = .exec ∨ op.kind = .signalProcess) (hp : op.processId = some p)
    (ho : op.operationId = o) (ha : actor = some o)
    (hu : stored.activeOperation = none) :
    Yields (Write sdk actor) (claimActiveProcessOperation sdk process o name) s
      fun claimed t => claimed = { process with activeOperation := some o } ∧
        ProcessRewritten sdk s id stored p claimed t := by
  subst ho
  unfold claimActiveProcessOperation
  split
  · rename_i how
    have hsl : process = { process with activeOperation := some op.operationId } := by
      rw [← how]
    exact .pure ⟨hsl, hl, rfl⟩
  · refine .read_bind fun vacated hv => ?_
    obtain ⟨hfr, rfl⟩ := vacateProcessClaim_ok hs hl hv
    have hi := hl.live.id_eq
    obtain ⟨hw, hr⟩ := hl.write hs (.of_journaled hpn.toJournaledAt ha)
      { vacated with activeOperation := some op.operationId } rfl fun ps hf =>
      .claim (hi ▸ hpn) hk hp hf hfr hu
    exact .commit_bind hw (.pure ⟨rfl, hr⟩)

/-- Dropping claims of a process, possibly with a new process ID. -/
theorem LiveProcess.change (h : LiveProcess sdk s id stored p process)
    (hc : ActsOn s.operations actor id stored.record.generation) (hpd : pid ≠ some 0)
    (ha : active = process.activeOperation ∨ active = none)
    (hi : io ⊆ process.activeIoOperations) :
    Write sdk actor s (s.writeProcess { process with
      record := { process.record with pid }, activeOperation := active
      activeIoOperations := io }) ∧
      ProcessRewritten sdk s id stored p { process with
        record := { process.record with pid }, activeOperation := active
        activeIoOperations := io } (s.writeProcess { process with
          record := { process.record with pid }, activeOperation := active
          activeIoOperations := io }) := by
  have hl := loadProcess_ok.mp (h.ok hs).loads
  exact h.write hs hc _ rfl fun ps hp => .change hp hpd hl.2.2.2.2 ha hi

theorem LiveProcess.pid_ne (h : LiveProcess sdk s id stored p process) :
    process.record.pid ≠ some 0 :=
  (loadProcess_ok.mp (h.ok hs).loads).2.2.2.1

/-- An operation on an executed process holds at most a claim on that process. -/
theorem Sound.not_holdsClaim_process
    (ho : s.operations.get? op.operationId = some op) (hl : op.isLifecycle = false)
    (hp : op.processId = some p) (hlv : LiveProcess sdk s op.containerId stored p process)
    (ha : process.activeOperation ≠ some op.operationId)
    (hi : op.operationId ∉ process.activeIoOperations) : ¬HoldsClaim s op := by
  intro hc
  have hn := (hlv.ok hs).not_init
  obtain ⟨d, ps, hd, hld, hps, hf⟩ := hlv
  obtain ⟨d', found, hd', hok, -, hcs⟩ := hs.holdsClaim_cases ho hc
  cases hd.symm.trans hd'
  rcases hcs with ⟨-, hl'⟩ | ⟨-, -, hp'⟩ | ⟨ps', p', process', hps', hp', -, -, hpd, hh⟩
  · rw [hl] at hl'
    cases hl'
  · exact hn (Option.some.inj (hp.symm.trans hp'))
  · cases hp.symm.trans hpd
    cases hps.symm.trans hps'
    cases hf.symm.trans hp'
    rcases hh with hh | hh
    · exact ha hh
    · exact hi hh

/-- An operation on the init process holds at most a claim in the container record. -/
theorem Sound.not_holdsClaim_init
    (ho : s.operations.get? op.operationId = some op) (hp : op.processId = some .init)
    (hl : Live sdk s op.containerId stored)
    (ha : stored.activeOperation ≠ some op.operationId)
    (hi : op.operationId ∉ stored.initIoOperations) : ¬HoldsClaim s op := by
  intro hc
  obtain ⟨d, found, hd, hok, -, hcs⟩ := hs.holdsClaim_cases ho hc
  obtain rfl := hl.unique ⟨d, hd, hok.loadable⟩
  rcases hcs with ⟨hh, -⟩ | ⟨hh, -⟩ | ⟨_, p', _, _, _, hn, _, hpd, _⟩
  · exact ha hh
  · exact hi hh
  · exact hn (Option.some.inj (hpd.symm.trans hp))

end

theorem LiveProcess.granted (hlv : LiveProcess sdk s op.containerId stored p process)
    (h : Pending sdk s op)
    (hc : process.activeOperation = some op.operationId ∨ op.operationId ∈ process.activeIoOperations) :
    Granted s op.operationId := by
  obtain ⟨d, ps, hd, hl, hps, hp⟩ := hlv
  exact ⟨op, h.found, h.prepared, d, stored, hd, hl.record,
    .inr (.inr ⟨ps, p, process, hps, hp, hc⟩)⟩

/-! ## Exec -/

theorem ensureContainerUnclaimed_ok (h : ensureContainerUnclaimed stored name = .ok ()) :
    stored.activeOperation = none := by
  unfold ensureContainerUnclaimed at h
  split at h
  · rename_i hn
    exact hn
  · cases h

theorem requiredOperationProcessId_ok (h : requiredOperationProcessId op name = .ok p) :
    op.processId = some p := by
  unfold requiredOperationProcessId at h
  rwa [okOr_eq_ok] at h

/-- The process directory of a live container exists. -/
theorem ensureProcessDirectory_spec (hlv : Live sdk s id stored)
    (hc : ActsOn s.operations actor id stored.record.generation) :
    Yields (Write sdk actor) (ensureProcessDirectory id) s fun _ t =>
      t.operations = s.operations ∧
        ∃ d ps, t.containers.get? id = some d ∧ Loadable sdk id d stored ∧
          d.processes = some ps ∧ ∀ p, s.process? (exactProcessTarget stored p) = ps.get? p := by
  obtain ⟨d, hd, hl⟩ := hlv
  refine .read_bind fun processes hp => ?_
  have hp : d.processes = processes := by simpa [hd] using hp
  cases processes with
  | some ps =>
    refine .pure ⟨rfl, d, ps, hd, hl, hp, fun p => ?_⟩
    rw [process?_live hd hl, hp]
    rfl
  | none =>
    have hw : Write sdk actor s (s.createProcessDirectory id) := by
      rw [Store.createProcessDirectory_eq hd]
      exact .directory (hd ▸ .processDirectory hl.record hc hp)
    refine .commit hw ?_
    rw [Store.createProcessDirectory_eq hd]
    refine ⟨rfl, _, .empty, Store.setDirectory_self _ _ _, ?_, rfl, fun p => ?_⟩
    · exact ⟨hl.record, hl.schema, hl.id_eq, hl.generation, hl.stateId, hl.state, hl.contract⟩
    · rw [process?_live hd hl, hp]
      rfl

/-- What the preparation of an exec leaves behind. -/
structure ReconciledExec (sdk : Sdk) (s : Store) (op : StoredOperation) (p : ProcessId)
    (stored : StoredContainer) (process : StoredProcess) (t : Store) : Prop where
  operations : t.operations = s.operations
  before : Live sdk s op.containerId stored
  live : LiveProcess sdk t op.containerId stored p process
  generation : stored.record.generation = op.generation
  unclaimed : stored.activeOperation = none
  claimed : s.process? (exactProcessTarget stored p) = none →
    process.activeOperation = some op.operationId

theorem reconcilePreparedExec_spec (h : Pending sdk s op) (hk : op.kind = .exec)
    (hp : op.processId = some p) :
    Yields (Write sdk (some op.operationId)) (reconcilePreparedExec sdk rq op) s
      fun process t => ∃ stored, ReconciledExec sdk s op p stored process t := by
  refine .read_bind fun stored hst => ?_
  have h := h.on (loadStoredExact_ok.mp hst)
  refine .check_bind fun _ hu => ?_
  have hu := ensureContainerUnclaimed_ok hu
  refine .check_bind fun p' hp' => ?_
  cases hp.symm.trans (requiredOperationProcessId_ok hp')
  have hi := h.live.id_eq
  rw [hi]
  refine Yields.bind (ensureProcessDirectory_spec h.live h.acts) ?_
  rintro _ t ⟨ho, d, ps, hd, hl, hps, hb⟩
  have hpr := @process?_live sdk t op.containerId stored p d hd hl
  rw [hps] at hpr
  refine .read_bind fun existing hx => ?_
  have hx : ps.get? p = existing := hpr.symm.trans (Except.ok.inj hx)
  cases existing with
  | some found =>
    refine .read_bind fun process hf => ?_
    refine .rejectIf_bind fun _ => ?_
    refine .pure ⟨stored, ho, h.live, loadStoredProcess_ok ⟨d, hd, hl⟩ hf,
      h.generation, hu, fun ha => ?_⟩
    rw [hb, hx] at ha
    cases ha
  | none =>
    have hpn : PendingAt t.operations stored.id stored.record.generation op := by
      rw [ho, hi]
      exact h.pendingAt
    have hc := h.acts
    rw [← ho] at hc
    have hsp := @ProcessStep.create t.operations stored ps op p rq.terminal hpn hk hp hx hu
    obtain ⟨hw, hr⟩ := writeProcess_write hd hl hps rfl hc hsp
    refine .commit_bind hw (.pure ?_)
    exact ⟨stored, hr.operations.trans ho, h.live, hr.live, h.generation, hu, fun _ => rfl⟩

theorem appendExecEvents_spec (hs : Sound sdk s) :
    Emits sdk actor (appendExecEvents clock record) s := by
  refine .check_bind fun pid _ => ?_
  refine .rejectIf_bind fun _ => ?_
  refine .check_bind fun generation _ => ?_
  refine hs.bind (appendProcessEvent_spec hs rfl rfl) fun _ t ht hst => ?_
  refine Yields.mono (appendProcessEvent_spec ht rfl rfl) ?_
  intro _ u htu
  exact hst.trans htu

theorem releaseProcessIfClaimed_spec (hs : Sound sdk s) (hl : LiveProcess sdk s id stored p process)
    (hc : ActsOn s.operations actor id stored.record.generation) :
    Yields (Write sdk actor) (releaseProcessIfClaimed process) s fun _ t =>
      ProcessRewritten sdk s id stored p { process with activeOperation := none } t := by
  unfold releaseProcessIfClaimed
  split
  · obtain ⟨hw, hr⟩ := hl.change hs hc (hl.pid_ne hs) (.inr rfl) subset_rfl
    exact .commit hw hr
  · rename_i hn
    have hsl : { process with activeOperation := none } = process := by rw [← hn]
    exact .pure ⟨hsl.symm ▸ hl, rfl⟩

theorem processOperation_plain (hkn : op.kind.isProcessOperation = true) :
    op.kind.bindsResponse = false ∧ op.kind ≠ .delete ∧ op.kind.retainsRequest = false := by
  cases hk : op.kind <;> rw [hk] at hkn <;> first
    | exact absurd hkn (by decide)
    | exact ⟨rfl, by decide, rfl⟩

/-- The outcome of a process operation whose process has no claim of it any more. -/
theorem settle_process_spec (h : Pending sdk s op) (hrl : ¬HoldsClaim s op)
    (hk : op.kind.isProcessOperation = true) (hp : oc.isPlain = true)
    (hst : oc ≠ .prepared) (hn : oc.Normal) :
    Settles sdk op.operationId (settle op oc) s := by
  obtain ⟨hu, hd, hr⟩ := processOperation_plain hk
  exact (settle_spec h (h.ok.plain rfl hr hp hst) (.inl hrl)
    (.of_kind rfl ⟨hu, hd⟩ hn)).mono fun _ _ ht => ht.2

/-- Events and outcome of an exec whose process has no claim of it any more. -/
theorem concludeExec_spec {α : Type} {P : α → Store → Prop} {value : α} (h : Pending sdk s op)
    (hk : op.kind = .exec) (hp : op.processId = some p)
    (hl : LiveProcess sdk s op.containerId stored p process)
    (hfr : process.activeOperation = none) (hP : ∀ t, Settled t op.operationId → P value t) :
    Yields (Write sdk (some op.operationId)) (appendExecEvents clock record >>= fun _ =>
      settle op (.succeededProcess rp) >>= fun _ => pure value) s P := by
  refine h.sound.bind (appendExecEvents_spec h.sound) fun _ t ht hst => ?_
  have h := h.congr ht hst.operations
  have hl := hl.congr (t := t) (by rw [hst.containers])
  have hlf : op.isLifecycle = false := by
    unfold StoredOperation.isLifecycle
    rw [hk]
  -- an I/O claim of the process never names an exec
  have hio : op.operationId ∉ process.activeIoOperations := by
    intro hm
    obtain ⟨found, hf, heq, -, hi⟩ := (hl.ok ht).io _ hm
    cases (heq ▸ hf.found).symm.trans h.found
    rw [hk] at hi
    cases hi
  have hr := ht.not_holdsClaim_process h.found hlf hp hl (by simp [hfr]) hio
  refine Yields.bind (settle_process_spec h hr (by rw [hk]; rfl) rfl (by simp) trivial) ?_
  intro _ u hse
  exact .pure (hP u hse)

theorem resumeExec_spec (h : Pending sdk s op) (hi : op.operationId = rq.context.operationId)
    (hk : op.kind = .exec) (hp : op.processId = some p) :
    Prepares sdk op.operationId (resumeExec sdk clock rq op) s := by
  unfold resumeExec
  rw [← hi]
  refine h.sound.bind (reconcilePreparedExec_spec h hk hp) ?_
  rintro process t ht ⟨stored, hm⟩
  have h := (h.congr ht hm.operations).on ⟨hm.live.live, hm.generation⟩
  split
  · refine .check_bind fun _ _ => ?_
    refine ht.bind (releaseProcessIfClaimed_spec ht hm.live h.acts) fun _ u hu hr => ?_
    exact concludeExec_spec (h.congr hu hr.operations) hk hp hr.live rfl fun _ ht => ht
  · refine ht.bind (claimActiveProcessOperation_spec ht hm.live h.pendingAt (.inl hk) hp rfl
      rfl hm.unclaimed) ?_
    rintro claimed u hu ⟨rfl, hr⟩
    exact .pure (hr.live.granted (h.congr hu hr.operations) (.inl rfl))

theorem reconcileSucceededExec_spec (hs : Sound sdk s)
    (hop : s.operations.get? op.operationId = some op) (hk : op.kind = .exec)
    (ho : op.outcome = .succeededProcess rp) :
    Prepares sdk op.operationId (reconcileSucceededExec sdk op rp) s := by
  have hok := hs.operations _ _ hop
  have hd : Settled s op.operationId := ⟨op, hop, by simp [ho]⟩
  refine .check_bind fun _ _ => ?_
  refine .read_bind fun live _ => ?_
  cases live with
  | none => exact .pure hd
  | some stored =>
    dsimp only
    split
    · exact .pure hd
    · refine .check_bind fun _ _ => ?_
      refine .read_bind fun process _ => ?_
      split
      · exact .pure hd
      · refine .rejectIf_bind fun hsm => ?_
        simp only [not_or, ne_eq, not_not] at hsm
        obtain ⟨-, -, htg, htr, -⟩ := hsm
        have hr : process.record = { rp with pid := process.record.pid } := by
          rw [← htg, ← htr]
        rw [hr]
        exact rebind_spec hop (.process ho) (hok.plain hk rfl rfl (by simp)) fun _ ht => ht

theorem validateProcessRetry_ok (h : validateProcessRetry op o kind id p digest name = .ok ()) :
    op.kind = kind ∧ op.containerId = id ∧ op.processId = some p := by
  unfold validateProcessRetry at h
  simp only [bind_eq_ok, rejectIf_eq_ok, ne_eq, not_not] at h
  obtain ⟨_, hr, hp⟩ := h
  exact ⟨(validateRetry_ok hr).1, (validateRetry_ok hr).2, hp⟩

/-- A new process operation is journaled for a live generation. -/
theorem journalProcess_step (hn : s.operations.get? o = none) (hl : Live sdk s id stored)
    (hkn : kind.isProcessOperation = true) (hx : kind = .exec → p ≠ .init) :
    OperationStep sdk s
      (preparedOperation o kind id stored.record.generation (some p) none digest) := by
  have hsh : (preparedOperation o kind id stored.record.generation (some p) none
      digest).shapeFault sdk = none := by
    refine Iff.mpr (shapeFault_plain ?_) ⟨rfl, rfl⟩
    cases kind <;> first | rfl | cases hkn
  refine .journal hn rfl hsh rfl hl rfl ⟨fun _ => rfl, ?_, ?_, ?_⟩
  · intro hk hnt
    exact hx hk (Option.some.inj hnt)
  · rintro rfl
    cases hkn
  · cases kind <;> first | rfl | cases hkn

/-- It is then pending. -/
theorem OperationStep.pending_self (h : OperationStep sdk s op) (hs : Sound sdk s)
    (hp : op.outcome = .prepared) : Pending sdk (s.writeOperation op) op :=
  ⟨hs.operation h, Directory.get?_write_self _ _ _, hp⟩

theorem ExecRequest.validate_ne_init (h : rq.validate sdk = .ok ()) : rq.processId ≠ .init := by
  unfold ExecRequest.validate at h
  split at h
  · cases h
  · rename_i hn
    rintro heq
    rw [heq] at hn
    exact hn rfl

theorem prepareExec_spec (hs : Sound sdk s) :
    Yields (Write sdk (some rq.context.operationId)) (prepareExec sdk clock rq) s
      fun r t => Answered r.isGrant rq.context.operationId t ∧
        Journaled t rq.context.operationId .exec rq.container.id := by
  refine .check_bind fun _ hv => ?_
  refine yields_lookup (fun op hop hi => ?_) fun hn => ?_
  · rw [← hi]
    refine .check_bind fun _ hr => ?_
    obtain ⟨hk, hc, hp⟩ := validateProcessRetry_ok hr
    have hj : Journaled s op.operationId .exec rq.container.id :=
      ⟨op, hop, hk, hc⟩
    split
    · rename_i hpp
      exact yields_and_journaled (resumeExec_spec ⟨hs, hop, hpp⟩ hi hk hp) hj
    · rename_i rp hou
      exact yields_and_journaled (reconcileSucceededExec_spec hs hop hk hou) hj
    · exact .throw
    · exact .throw
  · refine .check_bind fun _ _ => ?_
    refine .read_bind fun stored hst => ?_
    have hlv := loadStoredContainer_ok.mp hst
    refine .check_bind fun _ _ => ?_
    refine hs.bind (ensureProcessDirectory_spec hlv.own (.of_fresh hn)) ?_
    rintro _ t ht ⟨ho, d, ps, hd, hl, hps, -⟩
    refine .read_bind fun existing hx => ?_
    refine .rejectIf_bind fun ha => ?_
    have ha : t.process? (exactProcessTarget stored rq.processId) = none := by
      rw [← Except.ok.inj hx] at ha
      simpa using ha
    rw [← ho] at hn
    have hsp := @journalProcess_step sdk t stored.id stored rq.processId
      rq.context.operationId .exec (sdk.requestDigest
        (.exec rq.container rq.processId rq.process rq.io)) hn
      ⟨d, hd, hl⟩ rfl fun _ => rq.validate_ne_init hv
    have hpn := hsp.pending_self ht rfl
    refine .commit_bind (.operation rfl hsp) ?_
    refine hpn.sound.bind (reconcilePreparedExec_spec hpn rfl rfl) ?_
    rintro process u hu ⟨found, hm⟩
    -- the container has not changed since it was checked to have no such process
    obtain rfl : found = stored := hm.before.unique ⟨d, hd, hl⟩
    have hpn := hpn.congr hu hm.operations
    exact .pure ⟨hm.live.granted hpn (.inl (hm.claimed ha)), _, hpn.found, rfl, hlv.id_eq⟩

theorem processOutcome_reads : ReadsOutcome processOutcome := by
  intro outcome invalid done h
  cases outcome <;> cases h <;> simp

theorem executedProcess_ok (h : executedProcess process pid terminal = .ok rp) :
    rp = { process.record with pid := rp.pid } ∧ rp.pid = some pid := by
  unfold executedProcess at h
  split at h
  · cases h
  · split at h
    · cases h
      exact ⟨rfl, rfl⟩
    · rename_i existing hx
      split at h
      · rename_i hsm
        cases h
        exact ⟨rfl, by rw [hx, hsm]⟩
      · cases h

theorem execPid_ok (h : execPid pid = .ok n) : n ≠ 0 := by
  unfold execPid at h
  simp only [bind_eq_ok, rejectIf_eq_ok, pure_eq_ok] at h
  obtain ⟨_, hn, _, hz, rfl⟩ := h
  omega

theorem completeExec_spec {pid : Int} {terminal : Bool} (hs : Sound sdk s) :
    Settles sdk o (completeExec sdk clock o pid terminal) s := by
  refine .check_bind fun n hn => ?_
  refine hs.completion processOutcome_reads (fun _ _ => .pure rfl) ?_
  rintro op hpn rfl hk
  refine .read_bind fun stored hst => ?_
  have h := hpn.on (loadStoredExact_ok.mp hst)
  refine .check_bind fun p hp => ?_
  have hp := requiredOperationProcessId_ok hp
  refine .read_bind fun process hpr => ?_
  have hpr := loadStoredProcess_ok h.live hpr
  refine .check_bind fun _ _ => ?_
  refine .check_bind fun rp hrp => ?_
  obtain ⟨hrc, hpd⟩ := executedProcess_ok hrp
  have hne : rp.pid ≠ some 0 := by
    rw [hpd]
    simpa using execPid_ok hn
  have hwr := hpr.change hs h.acts hne (.inr rfl) (subset_refl process.activeIoOperations)
  rw [← hrc] at hwr
  obtain ⟨hw, hr⟩ := hwr
  exact .commit_bind hw (concludeExec_spec
    (h.congr (hs.write hw) hr.operations) hk hp hr.live rfl fun _ ht => ht)

/-! ## Releasing a claim -/

theorem not_isLifecycle_of_processOperation (hkn : op.kind.isProcessOperation = true)
    (hp : op.processId = some p) (hn : p ≠ .init) : op.isLifecycle = false := by
  unfold StoredOperation.isLifecycle
  cases hk : op.kind <;> rw [hk] at hkn <;> first
    | rfl
    | exact absurd hkn (by decide)
    | simp [hp, hn]

/-- The record without the claims of one operation. -/
theorem RecordStep.releaseInit (hn : stored.record.state.Normal) :
    RecordStep ops (some o) d stored (stored.releaseInit o) := by
  have ha : (if stored.activeOperation = some o then none else stored.activeOperation) =
      stored.activeOperation ∨
      (if stored.activeOperation = some o then none else stored.activeOperation) = none ∧
        stored.activeOperation = some o := by
    by_cases h : stored.activeOperation = some o
    · exact .inr ⟨if_pos h, h⟩
    · exact .inl (if_neg h)
  exact .change (.refl hn) (fun h h' => absurd h h') ha (Finset.erase_subset _ _)

/-- After the release the operation holds nothing. -/
theorem releaseProcessOperationClaim_spec (hs : Sound sdk s)
    (ho : s.operations.get? op.operationId = some op) (hk : op.kind.isProcessOperation = true) :
    Yields (Write sdk (some op.operationId))
      (releaseProcessOperationClaim sdk op op.operationId name) s fun _ t =>
      t.operations = s.operations ∧ (Sound sdk t → ¬HoldsClaim t op) := by
  refine .read_bind fun stored hst => ?_
  obtain ⟨hl, hg⟩ := loadStoredExact_ok.mp hst
  have hc : ActsOn s.operations (some op.operationId) op.containerId
      stored.record.generation := .of_journaled ⟨ho, rfl, hg.symm⟩ rfl
  refine .check_bind fun p hp => ?_
  have hp := requiredOperationProcessId_ok hp
  split
  · rename_i hn
    obtain rfl := ProcessId.isInit_iff.mp hn
    refine .check_bind fun _ _ => ?_
    obtain ⟨hw, hr⟩ := hl.write hs hc fun d _ => .releaseInit (hl.normal hs)
    refine .commit hw ⟨hr.operations, fun ht => ?_⟩
    rw [← hr.operations] at ho
    refine ht.not_holdsClaim_init ho hp hr.live ?_ (Finset.notMem_erase _ _)
    show (if stored.activeOperation = some op.operationId then none else stored.activeOperation) ≠
      some op.operationId
    split
    · simp
    · assumption
  · rename_i hn
    have hn : p ≠ .init := fun h => hn (ProcessId.isInit_iff.mpr h)
    refine .read_bind fun process hpr => ?_
    have hpr := loadStoredProcess_ok hl hpr
    refine .check_bind fun _ _ => ?_
    have ha : (process.release op.operationId).activeOperation = process.activeOperation ∨
        (process.release op.operationId).activeOperation = none := by
      unfold StoredProcess.release
      split
      · exact .inr rfl
      · exact .inl rfl
    obtain ⟨hw, hr⟩ := hpr.change hs hc (hpr.pid_ne hs) ha (Finset.erase_subset op.operationId _)
    refine .commit hw ⟨hr.operations, fun ht => ?_⟩
    have ho' := ho
    rw [← hr.operations] at ho'
    refine ht.not_holdsClaim_process ho' (not_isLifecycle_of_processOperation hk hp hn) hp
      hr.live ?_ (Finset.notMem_erase _ _)
    show (if process.activeOperation = some op.operationId then none else process.activeOperation) ≠
      some op.operationId
    split
    · simp
    · assumption

/-- A process operation releases its claim, then gets its outcome. -/
theorem concludeProcess_spec (h : Pending sdk s op) (hk : op.kind.isProcessOperation = true)
    (hp : oc.isPlain = true) (hst : oc ≠ .prepared) (hn : oc.Normal) :
    Settles sdk op.operationId (releaseProcessOperationClaim sdk op op.operationId name >>= fun _ =>
      settle op oc) s := by
  refine h.sound.bind (releaseProcessOperationClaim_spec h.sound h.found hk) ?_
  rintro _ t ht ⟨ho, hr⟩
  exact settle_process_spec (h.congr ht ho) (hr ht) hk hp hst hn

/-! ## Signals -/

theorem claimSignalProcess_spec (h : Pending sdk s op) (hk : op.kind = .signalProcess) :
    Yields (Write sdk (some op.operationId)) (claimSignalProcess sdk op op.operationId) s
      fun _ t => Granted t op.operationId := by
  refine .read_bind fun stored hst => ?_
  have h := h.on (loadStoredExact_ok.mp hst)
  refine .check_bind fun p hp => ?_
  have hp := requiredOperationProcessId_ok hp
  split
  · rename_i hn
    obtain rfl := ProcessId.isInit_iff.mp hn
    have hl : op.isLifecycle = true := by
      unfold StoredOperation.isLifecycle
      rw [hk]
      simp [hp]
    exact claim_spec h hl (unfenced hk rfl) fun _ ht => ht
  · refine .check_bind fun _ hu => ?_
    have hu := ensureContainerUnclaimed_ok hu
    refine .read_bind fun process hpr => ?_
    have hpr := loadStoredProcess_ok h.live hpr
    refine h.sound.bind (claimActiveProcessOperation_spec h.sound hpr h.pendingAt (.inr hk) hp
      rfl rfl hu) ?_
    rintro claimed t ht ⟨rfl, hr⟩
    exact .pure (hr.live.granted (h.congr ht hr.operations) (.inl rfl))

theorem prepareSignalProcess_spec {rq : SignalProcessRequest} (hs : Sound sdk s) :
    Yields (Write sdk (some rq.context.operationId)) (prepareSignalProcess sdk clock rq) s
      fun r t => Answered r.isGrant rq.context.operationId t ∧
        Journaled t rq.context.operationId .signalProcess rq.process.container.id := by
  refine yields_lookup (fun op hop hi => ?_) fun hn => ?_
  · rw [← hi]
    refine .check_bind fun _ hr => ?_
    obtain ⟨hk, hc, -⟩ := validateProcessRetry_ok hr
    have hj : Journaled s op.operationId .signalProcess rq.process.container.id :=
      ⟨op, hop, hk, hc⟩
    split
    · rename_i hp
      refine Yields.bind (yields_and_journaled (claimSignalProcess_spec ⟨hs, hop, hp⟩ hk) hj) ?_
      intro target t hg
      exact .pure hg
    · rename_i ho
      exact .pure ⟨⟨op, hop, by simp [ho]⟩, hj⟩
    · exact .throw
    · exact .throw
  · refine .check_bind fun _ _ => ?_
    refine .read_bind fun stored hst => ?_
    have hl := loadStoredContainer_ok.mp hst
    refine .check_bind fun _ _ => ?_
    refine .check_bind fun _ _ => ?_
    refine .read_bind fun _ _ => ?_
    have hsp := @journalProcess_step sdk s stored.id stored rq.process.processId
      rq.context.operationId .signalProcess
      (sdk.requestDigest (.signalProcess rq.process rq.signal)) hn hl.own rfl nofun
    refine .commit_bind (.operation rfl hsp) ?_
    refine Yields.bind (yields_and_journaled (claimSignalProcess_spec (hsp.pending_self hs rfl) rfl)
      ⟨_, Directory.get?_write_self _ _ _, rfl, hl.id_eq⟩) ?_
    intro target t hg
    exact .pure hg

theorem completeSignalProcess_spec (hs : Sound sdk s) :
    Settles sdk o (completeSignalProcess sdk o) s := by
  refine hs.emptyCompletion ?_
  rintro op h rfl hk
  exact concludeProcess_spec h (by rw [hk]; rfl) rfl (by simp) trivial

/-! ## Process I/O -/

theorem not_isFencing_of_compatible
    (h : ensureInitIoLifecycleCompatible sdk stored name s = .ok ()) :
    AdmitsIo s.operations stored := by
  intro o active ha ho
  unfold ensureInitIoLifecycleCompatible at h
  rw [ha] at h
  obtain ⟨found, hf, h⟩ := bind_eq_ok.mp h
  cases ho.symm.trans (loadOperation_ok.mp hf).1
  cases hk : active.kind <;> first | rfl | (rw [hk] at h; simp at h)

theorem claimInitIoOperation_spec (h : PendingOn sdk s op stored)
    (hk : isProcessIoKind op.kind = true) (hp : op.processId = some .init)
    (had : AdmitsIo s.operations stored) :
    Yields (Write sdk (some op.operationId)) (claimInitIoOperation stored op.operationId) s
      fun _ t => Granted t op.operationId := by
  unfold claimInitIoOperation
  split
  · rename_i hm
    obtain ⟨d, hd, hl⟩ := h.live
    exact .pure ⟨op, h.found, h.prepared, d, stored, hd, hl.record, .inr (.inl hm)⟩
  · -- the lifecycle slot never names an I/O operation
    have ha : stored.activeOperation ≠ some op.operationId := by
      intro ha
      obtain ⟨d, hd, ho⟩ := h.live.recordOk h.sound
      obtain ⟨found, hf, heq, hlf, -⟩ := ho.active _ ha
      cases (heq ▸ hf.found).symm.trans h.found
      rw [not_isLifecycle_of_io hk] at hlf
      cases hlf
    rw [if_neg ha]
    have hpn := h.pendingAt
    rw [← h.live.id_eq] at hpn
    obtain ⟨hw, ht⟩ := h.write fun d => .ioClaim hpn hk hp had
    refine .commit hw ?_
    obtain ⟨d, hd, hl⟩ := ht.live
    exact ⟨op, ht.found, h.prepared, d, _, hd, hl.record, .inr (.inl (Finset.mem_insert_self _ _))⟩

theorem claimExecIoOperation_spec (h : PendingOn sdk s op stored)
    (hkn : isProcessIoKind op.kind = true) (hp : op.processId = some p)
    (hl : LiveProcess sdk s op.containerId stored p process)
    (had : AdmitsIo s.operations stored) :
    Yields (Write sdk (some op.operationId)) (claimExecIoOperation process op.operationId) s
      fun _ t => Granted t op.operationId := by
  unfold claimExecIoOperation
  split
  · rename_i hm
    exact .pure (hl.granted h.toPending (.inr hm))
  · have ha : process.activeOperation ≠ some op.operationId := by
      intro ha
      obtain ⟨found, hf, heq, -, hfn⟩ := (hl.ok h.sound).active _ ha
      cases (heq ▸ hf.found).symm.trans h.found
      rcases hfn with hk | hk <;> rw [hk] at hkn <;> cases hkn
    rw [if_neg ha]
    have hpn := h.pendingAt
    rw [← h.live.id_eq] at hpn
    obtain ⟨hw, hr⟩ := hl.write h.sound h.acts { process with
      activeIoOperations := insert op.operationId process.activeIoOperations } rfl
      fun ps hf => .ioClaim hpn hkn hp hf had
    exact .commit hw (hr.live.granted
      (h.congr (h.sound.write hw) hr.operations) (.inr (Finset.mem_insert_self _ _)))

theorem claimProcessIoOperation_spec (h : Pending sdk s op) (hk : isProcessIoKind op.kind = true) :
    Yields (Write sdk (some op.operationId)) (claimProcessIoOperation sdk op name) s fun _ t =>
      Granted t op.operationId := by
  refine .read_bind fun stored hst => ?_
  have h := h.on (loadStoredExact_ok.mp hst)
  refine .check_bind fun p hp => ?_
  have hp := requiredOperationProcessId_ok hp
  split
  · rename_i hn
    obtain rfl := ProcessId.isInit_iff.mp hn
    refine .read_bind fun _ hc => ?_
    refine Yields.bind (claimInitIoOperation_spec h hk hp (not_isFencing_of_compatible hc)) ?_
    intro _ t hg
    exact .pure hg
  · refine .read_bind fun _ hc => ?_
    refine .read_bind fun process hpr => ?_
    refine Yields.bind (claimExecIoOperation_spec h hk hp
      (loadStoredProcess_ok h.live hpr) (not_isFencing_of_compatible hc)) ?_
    intro _ t hg
    exact .pure hg

theorem isProcessOperation_of_io (h : isProcessIoKind kind = true) :
    kind.isProcessOperation = true ∧ kind ≠ .exec := by
  cases kind <;> first | exact ⟨rfl, by decide⟩ | cases h

theorem prepareProcessIoOperation_spec (hs : Sound sdk s)
    (hp : isProcessIoKind profile.kind = true) :
    Yields (Write sdk (some cx.operationId))
      (prepareProcessIoOperation sdk clock cx requested digest profile) s
      fun r t => Answered r.isGrant cx.operationId t ∧
        Journaled t cx.operationId profile.kind requested.container.id := by
  refine yields_lookup (fun op hop hi => ?_) fun hn => ?_
  · rw [← hi]
    refine .check_bind fun _ hr => ?_
    obtain ⟨hk, hc, -⟩ := validateProcessRetry_ok hr
    have hj : Journaled s op.operationId profile.kind requested.container.id :=
      ⟨op, hop, hk, hc⟩
    split
    · rename_i hpp
      refine Yields.bind (yields_and_journaled
        (claimProcessIoOperation_spec ⟨hs, hop, hpp⟩ (hk ▸ hp)) hj) ?_
      intro target t hg
      exact .pure hg
    · rename_i ho
      exact .pure ⟨⟨op, hop, by simp [ho]⟩, hj⟩
    · exact .throw
    · exact .throw
  · refine .check_bind fun _ _ => ?_
    refine .read_bind fun stored hst => ?_
    have hl := loadStoredContainer_ok.mp hst
    refine .check_bind fun _ _ => ?_
    refine .read_bind fun _ _ => ?_
    refine .read_bind fun _ _ => ?_
    obtain ⟨hpr, hx⟩ := isProcessOperation_of_io hp
    have hsp := @journalProcess_step sdk s stored.id stored requested.processId
      cx.operationId profile.kind digest hn hl.own hpr fun h => absurd h hx
    refine .commit_bind (.operation rfl hsp) ?_
    refine Yields.bind (yields_and_journaled
      (claimProcessIoOperation_spec (hsp.pending_self hs rfl) hp)
      ⟨_, Directory.get?_write_self _ _ _, rfl, hl.id_eq⟩) ?_
    intro target t hg
    exact .pure hg

theorem completeProcessIoOperation_spec (hs : Sound sdk s)
    (hp : isProcessIoKind profile.kind = true) :
    Settles sdk o (completeProcessIoOperation sdk o profile) s := by
  refine hs.emptyCompletion ?_
  rintro op h rfl hk
  refine concludeProcess_spec h ?_ rfl (by simp) trivial
  rw [hk]
  exact (isProcessOperation_of_io hp).1

/-! ## Failure -/

theorem recordFailure_spec (h : Pending sdk s op) :
    Settles sdk op.operationId (recordFailure sdk op error) s := by
  unfold recordFailure
  split
  · -- a creation is settled first and may still hold its claim then
    rename_i hc
    refine Yields.bind (settle_spec h h.ok.failed (.inr ⟨hc, rfl⟩) (.failed fun hd => ?_)) ?_
    · rw [hd] at hc
      cases hc
    rintro _ t ⟨rfl, hse⟩
    have hf := Store.writeOperation_self s { op with outcome := .failed error }
    refine (@reconcileFailedCreation_spec sdk _ { op with outcome := .failed error } hf).mono ?_
    intro _ u ho
    refine ⟨{ op with outcome := .failed error }, ?_, by simp⟩
    rw [ho]
    exact hf
  · split
    · rename_i hp
      exact concludeProcess_spec h hp rfl (by simp) trivial
    · rename_i hc hp
      refine .read_bind fun stored hst => ?_
      have h := h.on (loadStoredExact_ok.mp hst)
      refine .check_bind fun _ ha => ?_
      obtain ⟨hw, ht⟩ := h.write fun d =>
        .release h.normal (ensureActiveOperation_ok.mp ha) rfl
      exact .commit_bind hw (settle_free_spec ht
        (isLifecycle_of_kind rfl (by simpa using hp)) rfl h.ok.failed
        (.failed fun _ => ⟨_, ht.live, ht.generation⟩))

theorem failOperation_spec (hs : Sound sdk s) :
    Yields (Write sdk (some o)) (failOperation sdk o error) s fun _ t => t = s ∨ Settled t o := by
  unfold failOperation
  split
  · exact .pure (.inl rfl)
  · refine .read_bind fun op hl => ?_
    obtain ⟨hop, rfl⟩ := loadOperation_found hl
    split
    · rename_i hp
      exact (recordFailure_spec ⟨hs, hop, hp⟩).mono fun _ _ h => .inr h
    · rename_i durable ho
      have hd : Settled s op.operationId := ⟨op, hop, by simp [ho]⟩
      split
      · unfold reconcileFailure
        split
        · refine (reconcileFailedCreation_spec hop).mono ?_
          intro _ t hos
          exact .inr ⟨op, hos.symm ▸ hop, by simp [ho]⟩
        · exact .pure (.inr hd)
      · exact .throw
    · exact .throw

end OciRuntime
