import OciRuntime.Commit.Calls

/-!
# `OciRuntime.Property.Fence` — Delete and Checkpoint fence the processes of a container

A Delete or Checkpoint that holds the lifecycle claim of a container excludes every process
operation on it. The first half is part of the store invariant: under such a claim no process
operation owns anything. The second half follows from the first: a prepare that grants a process
operation leaves it with a claim of its own, and no commit of the prepare has dropped the fence.

## Contents
- **Process calls.** `Call.processTarget`, `Call.process_granted`.
- **The fence.** `fence_excludes_processes`.
- **The lock.** `lifecycle_claim_is_a_lock`.
-/

namespace OciRuntime

open Durable Program

variable {sdk : Sdk} {s t : Store} {id : ContainerId} {o : OperationId}

/-! ## Process calls -/

/-- The container whose process a prepare call asks for: exec, process signal and process I/O. -/
def Call.processTarget : Call sdk → Option ContainerId
  | .prepareExec _ request => some request.container.id
  | .prepareSignalProcess _ request => some request.process.container.id
  | .prepareWriteStdin _ request => some request.process.container.id
  | .prepareCloseStdin _ request => some request.process.container.id
  | .prepareResize _ request => some request.process.container.id
  | _ => none

/-- A process operation of the container holds a claim. -/
def ProcessGrant (s : Store) (id : ContainerId) (o : OperationId) : Prop :=
  ∃ op, s.operations.get? o = some op ∧ op.kind.isProcessOperation = true ∧ op.containerId = id ∧
    HoldsClaim s op

theorem granting_process {α β : Type} {m : StoreM (Preparation α β)}
    (h : Yields (Write sdk (some o)) m s fun r t => Answered r.isGrant o t ∧ Journaled t o kind id)
    (hk : kind.isProcessOperation = true) (hgr : (granting m).run.result s = .ok .granted) :
    ProcessGrant ((granting m).run.final s) id o := by
  have hr : Yields (Write sdk (some o)) (granting m).run s fun reply t =>
      reply = .granted → ProcessGrant t id o := by
    rw [run_granting]
    refine h.map fun preparation t ha hr => ?_
    obtain ⟨ha, op, ho, rfl, hi⟩ := ha
    unfold Preparation.reply at hr
    cases hg : preparation.isGrant with
    | true =>
      rw [hg] at ha
      obtain ⟨op', ho', _, hc⟩ := ha
      cases ho.symm.trans ho'
      exact ⟨op, ho, hk, hi, hc⟩
    | false =>
      rw [hg] at hr
      cases hr
  exact hr.of_result hgr rfl

/-- What is granted is a process operation of the container that the call names. -/
theorem Call.process_granted {call : Call sdk} (hs : Sound sdk s)
    (ht : call.processTarget = some id) (hg : call.run.result s = .ok .granted) :
    ∃ o, call.actor s = some o ∧ ProcessGrant (call.run.final s) id o := by
  cases call with
  | prepareExec =>
    cases ht
    exact ⟨_, rfl, granting_process (prepareExec_spec hs) rfl hg⟩
  | prepareSignalProcess =>
    cases ht
    exact ⟨_, rfl, granting_process (prepareSignalProcess_spec hs) rfl hg⟩
  | prepareWriteStdin =>
    cases ht
    exact ⟨_, rfl, granting_process
      (Yields.check_bind fun _ _ => prepareProcessIoOperation_spec hs rfl) rfl hg⟩
  | prepareCloseStdin =>
    cases ht
    exact ⟨_, rfl, granting_process (prepareProcessIoOperation_spec hs rfl) rfl hg⟩
  | prepareResize =>
    cases ht
    exact ⟨_, rfl, granting_process
      (Yields.check_bind fun _ _ => prepareProcessIoOperation_spec hs rfl) rfl hg⟩
  | _ => cases ht

/-! ## The fence -/

/-- A Delete or Checkpoint holds the lifecycle claim of the container. -/
def Fencing (s : Store) (id : ContainerId) (o : OperationId) : Prop :=
  s.lifecycleClaim id = some o ∧
    ∃ op, s.operations.get? o = some op ∧ (op.kind = .delete ∨ op.kind = .checkpoint)

section
variable (h : Fencing s id o)
include h

theorem Fencing.kind (ho : s.operations.get? o = some op) :
    op.kind = .delete ∨ op.kind = .checkpoint := by
  obtain ⟨_, op', ho', hk⟩ := h
  cases ho.symm.trans ho'
  exact hk

theorem Fencing.write (hs : Sound sdk s) (hct : actor ≠ some o) (hw : Write sdk actor s t) :
    Fencing t id o := by
  obtain ⟨hc, op, ho, hk⟩ := h
  obtain ⟨op', ho', hsm⟩ := hw.grows o op ho
  exact ⟨hw.claim_kept hs hct hc, op', ho', by rwa [hsm.kind]⟩

/-- Under the fence nothing but the lifecycle claim is taken. -/
theorem Fencing.unowned (hs : Sound sdk s) (hd : s.containers.get? id = some d)
    (hst : d.record = some c) : Unowned d c ∧ c.activeOperation = some o := by
  obtain ⟨hc, op, ho, hk⟩ := h
  have ha : c.activeOperation = some o := by
    rw [Store.lifecycleClaim, recordOf_eq_some.mpr ⟨d, hd, hst⟩] at hc
    exact hc
  refine ⟨((hs.containers id d hd).record c hst).fence o op ha ho ?_, ha⟩
  rcases hk with hk | hk <;> rw [hk] <;> rfl

/-- A process operation and the fence exclude each other. -/
theorem Fencing.no_process (hs : Sound sdk s) : ¬ProcessGrant s id o' := by
  rintro ⟨op, hop, hpr, rfl, d, stored, hd, hst, hc⟩
  obtain ⟨⟨hi, hpc⟩, ha⟩ := h.unowned hs hd hst
  have hid := (hs.operations o' op hop).id_eq
  rcases hc with hl | hm | ⟨ps, p, process, hps, hp, hc⟩
  · -- the claim is the fence itself, which no process operation holds
    have ho : o' = o := hid.symm.trans (Option.some.inj (hl.symm.trans ha))
    subst ho
    rcases h.kind hop with hk | hk <;> rw [hk] at hpr <;> cases hpr
  · rw [hi] at hm
    exact absurd hm (Finset.notMem_empty _)
  · have hf := hpc ps p process hps hp
    simp only [StoredProcess.isClaimed, Bool.or_eq_false_iff, decide_eq_false_iff_not, ne_eq,
      not_not] at hf
    rcases hc with ha' | hm
    · rw [ha'] at hf
      cases hf.1
    · rw [hf.2] at hm
      exact absurd hm (Finset.notMem_empty _)

/-- A granted process call would leave the fence standing next to the claim it was given. -/
theorem Fencing.not_granted (hs : Sound sdk s) {call : Call sdk}
    (ht : call.processTarget = some id) : call.run.result s ≠ .ok .granted := by
  intro hgr
  obtain ⟨o', hct, hg⟩ := call.process_granted hs ht hgr
  have hc := (call.run_spec hs).chain
  have hsn : Sound sdk (call.run.final s) :=
    isChain_getLastD hc (fun _ _ hx hxy => hx.write hxy) hs
  by_cases ho : o' = o
  · -- the operation that fences would itself be a process operation
    subst ho
    obtain ⟨_, op, hop, hk⟩ := h
    obtain ⟨op', hop', hp, -⟩ := hg
    obtain ⟨op'', hop'', hk', -⟩ := isChain_getLastD hc
      (I := fun x => Journaled x o' op.kind op.containerId)
      (fun _ _ hx hxy => hx.write hxy) ⟨op, hop, rfl, rfl⟩
    cases hop'.symm.trans hop''
    rcases hk with hk | hk <;> rw [hk', hk] at hp <;> cases hp
  · have hkp : Fencing (call.run.final s) id o :=
      (isChain_getLastD hc (I := fun x => Sound sdk x ∧ Fencing x id o)
        (fun x y hx hxy => ⟨hx.1.write hxy, hx.2.write hx.1 (by rw [hct]; simpa using ho) hxy⟩)
        ⟨hs, h⟩).2
    exact hkp.no_process hsn hg

end

/-- **The fence.** In every state of every run, while a Delete or Checkpoint holds the claim of a
    container, no process operation owns its init process or one of its processes, and no exec,
    process signal or process I/O on it is granted. -/
theorem fence_excludes_processes {l : List Store} (h : Trace sdk l) (hs : s ∈ .empty :: l)
    {d : ContainerDirectory} {stored : StoredContainer} {op : StoredOperation}
    (hd : s.containers.get? id = some d) (hsto : d.record = some stored)
    (hc : stored.activeOperation = some o) (hop : s.operations.get? o = some op)
    (hk : op.kind = .delete ∨ op.kind = .checkpoint) :
    stored.initIoOperations = ∅ ∧
      (∀ ps p process, d.processes = some ps → ps.get? p = some process →
        process.activeOperation = none ∧ process.activeIoOperations = ∅) ∧
      ∀ call : Call sdk, call.processTarget = some id → call.run.result s ≠ .ok .granted := by
  have hsn := h.sound s hs
  have hf : Fencing s id o := by
    refine ⟨?_, op, hop, hk⟩
    rw [Store.lifecycleClaim, recordOf_eq_some.mpr ⟨d, hd, hsto⟩]
    exact hc
  obtain ⟨⟨hi, hpr⟩, -⟩ := hf.unowned hsn hd hsto
  refine ⟨hi, fun ps p process hps hp => ?_, fun call => hf.not_granted hsn⟩
  have hfr := hpr ps p process hps hp
  simpa only [StoredProcess.isClaimed, Bool.or_eq_false_iff, Option.isSome_eq_false_iff,
    Option.isNone_iff_eq_none, decide_eq_false_iff_not, ne_eq, not_not] using hfr

/-- A container with a process under a delete. -/
def Sample.deleting : List Store :=
  Program.visited Call.run .empty [(Sample.create Sample.opA, 9), (Sample.created Sample.opA, 9),
    (Sample.start Sample.opB, 9), (Sample.started Sample.opB, 9), (Sample.exec Sample.opC, 9),
    (.completeExec Sample.clock Sample.opC 8 false, 9), (Sample.delete Sample.opD, 9)]

theorem fence_of_delete : ∃ d ps process,
    (Sample.deleting.getLastD .empty).containers.get? Sample.web = some d ∧
      d.processes = some ps ∧ ps.get? Sample.shell = some process ∧
      (process.activeOperation = none ∧ process.activeIoOperations = ∅) ∧
      (Sample.exec Sample.opA).run.result (Sample.deleting.getLastD .empty) ≠ .ok .granted := by
  have hc : (Sample.deleting.getLastD .empty).lifecycleClaim Sample.web = some Sample.opD := by
    decide +kernel
  have hk : ((Sample.deleting.getLastD .empty).operations.get? Sample.opD).map (·.kind) =
      some .delete := by decide +kernel
  have hp : ((Sample.deleting.getLastD .empty).process?
      ⟨Sample.target, Sample.shell⟩).isSome = true := by
    decide +kernel
  obtain ⟨stored, hs, ha⟩ := Option.bind_eq_some_iff.mp hc
  obtain ⟨d, hd, hd'⟩ := recordOf_eq_some.mp hs
  obtain ⟨op, ho, ho'⟩ := Option.map_eq_some_iff.mp hk
  obtain ⟨process, hp⟩ := Option.isSome_iff_exists.mp hp
  unfold Store.process? at hp
  obtain ⟨d', hd'', hp⟩ := Option.bind_eq_some_iff.mp hp
  cases hd.symm.trans hd''
  obtain ⟨ps, hps, hp⟩ := Option.bind_eq_some_iff.mp hp
  have h := fence_excludes_processes (Trace.visited _) (getLastD_mem_cons _ _) hd hd' ha ho (.inl ho')
  exact ⟨d, ps, process, hd, hps, hp, h.2.1 ps _ process hps hp, h.2.2 _ rfl⟩

/-! ## The claim as a lock -/

/-- **The lifecycle claim is a lock.** In every state of every run, a call that does not act for the
    operation with the claim of a container leaves the claim where it is, wherever the call is cut,
    and is granted no lifecycle operation on the container. -/
theorem lifecycle_claim_is_a_lock (steps : List (Call sdk × Nat)) (call : Call sdk)
    (id : ContainerId) (o : OperationId)
    (hclaim : ((visited Call.run .empty steps).getLastD .empty).lifecycleClaim id = some o)
    (hactor : call.actor ((visited Call.run .empty steps).getLastD .empty) ≠ some o) :
    let s := (visited Call.run .empty steps).getLastD .empty
    (∀ t ∈ call.run.states s, t.lifecycleClaim id = some o) ∧
      (call.run.result s = .ok .granted → ∃ op, call.actor s = some op.operationId ∧
        (call.run.final s).operations.get? op.operationId = some op ∧
        ¬(op.isLifecycle = true ∧ op.containerId = id)) := by
  intro s
  have hs : Sound sdk s := (Trace.visited steps).sound s (getLastD_mem_cons _ _)
  have hk := isChain_invariant (call.run_spec hs).chain
    (I := fun x => Sound sdk x ∧ x.lifecycleClaim id = some o)
    (fun x y hx hw => ⟨hx.1.write hw, hw.claim_kept hx.1 hactor hx.2⟩) ⟨hs, hclaim⟩
  refine ⟨fun t ht => (hk t ht).2, fun hgr => ?_⟩
  obtain ⟨hf, hl⟩ := hk (call.run.final s) (getLastD_mem_cons _ _)
  obtain ⟨o', hct, op, hop, -, hcl⟩ := ((call.run_spec hs).of_result hgr).granted rfl
  obtain rfl := (hf.operations o' op hop).id_eq
  refine ⟨op, hct, hop, fun ⟨hlf, hi⟩ => hactor ?_⟩
  -- the granted operation would hold the claim itself
  obtain ⟨d, stored, hd, hok, -, hac⟩ := hf.holdsClaim_lifecycle hop hlf hcl
  rw [← hi, Store.lifecycleClaim, recordOf_eq_some.mpr ⟨d, hd, hok.loadable.record⟩] at hl
  exact hct.trans (hac.symm.trans hl)

/-- While `web` is deleted, another container can be created. -/
def Sample.createOther (o : OperationId) : Call Sample.sdk :=
  .prepareCreate Sample.clock
    { context := ⟨o, none⟩, id := ⟨⟨"db", by decide⟩⟩, bundle := Sample.bundle
      isolation := .sharedHostKernel, attachments := ⟨none, "manifest"⟩ }
    .nativeLinux none rfl

theorem lifecycle_claim_is_a_lock_other :
    let s := (visited Call.run .empty [(Sample.create Sample.opA, 9), (Sample.created Sample.opA, 9),
      (Sample.delete Sample.opB, 9)]).getLastD .empty
    (Sample.createOther Sample.opC).run.result s = .ok .granted ∧
      (∀ t ∈ (Sample.createOther Sample.opC).run.states s,
        t.lifecycleClaim Sample.web = some Sample.opB) ∧
      ∃ op, ((Sample.createOther Sample.opC).run.final s).operations.get? Sample.opC = some op ∧
        ¬(op.isLifecycle = true ∧ op.containerId = Sample.web) := by
  intro s
  have hg : (Sample.createOther Sample.opC).run.result s = .ok .granted := by decide +kernel
  obtain ⟨hk, hl⟩ := lifecycle_claim_is_a_lock [(Sample.create Sample.opA, 9),
    (Sample.created Sample.opA, 9), (Sample.delete Sample.opB, 9)] (Sample.createOther Sample.opC)
    Sample.web Sample.opB (by decide +kernel) (by decide)
  obtain ⟨op, ho, hop, hn⟩ := hl hg
  rw [← Option.some.inj ho] at hop
  exact ⟨hg, hk, op, hop, hn⟩

end OciRuntime
