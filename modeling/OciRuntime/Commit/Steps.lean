import OciRuntime.Commit.Preserve

/-!
# `OciRuntime.Commit.Steps` — what the shared pieces of the calls commit

Every call of the store is assembled from a few pieces: append an event, take or drop the lifecycle
claim, journal an operation, settle it. For each of them this module says, from a sound store, which
`Write` steps it makes and what its result and final state are; the calls are then verified by
composing these specifications.

## Contents
- **Composition.** `Sound.bind`: the continuation of a verified program starts in a sound store.
- **Events.** `appendEvent_spec` and its instances: only the event journal changes.
- **Claims.** `HoldsClaim` by kind of operation; `claimActiveOperation_spec`.
- **Journal.** `Pending`, `PendingOn`; `journal_spec`, `claim_spec`, `settle_spec`.
- **Calls.** `yields_lookup` and `Sound.completion`, how prepare and complete calls begin.
-/

namespace OciRuntime

open Durable Program

variable {sdk : Sdk} {actor : Option OperationId} {s t : Store} {id : ContainerId}

variable {generation : Nat} {o : OperationId}

/-! ## Composition -/

/-- Every step of the relation preserves the invariant, so the rest of a program may assume it. -/
theorem Sound.bind {α β : Type} {m : StoreM α} {f : α → StoreM β} {P : α → Store → Prop}
    {P' : β → Store → Prop} (hs : Sound sdk s) (hm : Yields (Write sdk actor) m s P)
    (hf : ∀ a t, Sound sdk t → P a t → Yields (Write sdk actor) (f a) t P') :
    Yields (Write sdk actor) (m >>= f) s P' :=
  Yields.bind_invariant (fun _ _ h hsp => h.write hsp) hs hm hf

/-! ## Events -/

section Events

variable {kind : RuntimeEventKind}

theorem Store.writeEventClaim_self (s : Store) (claim : StoredEventClaim) :
    (s.writeEventClaim claim).events.keys.get? claim.identity = some claim :=
  Directory.get?_write_self _ _ _

theorem OnlyEvents.writeCursor (s : Store) (last : Nat) : OnlyEvents s (s.writeCursor last) := rfl

theorem OnlyEvents.writeEventClaim (s : Store) (claim : StoredEventClaim) :
    OnlyEvents s (s.writeEventClaim claim) := rfl

/-- A program that only appends to the event journal. -/
abbrev Emits (sdk : Sdk) (actor : Option OperationId) (m : StoreM Unit) (s : Store) : Prop :=
  Yields (Write sdk actor) m s fun _ t => OnlyEvents s t

theorem ensureEventRecord_spec (hc : s.events.keys.get? i = some claim)
    (hev : claim.event = event) : Emits sdk actor (ensureEventRecord event) s := by
  subst hev
  refine .read_bind fun stored hst => ?_
  cases Except.ok.inj hst
  split
  · simp [Yields, OnlyEvents.refl]
  · rename_i ha
    exact .commit (.event (.record hc ha)) rfl

section
variable (hs : Sound sdk s)
include hs

theorem appendNewEvent_spec (hn : s.events.keys.get? i = none)
    (hi : ∀ event : RuntimeEvent, event.operationId = oid → event.attributes = ats →
      validateEventIdentity i event = .ok ())
    (hbs : ∀ event : RuntimeEvent, event.container = target → event.kind = kind →
      EventBasis s.operations i event) :
    Emits sdk actor (appendNewEvent clock i target oid processId kind ats) s := by
  refine .read_bind fun last hls => ?_
  refine .rejectIf_bind fun hb => ?_
  have hcr : Write sdk actor s (s.writeCursor (last + 1)) :=
    .event (.cursor hls (Nat.lt_of_not_le hb))
  refine .commit_bind hcr ?_
  refine .check_bind fun stamp _ => ?_
  refine .check_bind fun _ htg => ?_
  -- every claim made so far has reached at most the cursor's old value
  have hl : ∀ i' claim, s.events.keys.get? i' = some claim → claim.event.sequence < last + 1 := by
    intro i' claim hc
    have hle := (hs.events.bounded i' claim hc).2
    rw [loadEventCursor_ok hls] at hle
    exact Nat.lt_succ_of_le hle
  refine .commit_bind (.event (.claim hn htg (hi _ rfl rfl) rfl hl (hbs _ rfl rfl))) ?_
  refine (ensureEventRecord_spec (Store.writeEventClaim_self _ _) rfl).mono ?_
  intro _ t ht
  exact (OnlyEvents.writeCursor s (last + 1)).trans ((OnlyEvents.writeEventClaim _ _).trans ht)

theorem appendEvent_spec
    (hi : ∀ event : RuntimeEvent, event.operationId = oid → event.attributes = ats →
      validateEventIdentity i event = .ok ())
    (hb : ∀ event : RuntimeEvent, event.container = target → event.kind = kind →
      EventBasis s.operations i event) :
    Emits sdk actor (appendEvent clock i target oid processId kind ats) s := by
  refine .check_bind fun _ _ => ?_
  refine .read_bind fun claimed hcl => ?_
  cases Except.ok.inj hcl
  split
  · rename_i stored hst
    refine .read_bind fun claim hc => ?_
    refine .check_bind fun _ _ => ?_
    unfold loadEventClaim at hc
    simp only [bind_eq_ok, pure_eq_ok] at hc
    obtain ⟨_, _, _, _, _, _, _, _, _, _, rfl⟩ := hc
    exact ensureEventRecord_spec hst rfl
  · rename_i hn
    exact appendNewEvent_spec hs hn hi hb

theorem appendContainerEvent_spec (ht : eventAttribute ats "operation-id" = none)
    (hb : ∀ event : RuntimeEvent, event.container = .exact id generation → event.kind = kind →
      EventBasis s.operations (.container id generation suffix) event) :
    Emits sdk actor (appendContainerEvent clock suffix id generation kind ats) s := by
  refine appendEvent_spec hs ?_ hb
  intro event hp ht'
  simp [validateEventIdentity, hp, ht', ht]

theorem appendProcessEvent_spec (ht : eventAttribute ats "operation-id" = none)
    (hk : kind.lifecycleRank = none) :
    Emits sdk actor (appendProcessEvent clock suffix id generation pr kind ats) s := by
  refine appendEvent_spec hs ?_ fun event _ hev => .other (hev ▸ hk)
  intro event hp ht'
  simp [validateEventIdentity, hp, ht', ht]

theorem appendOperationEvent_spec
    (hb : ∀ event : RuntimeEvent, event.container = target → event.kind = kind →
      EventBasis s.operations (.operation o suffix) event) :
    Emits sdk actor (appendOperationEvent clock o suffix target kind ats) s := by
  refine appendEvent_spec hs ?_ hb
  intro event hp _
  simp [validateEventIdentity, hp]

/-! ### Events of one lifecycle -/

theorem appendStoppedEvent_spec : Emits sdk actor (appendStoppedEvent clock id generation) s :=
  appendContainerEvent_spec hs rfl fun _ hc hk =>
    .ended hc (.inl ⟨rfl, hk⟩)

theorem appendStoppedEventFor_spec :
    Emits sdk actor (appendStoppedEventFor clock id generation status) s := by
  unfold appendStoppedEventFor
  split
  · exact appendStoppedEvent_spec hs
  · exact .pure (.refl s)

theorem appendStartEvents_spec {status : ContainerState} {op : StoredOperation}
    (ho : JournaledAt s.operations id generation op) (hk : op.kind = .start) :
    Emits sdk actor (appendStartEvents clock id generation status) s := by
  refine hs.bind (appendContainerEvent_spec hs rfl fun _ hc hev =>
    .started hc hev ho hk) ?_
  intro _ t ht hst
  exact (appendStoppedEventFor_spec ht).mono fun _ u htu => hst.trans htu

end

end Events

/-! ## Claims -/

theorem not_isLifecycle_of_io {op : StoredOperation} (h : isProcessIoKind op.kind = true) :
    op.isLifecycle = false := by
  unfold StoredOperation.isLifecycle
  cases hk : op.kind <;> rw [hk] at h <;> first | rfl | cases h

theorem not_isLifecycle_of_process {op : StoredOperation} (hp : p ≠ .init)
    (hpc : op.processId = some p) (h : op.kind = .exec ∨ op.kind = .signalProcess) :
    op.isLifecycle = false := by
  unfold StoredOperation.isLifecycle
  rcases h with hk | hk <;> rw [hk]
  simp [hpc, hp]

section Claims

variable {stored : StoredContainer} {op : StoredOperation}

/-- A claim file that names an operation, by the kind of the operation. -/
theorem Sound.holdsClaim_cases (hs : Sound sdk s)
    (hop : s.operations.get? op.operationId = some op) (h : HoldsClaim s op) :
    ∃ d stored, s.containers.get? op.containerId = some d ∧
      RecordOk sdk s.operations op.containerId d stored ∧
      stored.record.generation = op.generation ∧
      ((stored.activeOperation = some op.operationId ∧ op.isLifecycle = true) ∨
        (op.operationId ∈ stored.initIoOperations ∧ op.isLifecycle = false ∧
          op.processId = some .init) ∨
        ∃ ps p pr, d.processes = some ps ∧ ps.get? p = some pr ∧ p ≠ .init ∧
          op.isLifecycle = false ∧ op.processId = some p ∧
          (pr.activeOperation = some op.operationId ∨ op.operationId ∈ pr.activeIoOperations)) := by
  obtain ⟨d, stored, hd, hr, hc⟩ := h
  have ho := (hs.containers _ d hd).record stored hr
  -- the operation that a claim names is the journaled one
  have hsm : ∀ {found : StoredOperation},
      JournaledAt s.operations op.containerId stored.record.generation found →
      found.operationId = op.operationId → found = op := by
    intro found hf heq
    exact Option.some.inj ((heq ▸ hf.found).symm.trans hop)
  rcases hc with ha | hi | ⟨ps, p, pr, hps, hp, hpc⟩
  · obtain ⟨found, hf, heq, hl, -⟩ := ho.active _ ha
    obtain rfl := hsm hf heq
    exact ⟨d, stored, hd, ho, hf.generation.symm, .inl ⟨ha, hl⟩⟩
  · obtain ⟨found, hf, heq, hn, hk⟩ := ho.io _ hi
    obtain rfl := hsm hf.toJournaledAt heq
    exact ⟨d, stored, hd, ho, hf.generation.symm, .inr (.inl ⟨hi, not_isLifecycle_of_io hk, hn⟩)⟩
  · have hpr := ho.processes ps p pr hps hp
    have hid : stored.id = op.containerId := ho.loadable.id_eq
    rcases hpc with ha | hi
    · obtain ⟨found, hf, heq, hpd, hk⟩ := hpr.active _ ha
      obtain rfl := hsm (hid ▸ hf.toJournaledAt) heq
      exact ⟨d, stored, hd, ho, hf.generation.symm, .inr (.inr ⟨ps, p, pr, hps, hp,
        hpr.not_init, not_isLifecycle_of_process hpr.not_init hpd hk, hpd,
        .inl ha⟩)⟩
    · obtain ⟨found, hf, heq, hpd, hk⟩ := hpr.io _ hi
      obtain rfl := hsm (hid ▸ hf.toJournaledAt) heq
      exact ⟨d, stored, hd, ho, hf.generation.symm, .inr (.inr ⟨ps, p, pr, hps, hp,
        hpr.not_init, not_isLifecycle_of_io hk, hpd, .inr hi⟩)⟩

/-- The only claim of a lifecycle operation is the one in the container record. -/
theorem Sound.holdsClaim_lifecycle (hs : Sound sdk s)
    (ho : s.operations.get? op.operationId = some op) (hl : op.isLifecycle = true)
    (h : HoldsClaim s op) :
    ∃ d stored, s.containers.get? op.containerId = some d ∧
      RecordOk sdk s.operations op.containerId d stored ∧
      stored.record.generation = op.generation ∧
      stored.activeOperation = some op.operationId := by
  obtain ⟨d, stored, hd, hok, hg, hc⟩ := hs.holdsClaim_cases ho h
  refine ⟨d, stored, hd, hok, hg, ?_⟩
  rcases hc with ⟨ha, -⟩ | ⟨-, ht, -⟩ | ⟨_, _, _, _, _, _, ht, -⟩
  · exact ha
  · rw [ht] at hl
    cases hl
  · rw [ht] at hl
    cases hl

/-- A lifecycle operation whose container record is unclaimed holds no claim. -/
theorem Sound.not_holdsClaim (hs : Sound sdk s) (ho : s.operations.get? op.operationId = some op)
    (hlf : op.isLifecycle = true) (hl : Live sdk s op.containerId stored)
    (hf : stored.activeOperation ≠ some op.operationId) : ¬HoldsClaim s op := by
  intro hc
  obtain ⟨d, found, hd, hok, -, ha⟩ := hs.holdsClaim_lifecycle ho hlf hc
  obtain rfl := hl.unique ⟨d, hd, hok.loadable⟩
  exact hf ha

/-- An operation of another generation than the live one holds no claim. -/
theorem Sound.not_holdsClaim_of_generation (hs : Sound sdk s)
    (ho : s.operations.get? op.operationId = some op) (hl : Live sdk s op.containerId stored)
    (hg : stored.record.generation ≠ op.generation) : ¬HoldsClaim s op := by
  intro hc
  obtain ⟨d, found, hd, hok, heq, -⟩ := hs.holdsClaim_cases ho hc
  obtain rfl := hl.unique ⟨d, hd, hok.loadable⟩
  exact hg heq

/-- An operation without a live container holds no claim. -/
theorem not_holdsClaim_of_absent (h : s.containers.get? op.containerId = none) :
    ¬HoldsClaim s op := by
  rintro ⟨d, stored, hd, -⟩
  rw [h] at hd
  cases hd

/-- In a sound store no lifecycle claim is a legacy I/O claim, so a claim is never migrated. -/
theorem vacateLifecycleClaim_ok (hs : Sound sdk s) (hlv : Live sdk s id stored)
    (h : vacateLifecycleClaim sdk stored mu name s = .ok vacated) :
    stored.activeOperation = none ∧ vacated = stored := by
  unfold vacateLifecycleClaim at h
  split at h
  · rename_i hn
    exact ⟨hn, (Except.ok.inj h).symm⟩
  · rename_i active ha
    obtain ⟨migrated, hm, h⟩ := bind_eq_ok.mp h
    obtain ⟨moved, hmv, -⟩ := bind_eq_ok.mp h
    rw [okOr_eq_ok] at hmv
    unfold migrateLegacyInitIoClaim at hm
    rw [ha] at hm
    obtain ⟨found, hf, hr⟩ := bind_eq_ok.mp hm
    obtain ⟨d, hd, ho⟩ := hlv.recordOk hs
    obtain ⟨holder, hh, heq, hl, -⟩ := ho.active _ ha
    cases (heq ▸ hh.found).symm.trans (loadOperation_ok.mp hf).1
    split at hr
    · subst hmv
      cases hr
    · rename_i hi
      rw [not_isLifecycle_of_io (by simpa using hi)] at hl
      cases hl

/-- What a change of the live record leaves behind. -/
structure Rewritten (sdk : Sdk) (s : Store) (id : ContainerId) (stored : StoredContainer)
    (t : Store) : Prop where
  live : Live sdk t id stored
  operations : t.operations = s.operations

theorem ActsOn.of_journaled (h : JournaledAt ops id generation op)
    (hc : actor = some op.operationId) : ActsOn ops actor id generation := by
  rintro o found rfl hf
  obtain rfl : op.operationId = o := (Option.some.inj hc).symm
  cases h.found.symm.trans hf
  exact ⟨h.container, h.generation⟩

theorem ActsOn.of_fresh (h : ops.get? o = none) : ActsOn ops (some o) id generation := by
  rintro _ op ⟨⟩ ho
  rw [h] at ho
  cases ho

theorem ActsOn.nobody : ActsOn ops none id generation := fun _ _ h => by cases h

/-- One rewrite of a live record. -/
theorem Live.write (hs : Sound sdk s) (hl : Live sdk s id a)
    (hc : ActsOn s.operations actor id a.record.generation)
    (hsp : ∀ d, s.containers.get? id = some d → RecordStep s.operations actor d a b) :
    Write sdk actor s (s.writeContainer b) ∧ Rewritten sdk s id b (s.writeContainer b) := by
  obtain ⟨d, hd, ho⟩ := hl.recordOk hs
  have hsp := hsp d hd
  have hi : b.id = id := hsp.sameContract.id_eq.trans ho.loadable.id_eq
  have heq : s.writeContainer b =
      s.setDirectory id { d with record := some b, recordTransaction := false } := by
    rw [Store.writeContainer_eq (hi ▸ hd), hi]
  rw [heq]
  refine ⟨.directory (hd ▸ .update ho.loadable hc hsp), ⟨_, Store.setDirectory_self .., ?_⟩, rfl⟩
  exact (ho.update hsp).loadable

theorem claimActiveOperation_spec (hs : Sound sdk s) (hl : Live sdk s id stored)
    (hp : PendingAt s.operations id stored.record.generation op)
    (hlf : op.isLifecycle = true) (ho : op.operationId = o) (hc : actor = some o)
    (hfc : op.kind.isFencing = true → ∀ d, s.containers.get? id = some d → Unowned d stored) :
    Yields (Write sdk actor) (claimActiveOperation sdk stored o mu name) s
      fun claimed t => claimed = { stored with activeOperation := some o } ∧
        Rewritten sdk s id claimed t := by
  subst ho
  unfold claimActiveOperation
  split
  · rename_i how
    have hsl : stored = { stored with activeOperation := some op.operationId } := by
      rw [← how]
    exact .pure ⟨hsl, hl, rfl⟩
  · refine .read_bind fun vacated hv => ?_
    obtain ⟨hfr, rfl⟩ := vacateLifecycleClaim_ok hs hl hv
    have hi := hl.id_eq
    obtain ⟨hw, hr⟩ := hl.write hs (.of_journaled hp.toJournaledAt hc) fun d hd =>
      .claim (hi ▸ hp) hlf hc hfr fun hf => hfc hf d hd
    exact .commit_bind hw (.pure ⟨rfl, hr⟩)

theorem ensureActiveOperation_ok : ensureActiveOperation stored o name = .ok () ↔
      stored.activeOperation = none ∨ stored.activeOperation = some o := by
  unfold ensureActiveOperation
  cases h : stored.activeOperation with
  | none => simp
  | some active => by_cases ha : active = o <;> simp [ha]

/-- The operation that may hold the lifecycle claim drops it, and the state advances. -/
theorem RecordStep.advance (hst : StateStep stored.record.state state)
    (hb : stored.record.state.status = .creating → state.status ≠ .creating →
      ∃ op, JournaledAt ops stored.id stored.record.generation op ∧
        (op.kind = .create ∧ state.status = .created ∨ op.kind = .restore ∧ state.status = .running))
    (ho : stored.activeOperation = none ∨ stored.activeOperation = some o)
    (hc : actor = some o) : RecordStep ops actor d stored
    { stored with record := { stored.record with state }, activeOperation := none } := by
  refine RecordStep.change hst hb ?_ subset_rfl
  rcases ho with hn | ho
  · exact .inl hn.symm
  · exact .inr ⟨rfl, ho.trans hc.symm⟩

/-- The operation that may hold the lifecycle claim drops it. -/
theorem RecordStep.release (hn : stored.record.state.Normal)
    (ho : stored.activeOperation = none ∨ stored.activeOperation = some o)
    (hc : actor = some o) : RecordStep ops actor d stored { stored with activeOperation := none } :=
  .advance (.refl hn) (fun h h' => absurd h h') ho hc

theorem Live.normal (hs : Sound sdk s) (hl : Live sdk s id stored) :
    stored.record.state.Normal := by
  obtain ⟨d, -, ho⟩ := hl.recordOk hs
  exact ho.normal

theorem releaseIfClaimed_spec (hs : Sound sdk s) (hl : Live sdk s id stored)
    (hcs : ActsOn s.operations actor id stored.record.generation)
    (ho : stored.activeOperation = none ∨ stored.activeOperation = some o)
    (hc : actor = some o) :
    Yields (Write sdk actor) (releaseIfClaimed stored) s fun _ t =>
      Rewritten sdk s id { stored with activeOperation := none } t := by
  unfold releaseIfClaimed
  split
  · obtain ⟨hw, hr⟩ := hl.write hs hcs fun d _ =>
      .release (hl.normal hs) ho hc
    exact .commit hw hr
  · rename_i hn
    have hsl : { stored with activeOperation := none } = stored := by rw [← hn]
    exact .pure ⟨hsl.symm ▸ hl, rfl⟩

end Claims

/-! ## The journal -/

/-- The operation may now be driven: it is pending and holds its claim. -/
def Granted (s : Store) (o : OperationId) : Prop :=
  ∃ op, s.operations.get? o = some op ∧ op.outcome = .prepared ∧ HoldsClaim s op

/-- The operation has its outcome. -/
def Settled (s : Store) (o : OperationId) : Prop :=
  ∃ op, s.operations.get? o = some op ∧ op.outcome ≠ .prepared

/-- What the answer of a call means for its operation: a grant leaves it pending with its claim
    held, and every other answer leaves it settled. -/
def Answered (grant : Bool) (o : OperationId) (s : Store) : Prop :=
  match grant with
  | true => Granted s o
  | false => Settled s o

/-- A prepare call: its steps are made for its operation, which its answer grants or finds settled. -/
abbrev Prepares {α β : Type} (sdk : Sdk) (o : OperationId) (m : StoreM (Preparation α β))
    (s : Store) : Prop :=
  Yields (Write sdk (some o)) m s fun r t => Answered r.isGrant o t

/-- A completion: its steps are made for its operation and settle it. -/
abbrev Settles {α : Type} (sdk : Sdk) (o : OperationId) (m : StoreM α) (s : Store) : Prop :=
  Yields (Write sdk (some o)) m s fun _ t => Settled t o

/-- The operation is journaled with this kind for this container. -/
def Journaled (s : Store) (o : OperationId) (kind : StoredOperationKind) (id : ContainerId) : Prop :=
  ∃ op, s.operations.get? o = some op ∧ op.kind = kind ∧ op.containerId = id

theorem Journaled.write (h : Journaled s o kind id) (hw : Write sdk actor s t) :
    Journaled t o kind id := by
  obtain ⟨op, ho, hk, hi⟩ := h
  obtain ⟨op', ho', hsm⟩ := hw.grows o op ho
  exact ⟨op', ho', hsm.kind.trans hk, hsm.container.trans hi⟩

/-- Whatever a program does, the operation it was started for stays journaled as it was. -/
theorem yields_and_journaled {α : Type} {m : StoreM α} {P : α → Store → Prop}
    (h : Yields (Write sdk actor) m s P) (hj : Journaled s o kind id) :
    Yields (Write sdk actor) m s fun r t => P r t ∧ Journaled t o kind id :=
  (h.and_invariant (fun _ _ hx hxy => hx.write hxy) hj).yields fun r _ hr => ⟨hr.1 r rfl, hr.2⟩

section Journal

variable {α : Type} {stored : StoredContainer} {op : StoredOperation} {kind : StoredOperationKind}
  {outcome : StoredOperationStatus} {P : α → Store → Prop}

/-- A journal entry of a sound store that has no outcome yet. -/
structure Pending (sdk : Sdk) (s : Store) (op : StoredOperation) : Prop where
  sound : Sound sdk s
  found : s.operations.get? op.operationId = some op
  prepared : op.outcome = .prepared

/-- A pending operation of a live generation. -/
structure PendingOn (sdk : Sdk) (s : Store) (op : StoredOperation) (stored : StoredContainer) :
    Prop extends Pending sdk s op where
  live : Live sdk s op.containerId stored
  generation : stored.record.generation = op.generation

/-- An outcome that the entry of an operation can hold. -/
structure Admissible (sdk : Sdk) (op : StoredOperation) (outcome : StoredOperationStatus) :
    Prop where
  settled : outcome ≠ .prepared
  shape : ({ op with outcome } : StoredOperation).shapeFault sdk = none

theorem Pending.ok (h : Pending sdk s op) : OperationOk sdk s op.operationId op :=
  h.sound.operations _ _ h.found

theorem Pending.on (h : Pending sdk s op)
    (hl : Live sdk s op.containerId stored ∧ stored.record.generation = op.generation) :
    PendingOn sdk s op stored :=
  ⟨h, hl.1, hl.2⟩

theorem Pending.congr (h : Pending sdk s op) (ht : Sound sdk t)
    (ho : t.operations = s.operations) : Pending sdk t op :=
  ⟨ht, by rw [ho, h.found], h.prepared⟩

namespace PendingOn

section
variable (h : PendingOn sdk s op stored)
include h

theorem pendingAt : PendingAt s.operations op.containerId stored.record.generation op :=
  ⟨⟨h.found, rfl, h.generation.symm⟩, h.prepared⟩

theorem acts : ActsOn s.operations (some op.operationId) op.containerId stored.record.generation :=
  .of_journaled h.pendingAt.toJournaledAt rfl

theorem normal : stored.record.state.Normal := h.live.normal h.sound

theorem onlyEvents (ht : Sound sdk t) (hst : OnlyEvents s t) : PendingOn sdk t op stored :=
  ⟨h.congr ht hst.operations, h.live.congr (by rw [hst.containers]), h.generation⟩

end

/-- One rewrite of the live record on behalf of the operation. -/
theorem write (h : PendingOn sdk s op a)
    (hsp : ∀ d, RecordStep s.operations (some op.operationId) d a b) :
    Write sdk (some op.operationId) s (s.writeContainer b) ∧
      PendingOn sdk (s.writeContainer b) op b := by
  obtain ⟨hw, hr⟩ := h.live.write h.sound h.acts fun d _ => hsp d
  refine ⟨hw, h.congr (h.sound.write hw) hr.operations, hr.live, ?_⟩
  obtain ⟨d, -, -⟩ := h.live
  rw [(hsp d).sameContract.generation, h.generation]

theorem granted (h : PendingOn sdk s op stored)
    (ha : stored.activeOperation = some op.operationId) : Granted s op.operationId := by
  obtain ⟨d, hd, hl⟩ := h.live
  exact ⟨op, h.found, h.prepared, d, stored, hd, hl.record, .inl ha⟩

end PendingOn

/-! ### Kinds of operations -/

theorem isLifecycle_of_kind (h : op.kind = kind) (hk : kind.isProcessOperation = false) :
    op.isLifecycle = true := by
  unfold StoredOperation.isLifecycle
  rw [h]
  cases kind <;> first | rfl | cases hk

/-- Only Delete and Checkpoint fence the processes. -/
theorem unfenced {Q : Prop} (h : op.kind = kind) (hk : kind.isFencing = false) :
    op.kind.isFencing = true → Q := by
  intro hf
  rw [h, hk] at hf
  cases hf

theorem ResponseBasis.of_kind (h : op.kind = kind)
    (hk : kind.bindsResponse = false ∧ kind ≠ .delete) (hn : outcome.Normal) :
    ResponseBasis sdk s op outcome :=
  .other (by rw [h, hk.1]) (fun hd => absurd (h.symm.trans hd) hk.2) hn

/-- A journaled response that is the live record, under any claims. -/
theorem ResponseBasis.of_live (hb : op.kind.bindsResponse = true)
    (hl : Live sdk s op.containerId stored) (hr : stored.record = rc)
    (hg : rc.generation = op.generation)
    (hc : op.kind = .create → rc.state.status = .created)
    (hst : op.kind = .start → 2 ≤ rc.state.status.rank) :
    ResponseBasis sdk s op (.succeeded rc) := by
  subst hr
  exact .record hb hl hg hc hst

/-! ### Outcomes -/

theorem settle_spec (h : Pending sdk s op) (ho : Admissible sdk op outcome)
    (hr : ¬HoldsClaim s op ∨ (op.kind.isCreation = true ∧ outcome.isFailed = true))
    (hrs : ResponseBasis sdk s op outcome) :
    Yields (Write sdk (some op.operationId)) (settle op outcome) s fun _ t =>
      t = s.writeOperation { op with outcome } ∧ Settled t op.operationId :=
  .commit (.operation rfl (.settle h.found h.prepared ho.settled ho.shape hr
    hrs)) ⟨rfl, _, Directory.get?_write_self _ _ _, ho.settled⟩

/-- A lifecycle operation that has dropped its claim gets its outcome. -/
theorem settle_free_spec (h : PendingOn sdk s op stored) (hl : op.isLifecycle = true)
    (hf : stored.activeOperation = none) (ho : Admissible sdk op outcome)
    (hrs : ResponseBasis sdk s op outcome) :
    Settles sdk op.operationId (settle op outcome) s := by
  have hr := h.sound.not_holdsClaim h.found hl h.live (by simp [hf])
  exact (settle_spec h.toPending ho (.inl hr) hrs).mono fun _ _ ht => ht.2

/-- The end of a lifecycle operation that has dropped its claim: its events, then its outcome. -/
theorem conclude_spec (h : PendingOn sdk s op stored) (hl : op.isLifecycle = true)
    (hf : stored.activeOperation = none) (ho : Admissible sdk op outcome)
    (hr : ∀ t, Live sdk t op.containerId stored → ResponseBasis sdk t op outcome)
    (hev : Emits sdk (some op.operationId) events s)
    (hP : ∀ t, Settled t op.operationId → P value t) :
    Yields (Write sdk (some op.operationId))
      (events >>= fun _ => settle op outcome >>= fun _ => pure value) s P := by
  refine h.sound.bind hev fun _ t ht hst => ?_
  have ht := h.onlyEvents ht hst
  refine Yields.bind (settle_free_spec ht hl hf ho (hr t ht.live)) ?_
  intro _ u hd
  exact .pure (hP u hd)

/-- Completion of a lifecycle operation: the record advances and drops the claim, then the
    operation's events and its outcome follow. -/
theorem complete_spec (h : PendingOn sdk s op a) (hl : op.isLifecycle = true)
    (hsp : ∀ d, RecordStep s.operations (some op.operationId) d a b)
    (hf : b.activeOperation = none) (ho : Admissible sdk op outcome)
    (hr : ∀ t, Live sdk t op.containerId b → ResponseBasis sdk t op outcome)
    (hev : ∀ t, PendingOn sdk t op b → Emits sdk (some op.operationId) events t)
    (hP : ∀ t, Settled t op.operationId → P value t) :
    Yields (Write sdk (some op.operationId))
      (commit (·.writeContainer b) >>= fun _ => events >>= fun _ => settle op outcome >>= fun _ =>
        pure value) s P := by
  obtain ⟨hw, ht⟩ := h.write hsp
  exact .commit_bind hw (conclude_spec ht hl hf ho hr (hev _ ht) hP)

/-- Completion of a lifecycle operation that has no events: sequencing with `pure ()` computes
    away. -/
theorem complete_quiet_spec (h : PendingOn sdk s op a) (hl : op.isLifecycle = true)
    (hsp : ∀ d, RecordStep s.operations (some op.operationId) d a b)
    (hf : b.activeOperation = none) (ho : Admissible sdk op outcome)
    (hr : ∀ t, Live sdk t op.containerId b → ResponseBasis sdk t op outcome)
    (hP : ∀ t, Settled t op.operationId → P value t) :
    Yields (Write sdk (some op.operationId))
      (commit (·.writeContainer b) >>= fun _ => settle op outcome >>= fun _ => pure value) s P := by
  have hev : ∀ t, PendingOn sdk t op b →
    Emits sdk (some op.operationId) (pure () : StoreM Unit) t := fun t _ => .pure (.refl t)
  exact complete_spec h hl hsp hf ho hr hev hP

/-- A retry that finds the operation's work done: drop the claim, then events and outcome. -/
theorem resettle_spec (h : PendingOn sdk s op stored) (hl : op.isLifecycle = true)
    (ho : stored.activeOperation = none ∨ stored.activeOperation = some op.operationId)
    (hou : Admissible sdk op outcome)
    (hrs : ∀ t, Live sdk t op.containerId { stored with activeOperation := none } →
      ResponseBasis sdk t op outcome)
    (hev : ∀ t, PendingOn sdk t op { stored with activeOperation := none } →
      Emits sdk (some op.operationId) events t)
    (hP : ∀ t, Settled t op.operationId → P value t) :
    Yields (Write sdk (some op.operationId))
      (releaseIfClaimed stored >>= fun _ => events >>= fun _ => settle op outcome >>= fun _ =>
        pure value) s P := by
  refine h.sound.bind (releaseIfClaimed_spec h.sound h.live h.acts ho rfl) ?_
  intro _ t ht hr
  have ht : PendingOn sdk t op { stored with activeOperation := none } :=
    ⟨h.congr ht hr.operations, hr.live, h.generation⟩
  exact conclude_spec ht hl rfl hou hrs (hev t ht) hP

/-! ### Claims of pending operations -/

/-- The claim of a pending operation, as the answer of a prepare call. -/
theorem claim_spec {answer : StoredContainer → α} (h : PendingOn sdk s op stored)
    (hl : op.isLifecycle = true)
    (hf : op.kind.isFencing = true → ∀ d, s.containers.get? op.containerId = some d → Unowned d stored)
    (hP : ∀ t, Granted t op.operationId →
      P (answer { stored with activeOperation := some op.operationId }) t) :
    Yields (Write sdk (some op.operationId))
      (claimActiveOperation sdk stored op.operationId mu name >>= fun claimed =>
        pure (answer claimed)) s P := by
  refine h.sound.bind (claimActiveOperation_spec h.sound h.live h.pendingAt hl rfl rfl hf) ?_
  rintro claimed t ht ⟨rfl, hr⟩
  have hc : PendingOn sdk t op { stored with activeOperation := some op.operationId } :=
    ⟨h.congr ht hr.operations, hr.live, h.generation⟩
  exact .pure (hP t (hc.granted rfl))

/-- A new operation on a live generation is journaled, then takes its claim. -/
theorem journal_spec {retained : Option StoredOperationRequest} {digest : RequestDigests}
    {answer : StoredContainer → α} (hs : Sound sdk s) (hn : s.operations.get? o = none)
    (hl : Live sdk s id stored)
    (hsh : (preparedOperation o kind id stored.record.generation none retained
      digest).shapeFault sdk = none)
    (hk : kind.isProcessOperation = false ∧ kind.isCreation = false)
    (hst : kind = .start → stored.record.state.status = .created)
    (hf : kind.isFencing = true → ∀ d, s.containers.get? id = some d → Unowned d stored)
    (hP : ∀ t, Granted t o → P (answer { stored with activeOperation := some o }) t) :
    Yields (Write sdk (some o)) (commit (·.writeOperation
          (preparedOperation o kind id stored.record.generation none retained digest)) >>= fun _ =>
        claimActiveOperation sdk stored o mu name >>= fun claimed => pure (answer claimed))
      s P := by
  have hg : JournalGuard
      (preparedOperation o kind id stored.record.generation none retained digest) stored := by
    refine ⟨fun h => ?_, fun _ => nofun, hst, hk.2⟩
    cases hk.1.symm.trans h
  have hw : Write sdk (some o) s (s.writeOperation
      (preparedOperation o kind id stored.record.generation none retained digest)) :=
    .operation rfl (.journal hn rfl hsh rfl hl rfl hg)
  have hp : Pending sdk (s.writeOperation
      (preparedOperation o kind id stored.record.generation none retained digest))
      (preparedOperation o kind id stored.record.generation none retained digest) :=
    ⟨hs.write hw, Directory.get?_write_self _ _ _, rfl⟩
  exact .commit_bind hw (claim_spec (hp.on ⟨hl.congr rfl, rfl⟩)
    (isLifecycle_of_kind rfl hk.1) hf hP)

end Journal

/-! ## Shapes -/

/-- Kinds whose journal entries keep the whole request. -/
def StoredOperationKind.retainsRequest : StoredOperationKind → Bool
  | .file | .filesystem | .checkpoint | .restore | .attest => true
  | _ => false

/-- Outcomes of the operations that do not keep their request. -/
def StoredOperationStatus.isPlain : StoredOperationStatus → Bool
  | .prepared | .succeeded _ | .succeededProcess _ | .succeededEmpty | .failed _ => true
  | _ => false

theorem shapeFault_plain {op : StoredOperation} (h : op.kind.retainsRequest = false) :
    op.shapeFault sdk = none ↔ op.request = none ∧ op.outcome.isPlain = true := by
  unfold StoredOperation.shapeFault
  cases hk : op.kind <;> rw [hk] at h <;> first
    | exact absurd h (by decide)
    | cases op.request <;> cases op.outcome <;> simp [StoredOperationStatus.isPlain]

/-- Settling an operation that keeps no request leaves its entry well formed. -/
theorem OperationOk.plain {op : StoredOperation} (h : OperationOk sdk s o op)
    (hk : op.kind = kind) (hr : kind.retainsRequest = false)
    (hp : outcome.isPlain = true) (hst : outcome ≠ .prepared) :
    Admissible sdk op outcome := by
  subst hk
  exact ⟨hst, (@shapeFault_plain sdk { op with outcome } hr).mpr
    ⟨((shapeFault_plain hr).mp h.shape).1, hp⟩⟩

/-! ## Loading -/

theorem validateRetry_eq_ok : validateRetry stored o kind id digests name = .ok () ↔
      stored.kind = kind ∧ stored.containerId = id ∧
        digests.forSchema stored.schemaVersion = some stored.requestDigest := by
  unfold validateRetry
  split
  · next h => simp [h]
  · next expected h =>
    split <;> grind

theorem validateRetry_ok (h : validateRetry stored o kind id digests name = .ok ()) :
    stored.kind = kind ∧ stored.containerId = id :=
  ⟨(validateRetry_eq_ok.mp h).1, (validateRetry_eq_ok.mp h).2.1⟩

/-- A requested generation is the one that was loaded. -/
theorem loadRequested_ok (h : loadRequested sdk target name s = .ok stored) :
    Live sdk s target.id stored ∧ target.generation.all (· = stored.record.generation) = true := by
  obtain ⟨found, hf, h⟩ := bind_eq_ok.mp h
  rw [loadStoredContainer_ok] at hf
  split at h
  · rename_i hn
    cases h
    exact ⟨hf, by rw [hn]; rfl⟩
  · rename_i expected hx
    split at h
    · cases h
    · rename_i hsm
      cases h
      refine ⟨hf, ?_⟩
      rw [hx]
      simpa using (not_not.mp hsm).symm

theorem loadForCompletion_ok (h : loadForCompletion sdk op name s = .ok stored) :
    Live sdk s op.containerId stored ∧ stored.record.generation = op.generation := by
  unfold loadForCompletion at h
  simp only [bind_eq_ok, rejectIf_eq_ok, pure_eq_ok, ne_eq, not_not] at h
  obtain ⟨found, hf, _, hg, rfl⟩ := h
  exact ⟨loadStoredContainer_ok.mp hf, hg⟩

section Calls

variable {α β : Type} {P : α → Store → Prop}

/-- The journal entry that a call has loaded. -/
theorem loadOperation_found (h : loadOperation sdk o s = .ok op) :
    s.operations.get? op.operationId = some op ∧ op.operationId = o := by
  obtain ⟨ho, -, hi, -⟩ := loadOperation_ok.mp h
  exact ⟨hi.symm ▸ ho, hi⟩

/-- A call that looks its operation up first. -/
theorem yields_lookup
    (hso : ∀ op, s.operations.get? op.operationId = some op → op.operationId = o →
      Yields (Write sdk actor) (next (some op)) s P)
    (hn : s.operations.get? o = none → Yields (Write sdk actor) (next none) s P) :
    Yields (Write sdk actor) (read (loadOperationIfPresent sdk o) >>= next) s P := by
  refine .read_bind fun journaled hj => ?_
  cases journaled with
  | some op =>
    obtain ⟨ho, hi⟩ := loadOperation_found (loadOperationIfPresent_some hj)
    exact hso op ho hi
  | none => exact hn (loadOperationIfPresent_none hj)

/-- A reader of outcomes that finds nothing exactly in a pending entry. -/
def ReadsOutcome (reader : StoredOperationStatus → Error → Result (Option β)) : Prop :=
  ∀ {outcome invalid done}, reader outcome invalid = .ok done → (done = none ↔ outcome = .prepared)

theorem recordOutcome_reads : ReadsOutcome recordOutcome := by
  intro outcome invalid done h
  cases outcome <;> cases h <;> simp

/-- A completion loads its operation, checks the kind, and repeats an outcome that is journaled
    already. -/
theorem Sound.completion {reader : StoredOperationStatus → Error → Result (Option β)}
    {kind : StoredOperationKind} {wrong invalid : StoredOperation → Error}
    {next : StoredOperation → Option β → StoreM α} (hs : Sound sdk s)
    (hr : ReadsOutcome reader)
    (hd : ∀ op rp, Yields (Write sdk (some o)) (next op (some rp)) s fun _ t => t = s)
    (hpn : ∀ op, Pending sdk s op → op.operationId = o → op.kind = kind →
      Settles sdk o (next op none) s) :
    Settles sdk o (read (loadOperation sdk o) >>= fun op =>
      rejectIf (op.kind ≠ kind) (wrong op) >>= fun _ =>
        check (reader op.outcome (invalid op)) >>= next op) s := by
  refine .read_bind fun op hl => ?_
  obtain ⟨ho, hi⟩ := loadOperation_found hl
  refine .rejectIf_bind fun hk => ?_
  refine .check_bind fun done hre => ?_
  cases done with
  | some rp =>
    refine (hd op rp).mono ?_
    rintro _ t rfl
    refine ⟨op, hi ▸ ho, fun hp => ?_⟩
    cases (hr hre).mpr hp
  | none => exact hpn op ⟨hs, ho, (hr hre).mp rfl⟩ hi (not_not.mp hk)

end Calls

end OciRuntime
