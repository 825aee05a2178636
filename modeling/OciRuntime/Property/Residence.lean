import OciRuntime.Commit.Calls

/-!
# `OciRuntime.Property.Residence` — where a generation lives, and how its status moves

Delete and a failed creation move whole directories to quarantine while the journal is committed
separately. A record is never lost: from any state it was written in, it stays live or lies in
quarantine. It is duplicated in one way only. A create or restore whose completion was cut stays
prepared in the journal, and when its container is deleted meanwhile, a retry writes the record of
the quarantined generation a second time, in status `Creating`. In runs without such a retry each
generation lives in exactly one place and its status never moves back.

## Contents
- **Places.** `Place`, `Store.recordAt`, `Write.recordAt_cases`, `Write.never_lost`.
- **Buried creations.** `Unburied`.
- **Runs.** `resides_once`, `status_forward`.
-/

namespace OciRuntime

open Durable Program

variable {sdk : Sdk} {actor : Option OperationId} {s t : Store} {id : ContainerId}
  {generation : Nat} {a b : StoredContainer}

/-! ## Places -/

/-- Where the record of a generation can lie. -/
inductive Place
  | live
  | quarantined (tombstone : Tombstone)
  deriving DecidableEq

/-- The record of the container found in a place. -/
def Store.recordAt (s : Store) (id : ContainerId) : Place → Option StoredContainer
  | .live => s.recordOf id
  | .quarantined tombstone =>
    ((s.quarantine.get? tombstone).bind (·.record)).filter fun stored => stored.id = id

theorem recordAt_quarantined : s.recordAt id (.quarantined tombstone) = some a ↔
      ∃ d, s.quarantine.get? tombstone = some d ∧ d.record = some a ∧ a.id = id := by
  simp only [Store.recordAt, Option.filter_eq_some_iff, Option.bind_eq_some_iff, decide_eq_true_eq]
  constructor
  · rintro ⟨⟨d, hd, hr⟩, hi⟩
    exact ⟨d, hd, hr, hi⟩
  · rintro ⟨d, hd, hr, hi⟩
    exact ⟨⟨d, hd, hr⟩, hi⟩

/-- Every record, live or quarantined, is in a state that the runtime writes. -/
theorem Sound.normal_at (hs : Sound sdk s) (h : s.recordAt id place = some a) :
    a.record.state.Normal := by
  cases place with
  | live =>
    obtain ⟨d, hd, hr⟩ := recordOf_eq_some.mp h
    exact ((hs.containers id d hd).record a hr).normal
  | quarantined tombstone =>
    obtain ⟨d, hd, hr, -⟩ := recordAt_quarantined.mp h
    obtain ⟨op, stored, ho⟩ := hs.quarantine tombstone d hd
    cases ho.loadable.record.symm.trans hr
    exact ho.normal

/-- **Origin of a record.** What lies in a place after a commit lay there before and has advanced,
    was just written by its pending creation, or was just moved there from its live directory. -/
theorem Write.recordAt_cases (hs : Sound sdk s) (h : Write sdk actor s t)
    (hb : t.recordAt id place = some b) :
    (∃ a, s.recordAt id place = some a ∧ Advances a b) ∨
      (place = .live ∧ s.recordOf id = none ∧ ∃ op, PendingCreation s.operations id op ∧
        b.record.generation = op.generation ∧ actor = some op.operationId) ∨
      ∃ tb d, place = .quarantined tb ∧
        s.quarantine.get? tb = none ∧ t.quarantine = s.quarantine.write tb d ∧
        s.recordOf id = some b ∧ t.recordOf id = none := by
  cases place with
  | live => exact (h.record_cases hs hb).imp_right fun hbr => .inl ⟨rfl, hbr⟩
  | quarantined tb =>
    obtain ⟨d, hd, hr, hi⟩ := recordAt_quarantined.mp hb
    have hsm : s.quarantine.get? tb = some d →
        ∃ a, s.recordAt id (.quarantined tb) = some a ∧ Advances a b := fun hd =>
      ⟨b, recordAt_quarantined.mpr ⟨d, hd, hr, hi⟩, .refl b⟩
    cases h with
    | operation => exact .inl (hsm hd)
    | generation => exact .inl (hsm hd)
    | directory => exact .inl (hsm hd)
    | @quarantine op moved stored name _ _ live loadable _ _ absent =>
      by_cases hn : tb = name
      · subst hn
        rw [Directory.get?_write_self] at hd
        cases hd
        cases loadable.record.symm.trans hr
        obtain rfl : op.containerId = id := loadable.id_eq.symm.trans hi
        refine .inr (.inr ⟨tb, d, rfl, absent, rfl, ?_, ?_⟩)
        · exact recordOf_eq_some.mpr ⟨d, live, hr⟩
        · simp only [Store.recordOf, Directory.get?_remove_self, Option.bind_none]
      · rw [Directory.get?_write_of_ne _ _ hn] at hd
        exact .inl (hsm hd)
    | event => exact .inl (hsm hd)

/-- The generation has a record somewhere. -/
def Resides (s : Store) (id : ContainerId) (generation : Nat) (place : Place) : Prop :=
  ∃ stored, s.recordAt id place = some stored ∧ stored.record.generation = generation

/-- **No record is lost**, whatever the commit. -/
theorem Write.never_lost (hs : Sound sdk s) (h : Write sdk actor s t)
    (hp : Resides s id generation place) : ∃ place', Resides t id generation place' := by
  obtain ⟨a, ha, rfl⟩ := hp
  cases place with
  | live =>
    cases hb : t.recordOf id with
    | some b =>
      rcases h.record_cases hs hb with ⟨a', ha', had⟩ | ⟨hn, -⟩
      · cases ha'.symm.trans ha
        exact ⟨.live, b, hb, had.generation⟩
      · exact absurd (hn.symm.trans ha) (by simp)
    | none =>
      obtain ⟨_, tb, d, -, -, -, hd, hr, hi⟩ := h.record_gone hs ha hb
      exact ⟨.quarantined tb, a, recordAt_quarantined.mpr ⟨d, hd, hr, hi⟩, rfl⟩
  | quarantined tb =>
    obtain ⟨d, hd, hr, hi⟩ := recordAt_quarantined.mp ha
    exact ⟨.quarantined tb, a, recordAt_quarantined.mpr ⟨d, h.quarantine_kept hd, hr, hi⟩, rfl⟩

/-! ## Buried creations -/

/-- A record of the generation lies in quarantine. -/
def Store.isBuried (s : Store) (id : ContainerId) (generation : Nat) : Bool :=
  s.quarantine.entries.any fun entry => entry.2.record.any fun stored =>
    stored.id = id && stored.record.generation = generation

theorem isBuried_iff : s.isBuried id generation = true ↔
      ∃ tb, Resides s id generation (.quarantined tb) := by
  simp only [Store.isBuried, List.any_eq_true, Option.any_eq_true, Bool.and_eq_true,
    decide_eq_true_eq, Prod.exists, Directory.mem_entries, Resides, recordAt_quarantined]
  constructor
  · rintro ⟨tb, d, hd, c, hr, hi, hg⟩
    exact ⟨tb, c, ⟨d, hd, hr, hi⟩, hg⟩
  · rintro ⟨tb, c, ⟨d, hd, hr, hi⟩, hg⟩
    exact ⟨tb, d, hd, c, hr, hi, hg⟩

/-- If the operation is a pending creation, its generation does not lie in quarantine. -/
def Unburied (actor : Option OperationId) (s : Store) : Prop :=
  ∀ o ∈ actor, ∀ op ∈ s.operations.get? o, op.kind.isCreation = true → op.outcome = .prepared →
    s.isBuried op.containerId op.generation = false

instance (actor : Option OperationId) (s : Store) : Decidable (Unburied actor s) := by
  unfold Unburied
  infer_instance

/-- A call is not made for a pending creation whose generation lies in quarantine. -/
def Call.Unburied (s : Store) (call : Call sdk) : Prop :=
  OciRuntime.Unburied (call.actor s) s

instance (s : Store) (call : Call sdk) : Decidable (call.Unburied s) :=
  inferInstanceAs (Decidable (OciRuntime.Unburied (call.actor s) s))

/-- Within a call, a creation buries its own record only once it has failed. -/
theorem Unburied.write (h : Unburied actor s) (hs : Sound sdk s) (hw : Write sdk actor s t) :
    Unburied actor t := by
  intro o ho op hop hk hp
  rw [Bool.eq_false_iff]
  intro hbr
  obtain ⟨tb, b, hb, hg⟩ := isBuried_iff.mp hbr
  rcases hw.pending_cases hop hk hp with hold | ⟨rfl, -, hfs⟩
  · have hsp := h o ho op hold hk hp
    rcases hw.recordAt_cases hs hb with ⟨a, ha, had⟩ | ⟨hl, -⟩ | ⟨_, _, -, -, -, hl, hgn⟩
    · rw [isBuried_iff.mpr ⟨tb, a, ha, had.generation.symm.trans hg⟩] at hsp
      cases hsp
    · cases hl
    · obtain ⟨mover, _, _, hm, hac, hgr, -⟩ := hw.record_gone hs hl hgn
      obtain rfl : o = mover.operationId := Option.some.inj (ho.symm.trans hac)
      obtain rfl : mover = op := Option.some.inj (hm.symm.trans hold)
      cases hgr with
      | deleted hdl => rw [hdl] at hk; cases hk
      | failed _ hf => rw [hp] at hf; cases hf
  · -- the creation was just journaled: it is the first operation of its generation
    obtain ⟨d, hd, hr, hi⟩ := recordAt_quarantined.mp hb
    obtain ⟨other, stored, hok⟩ := hs.quarantine tb d hd
    cases hok.loadable.record.symm.trans hr
    exact hfs _ other hok.found (hok.loadable.id_eq.symm.trans hi) (hok.generation.symm.trans hg)

/-- One commit of a call for an operation that is not buried. -/
def UnburiedCommit (sdk : Sdk) (s t : Store) : Prop :=
  ∃ actor, Write sdk actor s t ∧ Unburied actor s

theorem GuardedTrace.unburied (h : GuardedTrace sdk (fun s call => call.Unburied s) l) :
    List.IsChain (UnburiedCommit sdk) (.empty :: l) :=
  GuardedTrace.commits h fun _ _ _ hs hu hw => hu.write hs hw

/-- A record that is just written belongs to a generation that resided nowhere. -/
theorem Unburied.born_nowhere (h : Unburied actor s)
    (hp : PendingCreation s.operations id op) (hac : actor = some op.operationId)
    (hn : s.recordOf id = none) (place : Place) : ¬Resides s id op.generation place := by
  rintro ⟨a, ha, hg⟩
  cases place with
  | live => exact absurd (hn.symm.trans ha) (by simp)
  | quarantined tombstone =>
    have hs := h op.operationId hac op hp.found hp.kind hp.prepared
    rw [hp.container, isBuried_iff.mpr ⟨tombstone, a, ha, hg⟩] at hs
    cases hs

/-! ## Runs -/

/-- No generation has two records. -/
def ResidesOnce (s : Store) : Prop :=
  ∀ id generation place place', Resides s id generation place → Resides s id generation place' →
    place = place'

/-- The generation has a record, and no record of it is below the rank. -/
structure ReachedRank (id : ContainerId) (generation rank : Nat) (s : Store) : Prop where
  somewhere : ∃ place, Resides s id generation place
  reached : ∀ place b, s.recordAt id place = some b → b.record.generation = generation →
    rank ≤ b.record.state.status.rank

/-- After a commit, a record that was in its place before is the only one of its generation. -/
theorem ResidesOnce.old (h : ResidesOnce s) (hs : Sound sdk s) (hw : Write sdk actor s t)
    (hu : Unburied actor s) (hold : Resides s id generation place)
    (hp : Resides t id generation place) (hp' : Resides t id generation place') :
    place = place' := by
  obtain ⟨b, hb, rfl⟩ := hp
  obtain ⟨b', hb', hsm⟩ := hp'
  rcases hw.recordAt_cases hs hb' with ⟨a', ha', had⟩ |
    ⟨rfl, hn, op, hpn, hg, hac⟩ | ⟨tombstone, d, rfl, -, -, hl, hgn⟩
  · exact h _ _ _ _ hold ⟨a', ha', had.generation.symm.trans hsm⟩
  · -- a new record would be the second one of a generation that resides somewhere
    rw [← hsm, hg] at hold
    exact absurd hold (hu.born_nowhere hpn hac hn place)
  · -- the moved record was the only one, and it has left its live directory
    obtain rfl : place = .live := h _ _ _ _ hold ⟨b', hl, hsm⟩
    exact absurd (hgn.symm.trans hb) (by simp)

theorem ResidesOnce.write (h : ResidesOnce s) (hs : Sound sdk s) (hcm : UnburiedCommit sdk s t) :
    ResidesOnce t := by
  obtain ⟨actor, hw, hu⟩ := hcm
  intro id generation place place' hp hp'
  have hc := hp
  have hc' := hp'
  obtain ⟨b, hb, hg⟩ := hc
  obtain ⟨b', hb', hg'⟩ := hc'
  rcases hw.recordAt_cases hs hb with ⟨a, ha, had⟩ | ⟨rfl, hn, -⟩ |
    ⟨tombstone, d, rfl, -, hq, hl, -⟩
  · exact h.old hs hw hu ⟨a, ha, had.generation.symm.trans hg⟩ hp hp'
  · rcases hw.recordAt_cases hs hb' with ⟨a', ha', had'⟩ | ⟨rfl, -⟩ | ⟨_, _, -, -, -, hl', -⟩
    · exact (h.old hs hw hu ⟨a', ha', had'.generation.symm.trans hg'⟩ hp' hp).symm
    · rfl
    · exact absurd (hn.symm.trans hl') (by simp)
  · rcases hw.recordAt_cases hs hb' with ⟨a', ha', had'⟩ | ⟨rfl, hn', -⟩ |
      ⟨tombstone', _, rfl, hab', -⟩
    · exact (h.old hs hw hu ⟨a', ha', had'.generation.symm.trans hg'⟩ hp' hp).symm
    · exact absurd (hn'.symm.trans hl) (by simp)
    · -- one commit writes one tombstone
      by_contra hne
      have ht : tombstone' ≠ tombstone := fun h => hne (by rw [h])
      obtain ⟨d', hd', -⟩ := recordAt_quarantined.mp hb'
      rw [hq, Directory.get?_write_of_ne _ _ ht, hab'] at hd'
      cases hd'

theorem ReachedRank.write (h : ReachedRank id generation rank s) (hs : Sound sdk s)
    (hc : UnburiedCommit sdk s t) : ReachedRank id generation rank t := by
  obtain ⟨actor, hw, hu⟩ := hc
  obtain ⟨place, hp⟩ := h.somewhere
  refine ⟨hw.never_lost hs hp, fun place' b hb hg => ?_⟩
  rcases hw.recordAt_cases hs hb with ⟨a, ha, had⟩ |
    ⟨rfl, hn, op, hpn, hbr, hac⟩ | ⟨_, _, rfl, -, -, hl, -⟩
  · exact (h.reached place' a ha (had.generation.symm.trans hg)).trans had.rank
  · rw [← hg, hbr] at hp
    exact absurd hp (hu.born_nowhere hpn hac hn place)
  · exact h.reached .live b hl hg

/-- Every state of a run without buried creations. -/
theorem GuardedTrace.residesOnce (h : GuardedTrace sdk (fun s call => call.Unburied s) l) :
    ∀ s ∈ .empty :: l, Sound sdk s ∧ ResidesOnce s := by
  refine isChain_invariant h.unburied (fun x y hx hxy => ?_) ⟨.empty sdk, ?_⟩
  · exact ⟨hx.1.write hxy.choose_spec.1, hx.2.write hx.1 hxy⟩
  · rintro id generation place place' ⟨a, ha, -⟩ -
    cases place with
    | live => cases ha
    | quarantined => cases ha

/-- What holds in a state of such a run and is preserved by its commits holds in all later states. -/
theorem GuardedTrace.later_unburied {I : Store → Prop}
    (h : GuardedTrace sdk (fun s call => call.Unburied s) l)
    (hl : .empty :: l = before ++ s :: later)
    (hst : ∀ x y, Sound sdk x → I x → UnburiedCommit sdk x y → I y) (hs : I s) :
    ∀ t ∈ s :: later, (Sound sdk t ∧ ResidesOnce t) ∧ I t := by
  have hc := h.unburied
  rw [hl] at hc
  have hm : ∀ t ∈ s :: later, t ∈ .empty :: l := fun t ht => hl ▸ List.mem_append_right _ ht
  have ha := isChain_invariant hc.right_of_append (fun x y (hx : Sound sdk x ∧ I x) hxy =>
      ⟨hx.1.write hxy.choose_spec.1, hst x y hx.1 hx.2 hxy⟩)
    ⟨(h.residesOnce s (hm s List.mem_cons_self)).1, hs⟩
  exact fun t ht => ⟨h.residesOnce t (hm t ht), (ha t ht).2⟩

/-- **One place.** In a run that makes no call for a pending creation whose generation lies in
    quarantine, a generation whose record was once written is afterwards in exactly one place, as
    the live directory of its ID or as one quarantine entry. -/
theorem resides_once {l before later : List Store} {place : Place}
    (h : GuardedTrace sdk (fun s call => call.Unburied s) l)
    (hl : .empty :: l = before ++ s :: later) (hplace : Resides s id generation place)
    (ht : t ∈ s :: later) : ∃! place', Resides t id generation place' := by
  obtain ⟨⟨-, hn⟩, place', hplace'⟩ := h.later_unburied hl
    (I := fun x => ∃ place, Resides x id generation place)
    (fun x y hx hr hxy => hxy.choose_spec.1.never_lost hx hr.choose_spec)
    ⟨place, hplace⟩ t ht
  exact ⟨place', hplace', fun other hth => hn _ _ _ _ hth hplace'⟩

/-- The first generation is in quarantine when its directory was moved, and nowhere else when the
    second one is created. -/
theorem resides_once_recreated :
    (∃ tombstone, Resides (Sample.recreation.getD 15 .empty) Sample.web 1 (.quarantined tombstone)) ∧
      ∃! place, Resides (Sample.recreation.getD 35 .empty) Sample.web 1 place := by
  have hb : (Sample.recreation.getD 15 .empty).isBuried Sample.web 1 = true := by decide +kernel
  obtain ⟨tombstone, hp⟩ := isBuried_iff.mp hb
  have hr : GuardedTrace Sample.sdk (fun s call => call.Unburied s) Sample.recreation :=
    CrashTrace.visited (by decide +kernel)
  obtain ⟨before, later, hl, ht⟩ := cons_eq_append_getD .empty .empty (l := Sample.recreation)
    (show 15 ≤ 35 by decide) (by decide +kernel)
  exact ⟨⟨tombstone, hp⟩, resides_once hr hl hp ht⟩

/-- The completion of a create is cut once the record is written, the container is deleted, and the
    create is retried. -/
def Sample.revived : List Store :=
  Program.visited Call.run .empty [(Sample.create Sample.opA, 9), (Sample.created Sample.opA, 1),
    (Sample.delete Sample.opB, 9), (.completeDelete Sample.clock Sample.opB, 9),
    (Sample.create Sample.opA, 9)]

/-- **A retry duplicates a deleted generation.** -/
theorem deleted_generation_revived : Trace Sample.sdk Sample.revived ∧
      Resides (Sample.revived.getLastD .empty) Sample.web 1 .live ∧
      Resides (Sample.revived.getLastD .empty) Sample.web 1 (.quarantined ⟨Sample.opB, .deleted⟩) ∧
      ¬∃! place, Resides (Sample.revived.getLastD .empty) Sample.web 1 place := by
  have hl : ((Sample.revived.getLastD .empty).recordAt Sample.web .live).map
      (·.record.generation) = some 1 := by decide +kernel
  have hb : ((Sample.revived.getLastD .empty).recordAt Sample.web
      (.quarantined ⟨Sample.opB, .deleted⟩)).map (·.record.generation) = some 1 := by decide +kernel
  have hl := Option.map_eq_some_iff.mp hl
  have hb := Option.map_eq_some_iff.mp hb
  refine ⟨Trace.visited _, hl, hb, fun h => ?_⟩
  exact absurd (h.unique hl hb) (by decide)

/-- **Statuses move forward.** In such a run, a later record of a generation never has an earlier
    status; its process ID fits the status, and it is marked paused only while running. -/
theorem status_forward {l before later : List Store} {place place' : Place}
    (h : GuardedTrace sdk (fun s call => call.Unburied s) l)
    (hl : .empty :: l = before ++ s :: later) (ha : s.recordAt id place = some a)
    (ht : t ∈ s :: later) (hb : t.recordAt id place' = some b)
    (hgen : b.record.generation = a.record.generation) :
    a.record.state.status.rank ≤ b.record.state.status.rank ∧
      PidFits b.record.state.status b.record.state.pid ∧
      (isPaused b.record.state = true → b.record.state.status = .running) := by
  have hf : ReachedRank id a.record.generation a.record.state.status.rank s := by
    have hnc := (h.residesOnce s (hl ▸ List.mem_append_right _ List.mem_cons_self)).2
    refine ⟨⟨place, a, ha, rfl⟩, fun other c hc hsm => ?_⟩
    obtain rfl := hnc id _ _ _ ⟨a, ha, rfl⟩ ⟨c, hc, hsm⟩
    cases ha.symm.trans hc
    exact le_rfl
  obtain ⟨⟨hs, -⟩, hr⟩ := h.later_unburied hl (fun x y hx hrn => hrn.write hx) hf t ht
  have hn := hs.normal_at hb
  refine ⟨hr.reached place' b hb hgen, hn.pid, fun hp => ?_⟩
  exact (hn.flag _ (isPaused_iff.mp hp)).2

/-- The record of the first generation, when it is first written and in quarantine. -/
theorem status_forward_recreated :
    ∃ a b tombstone, (Sample.recreation.getD 4 .empty).recordAt Sample.web .live = some a ∧
      (Sample.recreation.getD 35 .empty).recordAt Sample.web (.quarantined tombstone) = some b ∧
      a.record.state.status = .creating ∧
      a.record.state.status.rank ≤ b.record.state.status.rank ∧
      PidFits b.record.state.status b.record.state.pid := by
  have ha : ((Sample.recreation.getD 4 .empty).recordAt Sample.web .live).map
      (fun a => (a.record.state.status, a.record.generation)) = some (.creating, 1) := by
    decide +kernel
  obtain ⟨a, ha, hst⟩ := Option.map_eq_some_iff.mp ha
  obtain ⟨hst, hag⟩ := Prod.mk.inj hst
  have hb : (Sample.recreation.getD 35 .empty).isBuried Sample.web 1 = true := by decide +kernel
  obtain ⟨tombstone, b, hb, hbg⟩ := isBuried_iff.mp hb
  have hr : GuardedTrace Sample.sdk (fun s call => call.Unburied s) Sample.recreation :=
    CrashTrace.visited (by decide +kernel)
  obtain ⟨before, later, hl, ht⟩ := cons_eq_append_getD .empty .empty (l := Sample.recreation)
    (show 4 ≤ 35 by decide) (by decide +kernel)
  obtain ⟨hf, hp, -⟩ := status_forward hr hl ha ht hb (hbg.trans hag.symm)
  exact ⟨a, b, tombstone, ha, hb, hst, hf, hp⟩

/-- **A retry moves a status back.** Generation one is recorded as created, and later as creating. -/
theorem revived_generation_is_creating : Trace Sample.sdk Sample.revived ∧
      [some (1, ContainerState.created), some (1, ContainerState.creating)].Sublist
        (Sample.revived.map fun s => (s.recordOf Sample.web).map fun stored =>
          (stored.record.generation, stored.record.state.status)) :=
  ⟨Trace.visited _, by decide +kernel⟩

end OciRuntime
