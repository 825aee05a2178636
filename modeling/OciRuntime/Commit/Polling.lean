import OciRuntime.Commit.Steps
import OciRuntime.State.EventPoll

/-!
# `OciRuntime.Commit.Polling` — a poll of a sound store succeeds, and what it returns

From a sound store a poll only adds the records of events that are claimed already, never fails, and
returns the matching records of an interval of sequences: those after the requested sequence and up
to the `nextSequence` it reports.

## Contents
- **Repair.** `Repaired`, `repairPendingEventRecords_delivers`.
- **Pages.** `fillPage_spec`: a page is what matches in a part of the sorted records.
- **The poll.** `IsPage`, `pollEvents_delivers`.
-/

namespace OciRuntime

open Durable Program

variable {s t u : Store}

/-! ## Repair -/

/-- The record of an event. -/
def RuntimeEvent.stored (event : RuntimeEvent) : StoredEventRecord :=
  ⟨eventRecordSchemaVersion, event⟩

/-- The event is visible: its record is stored. -/
def Store.Published (s : Store) (event : RuntimeEvent) : Prop :=
  s.events.records.get? event.sequence = some event.stored

/-- Records have been added, nothing else has changed in the event journal. -/
structure Repaired (s t : Store) : Prop where
  keys : t.events.keys = s.events.keys
  cursor : t.events.cursor = s.events.cursor
  kept : ∀ n record, s.events.records.get? n = some record → t.events.records.get? n = some record

theorem Repaired.refl (s : Store) : Repaired s s := ⟨rfl, rfl, fun _ _ h => h⟩

theorem Repaired.trans (h : Repaired s t) (h' : Repaired t u) : Repaired s u :=
  ⟨h'.keys.trans h.keys, h'.cursor.trans h.cursor, fun n r hr => h'.kept n r (h.kept n r hr)⟩

/-- A sound store has at most one event for each sequence. -/
theorem Sound.published_of_claim (hs : Sound sdk s) (hc : s.events.keys.get? identity = some claim)
    (hr : s.events.records.get? claim.event.sequence = some record) :
    record = claim.event.stored := by
  obtain ⟨identity', claim', hc', hsm, rfl⟩ := hs.events.records _ _ hr
  obtain rfl := hs.events.distinct _ _ _ _ hc' hc hsm
  rw [Option.some.inj (hc'.symm.trans hc)]
  rfl

theorem ensureEventRecord_delivers (hs : Sound sdk s)
    (hc : s.events.keys.get? identity = some claim) :
    Delivers (Write sdk none) (ensureEventRecord claim.event) s fun _ t =>
      Repaired s t ∧ t.Published claim.event := by
  refine .read_bind rfl ?_
  split
  · rename_i actual hac
    obtain rfl := hs.published_of_claim hc hac
    rw [Delivers, ensures_rejectIf]
    exact ⟨fun hd => absurd rfl hd, fun _ => ⟨(), rfl, .refl s, hac⟩⟩
  · rename_i ha
    refine .commit (.event (.record hc ha)) ⟨⟨rfl, rfl, ?_⟩, ?_⟩
    · intro n record hr
      refine (Directory.get?_write_of_ne _ _ ?_).trans hr
      rintro rfl
      exact absurd (ha.symm.trans hr) (by simp)
    · exact Directory.get?_write_self _ _ _

/-- The loop over the claims: those in `l` get their records, those before it have been seen. -/
theorem repairEventClaims_delivers (hs : Sound sdk s) (hl : s.events.last = last)
    (hf : ∀ e ∈ l, s.events.keys.get? e.1 = some e.2)
    (hn : ∀ e ∈ l, e.2.event.sequence ∉ claimed) (hds : (l.map Prod.fst).Nodup) :
    Delivers (Write sdk none) (repairEventClaims last claimed l) s fun all t =>
      Repaired s t ∧ (∀ e ∈ l, t.Published e.2.event) ∧
        ∀ n, n ∈ all ↔ n ∈ claimed ∨ ∃ e ∈ l, e.2.event.sequence = n := by
  induction l generalizing claimed s with
  | nil => exact .pure ⟨.refl s, by simp, by simp⟩
  | cons e rest ih =>
    obtain ⟨identity, claim⟩ := e
    have he := hs.events
    have hc : s.events.keys.get? identity = some claim := hf _ List.mem_cons_self
    obtain ⟨hh, htl⟩ := List.nodup_cons.mp hds
    obtain ⟨hsc, hd⟩ := he.schema _ _ hc
    obtain ⟨hpo, hb⟩ := he.bounded _ _ hc
    refine .rejectIf_bind (by simp [hsc, hd]; omega) ?_
    refine .check_bind (he.target _ _ hc) ?_
    refine .check_bind (hd ▸ he.identified _ _ hc) ?_
    refine .rejectIf_bind (hn _ List.mem_cons_self) ?_
    refine Delivers.bind_invariant (fun _ _ h hst => h.write hst) hs
      (ensureEventRecord_delivers hs hc) fun _ t ht hps => ?_
    obtain ⟨hr, hp⟩ := hps
    have hl' : t.events.last = last := by
      rw [← hl, EventJournal.last, hr.cursor]
      rfl
    refine (ih ht hl' ?_ ?_ htl).mono fun all u hu => ?_
    · intro other hth
      rw [hr.keys]
      exact hf other (List.mem_cons_of_mem _ hth)
    · intro other hth hm
      rcases List.mem_cons.mp hm with hsm | hm
      · -- two claims of one sequence would be claims of one identity
        have hth' := hf other (List.mem_cons_of_mem _ hth)
        have heq := he.distinct _ _ _ _ hth' hc hsm
        exact hh (List.mem_map.mpr ⟨other, hth, heq⟩)
      · exact hn other (List.mem_cons_of_mem _ hth) hm
    · obtain ⟨hrs, hso, ha⟩ := hu
      refine ⟨hr.trans hrs, ?_, fun n => ?_⟩
      · intro other hth
        rcases List.mem_cons.mp hth with rfl | hth
        · exact hrs.kept _ _ hp
        · exact hso other hth
      · rw [ha]
        simp only [List.mem_cons, exists_eq_or_imp]
        tauto

/-- Every claimed event is visible. -/
def Store.Complete (s : Store) : Prop :=
  ∀ identity claim, s.events.keys.get? identity = some claim → s.Published claim.event

theorem repairPendingEventRecords_delivers (hs : Sound sdk s) :
    Delivers (Write sdk none) repairPendingEventRecords s fun claimed t =>
      Repaired s t ∧ t.Complete ∧ ∀ n, n ∈ claimed ↔ ∃ i claim, s.events.keys.get? i = some claim ∧
          claim.event.sequence = n := by
  refine .read_bind (loadEventCursor_last hs.events) ?_
  refine .read_bind (a := s.events.keys.entries) ?_ ?_
  · simp [listEvents, hs.events.strays.2.1]
  · refine (repairEventClaims_delivers hs rfl (fun _ hen => Directory.mem_entries.mp hen)
      (by simp) s.events.keys.nodup_keys).mono fun claimed t ht => ?_
    obtain ⟨hr, hst, ha⟩ := ht
    refine ⟨hr, fun i claim hc => ?_, fun n => ?_⟩
    · rw [hr.keys] at hc
      exact hst (i, claim) (Directory.mem_entries.mpr hc)
    · rw [ha]
      simp [Directory.mem_entries]

/-! ## Pages -/

/-- In strictly increasing order of sequence. -/
def Increasing (events : List RuntimeEvent) : Prop :=
  events.Pairwise fun a b => a.sequence < b.sequence

theorem collectEventRecords_ok (hv : ∀ e ∈ l, validateEventRecord e.2 e.1 last = .ok ())
    (hc : ∀ e ∈ l, e.1 ∈ claimed) :
    collectEventRecords last claimed after l =
      .ok ((l.filter fun e => after < e.1).map (·.2.event)) := by
  induction l with
  | nil => rfl
  | cons e rest ih =>
    have hr := ih (fun _ h => hv _ (List.mem_cons_of_mem _ h))
      fun _ h => hc _ (List.mem_cons_of_mem _ h)
    have hm := hc _ List.mem_cons_self
    unfold collectEventRecords
    rw [bind_of_ok (hv _ List.mem_cons_self),
      bind_of_ok (a := ()) (rejectIf_eq_ok.mpr (not_not.mpr hm)), bind_of_ok hr]
    by_cases h : after < e.1
    · simp [h]
    · simp [h]

/-- Sorting events with distinct sequences puts them in strictly increasing order. -/
theorem increasing_sortEvents (h : (l.map (·.sequence)).Nodup) : Increasing (sortEvents l) := by
  have hs : (sortEvents l).Pairwise fun a b => a.sequence ≤ b.sequence := by
    have : Std.Total fun a b : RuntimeEvent => a.sequence ≤ b.sequence :=
      ⟨fun a b => Nat.le_total _ _⟩
    have : IsTrans RuntimeEvent fun a b => a.sequence ≤ b.sequence :=
      ⟨fun a b c => Nat.le_trans⟩
    exact List.pairwise_insertionSort _ l
  have hn : (sortEvents l).Pairwise fun a b => a.sequence ≠ b.sequence := by
    have hp := (List.perm_insertionSort (fun a b : RuntimeEvent => a.sequence ≤ b.sequence) l).map
      (·.sequence)
    exact List.pairwise_map.mp (hp.nodup_iff.mpr h)
  exact hs.imp₂ (fun a b hl hne => Nat.lt_of_le_of_ne hl hne) hn

theorem Increasing.no_duplicates (h : Increasing l) : hasDuplicateSequences l = false := by
  induction l with
  | nil => rfl
  | cons first rest ih =>
    obtain ⟨hf, hr⟩ := List.pairwise_cons.mp h
    cases rest with
    | nil => rfl
    | cons second rest =>
      have hl := hf second List.mem_cons_self
      rw [hasDuplicateSequences, ih hr, Bool.or_false]
      exact decide_eq_false (Nat.ne_of_lt hl)

/-- The batch is a page of the records `l`: the records looked at are a part `taken` of them, which
    ends at the sequence the batch reports, and the page adds what matches among them. -/
def FillsPage (filter : Option ContainerTarget) (limit last : Nat) (events : List RuntimeEvent)
    (next : Nat) (l : List RuntimeEvent) (batch : EventBatch) : Prop :=
  ∃ taken rest, l = taken ++ rest ∧
    batch.events = events ++ taken.filter (eventMatchesFilter · filter) ∧
    (∀ e ∈ taken, e.sequence ≤ batch.nextSequence) ∧
    (∀ e ∈ rest, batch.nextSequence < e.sequence) ∧
    next ≤ batch.nextSequence ∧ batch.nextSequence ≤ max next last ∧
    (limit = 0 ∨ batch.events.length ≠ limit → last ≤ batch.nextSequence)

/-- The page goes on after `event`. -/
theorem FillsPage.cons (h : FillsPage filter limit last events' event.sequence l batch)
    (hev : events' = events ++ [event].filter (eventMatchesFilter · filter))
    (hn : next < event.sequence) (hl : event.sequence ≤ last) :
    FillsPage filter limit last events next (event :: l) batch := by
  obtain ⟨taken, rest, hs, hp, ht, hr, hfr, hpt, hf⟩ := h
  refine ⟨event :: taken, rest, by rw [hs, List.cons_append], ?_, ?_, hr, ?_, ?_, hf⟩
  · rw [hp, hev, List.append_assoc, ← List.filter_append, List.singleton_append]
  · intro e he
    rcases List.mem_cons.mp he with rfl | he
    · exact hfr
    · exact ht e he
  · omega
  · omega

theorem fillPage_spec (filter : Option ContainerTarget) (limit : Nat) (events : List RuntimeEvent)
    (hl : Increasing l) (hn : ∀ e ∈ l, next < e.sequence) (hls : ∀ e ∈ l, e.sequence ≤ last) :
    FillsPage filter limit last events next l (fillPage filter limit last events next l) := by
  induction l generalizing events next with
  | nil => exact ⟨[], [], rfl, by simp [fillPage], by simp, by simp, le_max_left _ _, le_rfl,
      fun _ => le_max_right _ _⟩
  | cons event rest ih =>
    obtain ⟨hh, hr⟩ := List.pairwise_cons.mp hl
    have hlt := hn event List.mem_cons_self
    have hb := hls event List.mem_cons_self
    have hr' := fun events => ih events hr hh fun e he => hls e (List.mem_cons_of_mem _ he)
    unfold fillPage
    dsimp only
    split
    · rename_i hm
      split
      · -- the page is full: `event` is the last record looked at
        rename_i hf
        refine ⟨[event], rest, rfl, ?_, ?_, hh, hlt.le, ?_, fun h => ?_⟩
        · simp [hm]
        · simp
        · exact hb.trans (le_max_right _ _)
        · rw [List.length_append, List.length_singleton] at hf
          simp only [List.length_append, List.length_singleton] at h
          omega
      · exact (hr' _).cons (by simp [hm]) hlt hb
    · rename_i hm
      exact (hr' _).cons (by simp [hm]) hlt hb

/-! ## The poll -/

/-- The batch holds the visible events that match the filter, after one sequence and up to the one it
    reports, in increasing order; it reports the cursor unless the page is full. -/
structure IsPage (filter : Option ContainerTarget) (after limit : Nat) (s : Store)
    (batch : EventBatch) : Prop where
  increasing : Increasing batch.events
  mem : ∀ e, e ∈ batch.events ↔ s.Published e ∧ eventMatchesFilter e filter = true ∧
    after < e.sequence ∧ e.sequence ≤ batch.nextSequence
  after_le : after ≤ batch.nextSequence
  bounded : batch.nextSequence ≤ max after s.events.last
  full : limit = 0 ∨ batch.events.length ≠ limit → s.events.last ≤ batch.nextSequence

/-- A visible event repeats a claim. -/
theorem Sound.published_iff (hs : Sound sdk s) {event : RuntimeEvent} :
    s.Published event ↔ ∃ rc, (event.sequence, rc) ∈ s.events.records.entries ∧
      rc.event = event := by
  constructor
  · intro h
    exact ⟨_, Directory.mem_entries.mpr h, rfl⟩
  · rintro ⟨rc, hr, rfl⟩
    have hr' := Directory.mem_entries.mp hr
    obtain ⟨identity, claim, hc, hsq, rfl⟩ := hs.events.records _ _ hr'
    exact hr'

theorem validateEventRecord_ok (hs : Sound sdk s) (hr : s.events.records.get? n = some record) :
    validateEventRecord record n s.events.last = .ok () := by
  obtain ⟨identity, claim, hc, rfl, rfl⟩ := hs.events.records _ _ hr
  obtain ⟨hp, hb⟩ := hs.events.bounded _ _ hc
  unfold validateEventRecord
  rw [bind_of_ok (a := ()) (rejectIf_eq_ok.mpr (by simp; omega))]
  exact hs.events.target _ _ hc

/-- What a poll sees of the records, in the order in which it goes through them. -/
def Store.eventsAfter (s : Store) (after : Nat) : List RuntimeEvent :=
  sortEvents ((s.events.records.entries.filter fun entry => after < entry.1).map (·.2.event))

theorem Sound.mem_eventsAfter (hs : Sound sdk s) (after : Nat) (event : RuntimeEvent) :
    event ∈ s.eventsAfter after ↔ s.Published event ∧ after < event.sequence := by
  unfold Store.eventsAfter sortEvents
  rw [List.mem_insertionSort, hs.published_iff]
  simp only [List.mem_map, List.mem_filter, decide_eq_true_eq]
  constructor
  · rintro ⟨⟨n, record⟩, ⟨hen, ha⟩, rfl⟩
    obtain ⟨_, _, _, rfl, rfl⟩ := hs.events.records _ _ (Directory.mem_entries.mp hen)
    exact ⟨⟨_, hen, rfl⟩, ha⟩
  · rintro ⟨⟨record, hen, rfl⟩, ha⟩
    exact ⟨_, ⟨hen, ha⟩, rfl⟩

theorem Sound.increasing_eventsAfter (hs : Sound sdk s) (after : Nat) :
    Increasing (s.eventsAfter after) := by
  refine increasing_sortEvents ?_
  -- a record has the sequence that names its file
  have hn : ((s.events.records.entries.filter fun e => after < e.1).map
      (·.2.event)).map (·.sequence) =
      (s.events.records.entries.filter fun e => after < e.1).map Prod.fst := by
    rw [List.map_map]
    refine List.map_congr_left fun e hen => ?_
    have hr := Directory.mem_entries.mp (List.mem_of_mem_filter hen)
    obtain ⟨_, _, _, hsq, hst⟩ := hs.events.records _ _ hr
    rw [Function.comp_apply, hst, hsq]
  rw [hn]
  exact s.events.records.nodup_keys.sublist (List.filter_sublist.map _)

/-- A page filled from the visible events. -/
theorem Sound.isPage (hs : Sound sdk s) (filter : Option ContainerTarget) (after limit : Nat) :
    IsPage filter after limit s
      (fillPage filter limit s.events.last [] after (s.eventsAfter after)) := by
  have hi := hs.increasing_eventsAfter after
  obtain ⟨taken, rest, hsp, hpg, ht, hr, hfr, hpt, hf⟩ :=
    fillPage_spec filter limit [] hi (fun e he => ((hs.mem_eventsAfter _ _).mp he).2)
      (fun e he => by
        obtain ⟨identity, claim, hc, hsq, _⟩ :=
          hs.events.records _ _ ((hs.mem_eventsAfter _ _).mp he).1
        exact hsq ▸ (hs.events.bounded _ _ hc).2)
  rw [List.nil_append] at hpg
  refine ⟨?_, fun e => ?_, hfr, hpt, hf⟩
  · rw [hpg]
    rw [hsp] at hi
    exact (List.pairwise_append.mp hi).1.filter _
  · have hm := hs.mem_eventsAfter after e
    rw [hsp, List.mem_append] at hm
    rw [hpg, List.mem_filter]
    constructor
    · rintro ⟨hin, hmt⟩
      obtain ⟨hp, ha⟩ := hm.mp (.inl hin)
      exact ⟨hp, hmt, ha, ht e hin⟩
    · rintro ⟨hp, hmt, ha, hl⟩
      rcases hm.mpr ⟨hp, ha⟩ with hin | hin
      · exact ⟨hin, hmt⟩
      · exact absurd hl (Nat.not_le.mpr (hr e hin))

/-- **Polls succeed.** A poll of a sound store completes the journal and returns a page of it. -/
theorem pollEvents_delivers (hs : Sound sdk s) (filter : Option ContainerTarget)
    (after limit : Nat) :
    Delivers (Write sdk none) (pollEvents filter after limit) s fun batch t =>
      Repaired s t ∧ t.Complete ∧ IsPage filter after limit t batch := by
  refine Delivers.bind_invariant (fun _ _ h hst => h.write hst) hs
    (repairPendingEventRecords_delivers hs) fun claimed t ht hp => ?_
  obtain ⟨hr, hcm, hclm⟩ := hp
  have hcl : collectEventRecords t.events.last claimed after t.events.records.entries =
      .ok ((t.events.records.entries.filter fun e => after < e.1).map (·.2.event)) := by
    refine collectEventRecords_ok ?_ ?_
    · exact fun e hen => validateEventRecord_ok ht (Directory.mem_entries.mp hen)
    · intro e hen
      obtain ⟨identity, claim, hc, hsq, _⟩ :=
        ht.events.records _ _ (Directory.mem_entries.mp hen)
      rw [hr.keys] at hc
      exact (hclm _).mpr ⟨identity, claim, hc, hsq⟩
  refine .read_bind (loadEventCursor_last ht.events) ?_
  refine .read_bind (a := t.events.records.entries) ?_ ?_
  · simp [listEvents, ht.events.strays.2.2]
  · refine .check_bind hcl ?_
    refine .rejectIf_bind ?_ (.pure ⟨hr, hcm, ht.isPage filter after limit⟩)
    have hn := (ht.increasing_eventsAfter after).no_duplicates
    unfold Store.eventsAfter at hn
    simp [hn]

end OciRuntime
