import OciRuntime.Commit.Calls
import OciRuntime.Commit.Routine

/-!
# `OciRuntime.Property.Events` — following the event journal

A reader polls the journal and resumes each poll at the `nextSequence` of the one before. Between
polls any calls run, each of which may be cut after any commit, so that an event may be claimed long
before its record is visible.

## Contents
- **Growth.** `Advances`: a call only claims sequences beyond the cursor it found.
- **Readers.** `Reader`, `ReaderStep` and the invariant `Follows`; `following_is_exact`.
-/

namespace OciRuntime

open Durable Program

variable {sdk : Sdk} {s t u : Store}

/-! ## Growth -/

/-- The cursor has not gone back, and every claim that is new has a sequence beyond its old value. -/
structure Beyond (s t : Store) : Prop where
  last : s.events.last ≤ t.events.last
  fresh : ∀ identity claim, t.events.keys.get? identity = some claim →
    s.events.keys.get? identity = some claim ∨ s.events.last < claim.event.sequence

theorem Beyond.refl (s : Store) : Beyond s s := ⟨le_rfl, fun _ _ h => .inl h⟩

theorem Beyond.trans (h : Beyond s t) (h' : Beyond t u) : Beyond s u := by
  refine ⟨h.last.trans h'.last, fun identity claim hc => ?_⟩
  rcases h'.fresh identity claim hc with hold | hn
  · exact h.fresh identity claim hold
  · exact .inr (h.last.trans_lt hn)

/-- Neither the cursor nor the claims have changed. -/
theorem Beyond.of_eq (hk : t.events.keys = s.events.keys)
    (hcr : t.events.cursor = s.events.cursor) : Beyond s t := by
  refine ⟨?_, fun identity claim hc => .inl (hk ▸ hc)⟩
  unfold EventJournal.last
  rw [hcr]

theorem Beyond.modifyContainer (s : Store) {id : ContainerId} :
    Beyond s (s.modifyContainer id change) := by
  unfold Store.modifyContainer
  split <;> exact .of_eq rfl rfl

theorem beyond_commit (h : ∀ s, Beyond s (change s)) (s : Store) :
    ∀ u ∈ (commit change : StoreM Unit).states s, Beyond s u := by
  intro u hu
  rcases List.mem_cons.mp hu with rfl | hu
  · exact .refl u
  · rw [List.mem_singleton.mp hu]
    exact h s

/-- A step that stays beyond the journal of `s`. -/
abbrev KeepsBeyond (s x y : Store) : Prop := Beyond s x → Beyond s y

theorem ensureEventRecord_beyond (event : RuntimeEvent) :
    Yields (KeepsBeyond s) (ensureEventRecord event) t fun _ _ => True := by
  refine .read_bind fun stored _ => ?_
  split
  · exact .rejectIf fun _ => trivial
  · exact .commit (fun h => h.trans (.of_eq rfl rfl)) trivial

section Append

variable {identity : EventIdentity} {kind : RuntimeEventKind}

theorem appendNewEvent_beyond : Yields (KeepsBeyond s)
      (appendNewEvent clock identity target operationId processId kind attributes) s
      fun _ _ => True := by
  refine .read_bind fun last hl => ?_
  refine .rejectIf_bind fun _ => ?_
  rw [← loadEventCursor_ok hl]
  have hcr : Beyond s (s.writeCursor (s.events.last + 1)) :=
    ⟨Nat.le_succ _, fun _ _ h => .inl h⟩
  refine .commit_bind (fun _ => hcr) ?_
  refine .check_bind fun stamp _ => .check_bind fun _ _ => ?_
  refine .commit_bind (fun _ => ?_) (ensureEventRecord_beyond _)
  refine ⟨hcr.last, fun identity' claim hc => ?_⟩
  rw [Store.writeEventClaim, Directory.get?_write] at hc
  split at hc
  · -- the new claim has the sequence that the cursor was advanced to
    cases hc
    exact .inr (Nat.lt_succ_self _)
  · exact .inl hc

theorem appendEvent_beyond : Yields (KeepsBeyond s)
      (appendEvent clock identity target operationId processId kind attributes) s
      fun _ _ => True := by
  refine .check_bind fun _ _ => .read_bind fun claimed _ => ?_
  cases claimed with
  | none => exact appendNewEvent_beyond
  | some stored =>
    refine .read_bind fun claim _ => .check_bind fun _ _ => ?_
    exact ensureEventRecord_beyond _

end Append

theorem StorePiece.beyond {α : Type} {m : StoreM α} (h : StorePiece scans α m) (s : Store) :
    ∀ u ∈ m.states s, Beyond s u := by
  cases h with
  | read => exact fun u hu => List.mem_singleton.mp hu ▸ .refl s
  | scan => exact fun u hu => List.mem_singleton.mp hu ▸ .refl s
  | quarantineContainer id tombstone =>
    refine beyond_commit (fun s => ?_) s
    unfold Store.quarantineContainer
    split <;> exact .of_eq rfl rfl
  | writeConfig => exact beyond_commit (fun s => .modifyContainer s) s
  | writeContainer => exact beyond_commit (fun s => .modifyContainer s) s
  | createProcessDirectory => exact beyond_commit (fun s => .modifyContainer s) s
  | writeProcess => exact beyond_commit (fun s => .modifyContainer s) s
  | appendEvent => exact isChain_invariant appendEvent_beyond.chain (fun _ _ hx hxy => hxy hx) (.refl s)
  | _ =>
    refine beyond_commit (fun s => ?_) s
    exact .of_eq rfl rfl

/-- Every state a call passes through. -/
theorem Call.beyond (call : Call sdk) (s : Store) : ∀ u ∈ call.run.states s, Beyond s u :=
  (routine_call call).composed.grows .refl (fun _ _ _ => .trans) (fun h => h.beyond) s

/-- A visible event stays visible. -/
theorem Write.published (h : Write sdk actor s t) {event : RuntimeEvent}
    (hev : s.Published event) : t.Published event := by
  cases h with
  | event step =>
    cases step with
    | cursor => exact hev
    | claim => exact hev
    | record claimed absent =>
      refine (Directory.get?_write_of_ne _ _ ?_).trans hev
      intro hs
      rw [Store.Published, hs, absent] at hev
      cases hev
  | _ => exact hev

/-- What is visible was claimed before. -/
theorem Sound.claim_of_published (hs : Sound sdk s) {event : RuntimeEvent}
    (hev : s.Published event) :
    ∃ identity claim, s.events.keys.get? identity = some claim ∧ claim.event = event := by
  obtain ⟨identity, claim, hc, -, hst⟩ := hs.events.records _ _ hev
  exact ⟨identity, claim, hc, (congrArg StoredEventRecord.event hst).symm⟩

/-! ## Readers -/

/-- The store, where the reader resumes, and what it has been given so far. -/
structure Reader where
  store : Store
  next : Nat
  collected : List RuntimeEvent

/-- Calls of anyone, cut anywhere, and polls of the reader with any page limit. -/
inductive ReaderStep (sdk : Sdk) (filter : Option ContainerTarget) : Reader → Reader → Prop
  | call (r : Reader) (call : Call sdk) (k : Nat) :
      ReaderStep sdk filter r
        { r with store := ((call.run r.store).commits.take k).getLastD r.store }
  | poll (r : Reader) (limit : Nat) {batch : EventBatch}
      (result : (pollEvents filter r.next limit).result r.store = .ok batch) :
      ReaderStep sdk filter r
        { store := (pollEvents filter r.next limit).final r.store
          next := batch.nextSequence
          collected := r.collected ++ batch.events }

/-- The runs of a reader. -/
abbrev ReaderRun (sdk : Sdk) (filter : Option ContainerTarget) : Reader → Reader → Prop :=
  Relation.ReflTransGen (ReaderStep sdk filter)

/-- **The reader's invariant.** It has collected exactly what is visible up to where it resumes, and
    nothing that is only claimed is left behind there. -/
structure Follows (sdk : Sdk) (filter : Option ContainerTarget) (start : Nat) (r : Reader) :
    Prop where
  sound : Sound sdk r.store
  increasing : Increasing r.collected
  exact : ∀ e, e ∈ r.collected ↔ r.store.Published e ∧ eventMatchesFilter e filter = true ∧
    start < e.sequence ∧ e.sequence ≤ r.next
  complete : ∀ identity claim, r.store.events.keys.get? identity = some claim →
    start < claim.event.sequence → claim.event.sequence ≤ r.next → r.store.Published claim.event
  start_le : start ≤ r.next
  bounded : r.next ≤ max start r.store.events.last

variable {filter : Option ContainerTarget} {start : Nat} {r r' : Reader}

theorem Follows.begin (hs : Sound sdk s) : Follows sdk filter start ⟨s, start, []⟩ where
  sound := hs
  increasing := .nil
  exact e := by
    simp only [List.not_mem_nil, false_iff]
    rintro ⟨-, -, ha, hpt⟩
    exact absurd (ha.trans_le hpt) (lt_irrefl _)
  complete _ _ _ ha hpt := absurd (ha.trans_le hpt) (lt_irrefl _)
  start_le := le_rfl
  bounded := le_max_left _ _

/-- Of the events up to where the reader resumes, nothing new becomes visible. -/
theorem Follows.visible (h : Follows sdk filter start r) (hs : Sound sdk t)
    (hb : Beyond r.store t) (he : t.Published e) (ha : start < e.sequence)
    (hp : e.sequence ≤ r.next) : r.store.Published e := by
  obtain ⟨identity, claim, hc, rfl⟩ := hs.claim_of_published he
  rcases hb.fresh identity claim hc with hold | hn
  · exact h.complete identity claim hold ha hp
  · -- a sequence beyond the cursor is beyond where the reader resumes
    have hbd := h.bounded
    omega

/-- Where a cut leaves a call is a state the call passes through. -/
theorem cut_mem_states {α : Type} (m : StoreM α) (s : Store) (k : Nat) :
    ((m s).commits.take k).getLastD s ∈ m.states s := by
  rcases List.mem_cons.mp (getLastD_mem_cons s ((m s).commits.take k)) with hs | hm
  · rw [hs]
    exact List.mem_cons_self
  · exact List.mem_cons_of_mem _ (List.mem_of_mem_take hm)

section
variable (h : Follows sdk filter start r)
include h

theorem Follows.call (call : Call sdk) (k : Nat) : Follows sdk filter start
      { r with store := ((call.run r.store).commits.take k).getLastD r.store } := by
  have hch := isChain_take (call.run_spec h.sound).chain k
  have hb := call.beyond r.store _ (cut_mem_states _ _ k)
  obtain ⟨hs, hk⟩ := isChain_getLastD hch
    (I := fun x => Sound sdk x ∧ ∀ e, r.store.Published e → x.Published e)
    (fun x y hx hxy => ⟨hx.1.write hxy, fun e he => hxy.published (hx.2 e he)⟩)
    ⟨h.sound, fun _ he => he⟩
  refine ⟨hs, h.increasing, fun e => ?_, fun identity claim hc ha hp => ?_, h.start_le, ?_⟩
  · rw [h.exact]
    constructor
    · rintro ⟨he, hr⟩
      exact ⟨hk e he, hr⟩
    · rintro ⟨he, hm, ha, hp⟩
      exact ⟨h.visible hs hb he ha hp, hm, ha, hp⟩
  · rcases hb.fresh identity claim hc with hold | hn
    · exact hk _ (h.complete identity claim hold ha hp)
    · have hbd := h.bounded
      exact absurd hp (by dsimp only; omega)
  · have hbd := h.bounded
    have hl := hb.last
    dsimp only
    omega

theorem Follows.poll
    (hrs : (pollEvents filter r.next limit).result r.store = .ok batch) :
    Follows sdk filter start
      { store := (pollEvents filter r.next limit).final r.store
        next := batch.nextSequence
        collected := r.collected ++ batch.events } := by
  have hsp := pollEvents_delivers h.sound filter r.next limit
  have hsn := isChain_getLastD hsp.1 (fun _ _ hx hxy => hx.write hxy) h.sound
  obtain ⟨_, hbt, hr, hcm, hpg⟩ := hsp.result
  cases hrs.symm.trans hbt
  have hby : Beyond r.store ((pollEvents filter r.next limit).final r.store) :=
    .of_eq hr.keys hr.cursor
  have hl := hby.last
  have hs := h.start_le
  have hn := hpg.after_le
  refine ⟨hsn, ?_, fun e => ?_, fun identity claim hc _ _ => hcm identity claim hc,
    h.start_le.trans hpg.after_le, ?_⟩
  · refine List.pairwise_append.mpr ⟨h.increasing, hpg.increasing, fun a ha b hb => ?_⟩
    -- the page starts where the reader resumed
    exact ((h.exact a).mp ha).2.2.2.trans_lt ((hpg.mem b).mp hb).2.2.1
  · rw [List.mem_append, h.exact, hpg.mem]
    constructor
    · rintro (⟨he, hm, haf, hp⟩ | ⟨he, hm, haf, hp⟩)
      · exact ⟨hr.kept _ _ he, hm, haf, hp.trans hn⟩
      · exact ⟨he, hm, hs.trans_lt haf, hp⟩
    · rintro ⟨he, hm, haf, hp⟩
      by_cases hold : e.sequence ≤ r.next
      · exact .inl ⟨h.visible hsn hby he haf hold, hm, haf, hold⟩
      · exact .inr ⟨he, hm, Nat.lt_of_not_le hold, hp⟩
  · have hbd := h.bounded
    have hp := hpg.bounded
    dsimp only
    omega

theorem Follows.step (hs : ReaderStep sdk filter r r') : Follows sdk filter start r' := by
  cases hs with
  | call call k => exact h.call call k
  | poll limit result => exact h.poll result

theorem Follows.run (hr : ReaderRun sdk filter r r') : Follows sdk filter start r' := by
  induction hr with
  | refl => exact h
  | tail _ hs ih => exact ih.step hs

end

/-- A step of the reader never goes back, and claims nothing below the cursor. -/
theorem ReaderStep.onward (hr : Follows sdk filter start r) (h : ReaderStep sdk filter r r') :
    r.next ≤ r'.next ∧ Beyond r.store r'.store := by
  cases h with
  | call call k => exact ⟨le_rfl, call.beyond r.store _ (cut_mem_states _ _ k)⟩
  | poll limit result =>
    obtain ⟨_, hb, hrp, -, hp⟩ :=
      (pollEvents_delivers hr.sound filter r.next limit).result
    cases result.symm.trans hb
    exact ⟨hp.after_le, .of_eq hrp.keys hrp.cursor⟩

/-- What becomes visible later lies beyond where the reader resumes. -/
theorem ReaderRun.visible (hr : Follows sdk filter start r) (h : ReaderRun sdk filter r r') :
    r.next ≤ r'.next ∧ ∀ e, r'.store.Published e → start < e.sequence → e.sequence ≤ r.next →
      r.store.Published e := by
  induction h with
  | refl => exact ⟨le_rfl, fun e he _ _ => he⟩
  | tail hrn hs ih =>
    obtain ⟨hn, hv⟩ := ih
    have hb := hr.run hrn
    obtain ⟨ho, hby⟩ := hs.onward hb
    refine ⟨hn.trans ho, fun e he ha hp => hv e ?_ ha hp⟩
    exact hb.visible (hb.step hs).sound hby he ha (hp.trans hn)

/-- **Following the journal is exact.** Whatever runs between its polls, a reader that starts after
    the sequence `start` has collected, in strictly increasing order, exactly the visible events that
    match its filter between `start` and where it resumes. Its next poll succeeds, and leaves nothing
    behind unless its page is full. No event that becomes visible later lies in the part that the
    reader has passed. -/
theorem following_is_exact {l : List Store} (h : Trace sdk l) (hs : s ∈ .empty :: l)
    (hrun : ReaderRun sdk filter ⟨s, start, []⟩ r) :
    Increasing r.collected ∧
      (∀ e, e ∈ r.collected ↔ r.store.Published e ∧ eventMatchesFilter e filter = true ∧
        start < e.sequence ∧ e.sequence ≤ r.next) ∧
      (∀ limit, ∃ batch, (pollEvents filter r.next limit).result r.store = .ok batch ∧
        (limit = 0 ∨ batch.events.length ≠ limit → ∀ e,
          ((pollEvents filter r.next limit).final r.store).Published e →
            e.sequence ≤ batch.nextSequence)) ∧
      ∀ r', ReaderRun sdk filter r r' → ∀ e, r'.store.Published e → start < e.sequence →
        e.sequence ≤ r.next → r.store.Published e := by
  have hr : Follows sdk filter start r := (Follows.begin (h.sound s hs)).run hrun
  refine ⟨hr.increasing, hr.exact, fun limit => ?_, fun r' hl => (hl.visible hr).2⟩
  have hsp := pollEvents_delivers hr.sound filter r.next limit
  have hsn := isChain_getLastD hsp.1 (fun _ _ hx hxy => hx.write hxy) hr.sound
  obtain ⟨batch, hb, -, -, hp⟩ := hsp.result
  refine ⟨batch, hb, fun hsh e he => ?_⟩
  obtain ⟨identity, claim, hc, rfl⟩ := hsn.claim_of_published he
  exact (hsn.events.bounded identity claim hc).2.trans (hp.full hsh)

/-- A reader that takes the events of a created container one by one. -/
theorem following_is_exact_created :
    ∃ r, ReaderRun Sample.sdk none ⟨Sample.creation.getLastD .empty, 0, []⟩ r ∧
      r.collected.map (·.sequence) = [1] ∧
      ∀ e, e ∈ r.collected ↔ r.store.Published e ∧ eventMatchesFilter e none = true ∧
        0 < e.sequence ∧ e.sequence ≤ r.next := by
  have hp : (match (pollEvents none 0 1).result (Sample.creation.getLastD .empty) with
      | .ok batch => batch.events.map (·.sequence)
      | .error _ => []) = [1] := by decide +kernel
  have ht : Trace Sample.sdk Sample.creation := Trace.visited _
  have hsn := ht.sound _ (getLastD_mem_cons _ _)
  obtain ⟨batch, hb, -⟩ := (pollEvents_delivers hsn none 0 1).result
  rw [hb] at hp
  have hs : ReaderStep Sample.sdk none ⟨Sample.creation.getLastD .empty, 0, []⟩ _ :=
    .poll _ 1 hb
  obtain ⟨-, hx, -⟩ := following_is_exact ht (getLastD_mem_cons _ _) (.single hs)
  exact ⟨_, .single hs, hp, hx⟩

end OciRuntime
