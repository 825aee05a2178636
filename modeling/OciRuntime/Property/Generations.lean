import OciRuntime.Commit.Calls

/-!
# `OciRuntime.Property.Generations` — the generation fence

A creation reserves its generation before it makes a directory, so an interrupted creation can be
retried after later generations of the same ID have come and gone. The fence holds in every run
without such a retry: a live record has the last generation allocated for its ID, records of one ID
come into existence in the order of their generations, and every generation has one creation.

## Contents
- **Births.** `births`, `GenerationFence`.
- **One commit.** `Write.allocation`.
- **Timely creations.** `Timely`, `Write.born_last`.
- **Runs.** `generationFence_of_timely`.
-/

namespace OciRuntime

open Durable Program

variable {sdk : Sdk} {actor : Option OperationId} {s t : Store} {id : ContainerId}

/-! ## Births -/

/-- The last generation allocated for an ID; generations start at one. -/
def Store.lastAllocated (s : Store) (id : ContainerId) : Nat :=
  ((s.generations.get? id).map (·.lastGeneration)).getD 0

/-- The generation whose record comes into existence between two states. -/
def born (id : ContainerId) (s t : Store) : Option Nat :=
  match s.recordOf id, t.recordOf id with
  | none, some new => some new.record.generation
  | some old, some new =>
    if old.record.generation = new.record.generation then none else some new.record.generation
  | _, none => none

/-- The generations whose records come into existence along a run, oldest first. -/
def births (id : ContainerId) : List Store → List Nat
  | s :: t :: rest => (born id s t).toList ++ births id (t :: rest)
  | _ => []

/-- The journaled creation of one generation. -/
def CreatedBy (s : Store) (id : ContainerId) (generation : Nat) (o : OperationId) : Prop :=
  ∃ op, s.operations.get? o = some op ∧ op.kind.isCreation = true ∧ op.containerId = id ∧
    op.generation = generation

/-- What the generations of a run are fenced by. -/
structure GenerationFence (l : List Store) : Prop where
  allocated : ∀ id, (l.map (·.lastAllocated id)).Pairwise (· ≤ ·)
  latest : ∀ s ∈ l, ∀ id stored, s.recordOf id = some stored →
    stored.record.generation = s.lastAllocated id
  ordered : ∀ id, (births id l).Pairwise (· ≤ ·)
  created : ∀ s ∈ l, ∀ id stored, s.recordOf id = some stored →
    ∃ o, CreatedBy s id stored.record.generation o
  once : ∀ s ∈ l, ∀ id generation o o', CreatedBy s id generation o →
    CreatedBy s id generation o' → o = o'

/-! ## One commit -/

/-- A generation is allocated only while its ID has no directory. -/
theorem Write.allocation (h : Write sdk actor s t) (id : ContainerId) :
    t.lastAllocated id = s.lastAllocated id ∨
      (t.lastAllocated id = s.lastAllocated id + 1 ∧ t.recordOf id = none ∧
        ∀ o, actor = some o → t.operations.get? o = none) := by
  cases h with
  | operation => exact .inl rfl
  | @generation k last fresh absent last_eq =>
    by_cases hk : id = k
    · subst hk
      have hs : (s.writeGeneration ⟨generationSchemaVersion, id, last + 1⟩).generations.get? id =
          some ⟨generationSchemaVersion, id, last + 1⟩ := Directory.get?_write_self _ _ _
      refine .inr ⟨?_, ?_, fresh⟩
      · rw [Store.lastAllocated, hs]
        exact congrArg (· + 1) last_eq
      · simp only [Store.recordOf, show (s.writeGeneration _).containers.get? id = none from absent,
          Option.bind_none]
    · left
      rw [Store.lastAllocated, show (s.writeGeneration _).generations.get? id = _ from
        Directory.get?_write_of_ne _ _ hk]
      rfl
  | directory => exact .inl rfl
  | quarantine => exact .inl rfl
  | event => exact .inl rfl

theorem Write.lastAllocated_le (h : Write sdk actor s t) (id : ContainerId) :
    s.lastAllocated id ≤ t.lastAllocated id := by
  rcases h.allocation id with heq | ⟨heq, _⟩ <;> omega

/-! ## Timely creations -/

/-- If the operation is a pending creation without a record, its generation is still the last one
    of its ID. -/
def Timely (actor : Option OperationId) (s : Store) : Prop :=
  ∀ o ∈ actor, ∀ op ∈ s.operations.get? o, op.kind.isCreation = true → op.outcome = .prepared →
    s.recordOf op.containerId = none → op.generation = s.lastAllocated op.containerId

instance (actor : Option OperationId) (s : Store) : Decidable (Timely actor s) := by
  unfold Timely
  infer_instance

/-- A call is not made for a pending creation that later generations have overtaken. -/
def Call.Timely (s : Store) (call : Call sdk) : Prop :=
  OciRuntime.Timely (call.actor s) s

instance (s : Store) (call : Call sdk) : Decidable (call.Timely s) :=
  inferInstanceAs (Decidable (OciRuntime.Timely (call.actor s) s))

/-- Within a call, a creation that is timely at the start stays so: its own failure settles it
    before its record is moved, and no generation is allocated once it is journaled. -/
theorem Timely.write (h : Timely actor s) (hs : Sound sdk s) (hw : Write sdk actor s t) :
    Timely actor t := by
  intro o ho op hop hk hp hr
  rcases hw.pending_cases hop hk hp with hold | ⟨rfl, ⟨last, hl, hg⟩, -⟩
  · rcases hw.allocation op.containerId with hl | ⟨_, _, hn⟩
    · rw [hl]
      refine h o ho op hold hk hp ?_
      by_contra hne
      obtain ⟨a, ha⟩ := Option.ne_none_iff_exists'.mp hne
      obtain ⟨mover, _, _, hm, hac, hgr, -⟩ := hw.record_gone hs ha hr
      obtain rfl : o = mover.operationId := Option.some.inj (ho.symm.trans hac)
      obtain rfl : mover = op := Option.some.inj (hm.symm.trans hold)
      cases hgr with
      | deleted hd => rw [hd] at hk; cases hk
      | failed _ hf => rw [hp] at hf; cases hf
    · rw [hn o ho] at hop
      cases hop
  · show _ = ((s.generations.get? op.containerId).map (·.lastGeneration)).getD 0
    rw [hl, ← hg]
    rfl

/-- A record that comes into existence in a call for a timely operation has the last generation. -/
theorem Write.born_last (hs : Sound sdk s) (h : Write sdk actor s t) (ht : Timely actor s)
    (hbr : born id s t = some g) :
    g = s.lastAllocated id := by
  unfold born at hbr
  cases hb : t.recordOf id with
  | none => rw [hb] at hbr; split at hbr <;> simp_all
  | some b =>
    rcases h.record_cases hs hb with ⟨a, ha, hsm⟩ | ⟨hn, op, hp, hg, hac⟩
    · have heq : a.record.generation = b.record.generation := hsm.generation.symm
      rw [ha, hb] at hbr
      simp only [heq, if_true] at hbr
      cases hbr
    · rw [hn, hb] at hbr
      cases hbr
      have hl := ht op.operationId hac op hp.found hp.kind hp.prepared (hp.container ▸ hn)
      rw [hg, hl, hp.container]

/-! ## Runs -/

/-- One commit of a call for a timely operation. -/
def TimelyCommit (sdk : Sdk) (s t : Store) : Prop :=
  ∃ actor, Write sdk actor s t ∧ Timely actor s

theorem GuardedTrace.timely (h : GuardedTrace sdk (fun s call => call.Timely s) l) :
    List.IsChain (TimelyCommit sdk) (.empty :: l) :=
  GuardedTrace.commits h fun _ _ _ hs ht hw => ht.write hs hw

/-- Every live record has the last generation of its ID. -/
def Latest (s : Store) : Prop :=
  ∀ id stored, s.recordOf id = some stored → stored.record.generation = s.lastAllocated id

theorem Latest.write (h : Latest s) (hs : Sound sdk s) (hc : TimelyCommit sdk s t) : Latest t := by
  obtain ⟨actor, hw, ht⟩ := hc
  intro id b hb
  -- no generation is allocated while the ID has a record
  have hl : t.lastAllocated id = s.lastAllocated id := by
    rcases hw.allocation id with heq | ⟨_, hn, _⟩
    · exact heq
    · rw [hb] at hn
      cases hn
  rw [hl]
  rcases hw.record_cases hs hb with ⟨a, ha, hsm⟩ | ⟨hn, -⟩
  · rw [hsm.generation]
    exact h id a ha
  · refine hw.born_last hs ht ?_
    simp only [born, hn, hb]

/-- Births happen at the last generation, and that number only grows. -/
theorem births_ordered
    (hc : List.IsChain (fun s t => Sound sdk s ∧ TimelyCommit sdk s t) (a :: l)) :
    (births id (a :: l)).Pairwise (· ≤ ·) ∧ ∀ g ∈ births id (a :: l), a.lastAllocated id ≤ g := by
  induction l generalizing a with
  | nil => exact ⟨.nil, fun g hg => by cases hg⟩
  | cons b rest ih =>
    obtain ⟨⟨ha, actor, hw, ht⟩, hr⟩ := List.isChain_cons_cons.mp hc
    obtain ⟨ho, hb⟩ := ih hr
    have hl := hw.lastAllocated_le id
    have hf : ∀ g ∈ (born id a b).toList, g = a.lastAllocated id := fun g hg =>
      hw.born_last ha ht (Option.mem_toList.mp hg)
    refine ⟨List.pairwise_append.mpr ⟨?_, ho, fun g hg g' hg' => ?_⟩, fun g hg => ?_⟩
    · cases born id a b with
      | none => exact .nil
      | some _ => exact List.pairwise_singleton _ _
    · have := hf g hg
      have := hb g' hg'
      omega
    · rcases List.mem_append.mp hg with hg | hg
      · exact (hf g hg).ge
      · have := hb g hg
        omega

/-- **The generation fence.** It holds along every run that makes no call for a pending creation
    without a record whose generation is no longer the last of its ID. -/
theorem generationFence_of_timely {l : List Store}
    (h : GuardedTrace sdk (fun s call => call.Timely s) l) : GenerationFence (.empty :: l) := by
  have hc := h.timely
  have hsn := h.trace.sound
  refine ⟨fun id => ?_, ?_, fun id => ?_, ?_, ?_⟩
  · have hgs : List.IsChain (· ≤ ·) ((Store.empty :: l).map (·.lastAllocated id)) :=
      List.isChain_map_of_isChain _ (fun _ _ hst => hst.choose_spec.1.lastAllocated_le id) hc
    exact hgs.pairwise
  · have ha := isChain_invariant hc (fun x y (hx : Sound sdk x ∧ Latest x) hxy =>
        ⟨hx.1.write hxy.choose_spec.1, hx.2.write hx.1 hxy⟩)
      ⟨.empty sdk, fun _ _ hr => by cases hr⟩
    exact fun s hs => (ha s hs).2
  · exact (births_ordered (hc.imp_of_mem_imp fun s t hs _ hst => ⟨hsn s hs, hst⟩)).1
  · intro s hs id stored hso
    obtain ⟨d, hd, hd'⟩ := recordOf_eq_some.mp hso
    obtain ⟨op, ho, hk⟩ := (((hsn s hs).containers id d hd).record stored hd').creation
    exact ⟨op.operationId, op, ho.found, hk, ho.container, ho.generation⟩
  · rintro s hs id generation o o' ⟨op, ho, hk, rfl, rfl⟩ ⟨op', ho', hk', hi, hg⟩
    exact (hsn s hs).creations o o' op op' ho ho' hk hk' hi.symm hg.symm

/-- A create that is interrupted, retried and fails, and a create of the next generation. -/
theorem generationFence_recreated :
    GenerationFence (.empty :: Program.visited Call.run .empty [(Sample.create Sample.opA, 3),
      (Sample.create Sample.opA, 9), (Sample.fail Sample.opA, 2), (Sample.create Sample.opB, 9)]) :=
  generationFence_of_timely (CrashTrace.visited (by decide +kernel))

/-- **A stale retry passes the fence.** A create is cut once it is journaled; a second create makes
    the record of generation two and fails; the retry of the first one makes a record of generation
    one. -/
theorem stale_creation_passes_fence :
    ∃ l, Trace Sample.sdk l ∧ births Sample.web (.empty :: l) = [2, 1] ∧
      ((l.getLastD .empty).recordOf Sample.web).map (·.record.generation) = some 1 ∧
      (l.getLastD .empty).lastAllocated Sample.web = 2 ∧ ¬GenerationFence (.empty :: l) := by
  refine ⟨Program.visited Call.run .empty [(Sample.create Sample.opA, 2),
    (Sample.create Sample.opB, 9), (Sample.fail Sample.opB, 2), (Sample.create Sample.opA, 9)],
    Trace.visited _, by decide +kernel, by decide +kernel, by decide +kernel, fun h => ?_⟩
  exact absurd (h.ordered Sample.web) (by decide +kernel)

end OciRuntime
