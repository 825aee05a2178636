import OciRuntime.Commit.Observation
import OciRuntime.Commit.Polling
import OciRuntime.State.Calls

/-!
# `OciRuntime.Commit.Calls` — every call is a sequence of verified commits

The specifications of the single calls, put together: from a sound store each call makes `Write`
steps on behalf of its own operation, and when it succeeds that operation is either settled or holds
its claim. By induction over a run, every state the store can be left in is sound.
-/

namespace OciRuntime

open Durable Program

variable {sdk : Sdk} {s t : Store}

variable {α : Type} {o : OperationId} {id : ContainerId} {l : List Store}

/-- What a successful call means for the operation it acts for: a grant leaves it pending with its
    claim held, and no call makes it lose the claim without giving it an outcome. -/
structure Outcomes (actor : Option OperationId) (s : Store) (reply : Reply) (t : Store) : Prop where
  granted : reply = .granted → ∃ o, actor = some o ∧ Granted t o
  kept : ∀ o, actor = some o → Granted s o → Granted t o ∨ Settled t o

theorem granting_spec {β : Type} {m : StoreM (Preparation α β)} (h : Prepares sdk o m s) :
    Yields (Write sdk (some o)) (granting m).run s (Outcomes (some o) s) := by
  rw [run_granting]
  refine h.map fun preparation t ha => ?_
  unfold Preparation.reply
  cases hg : preparation.isGrant with
  | true =>
    rw [hg] at ha
    exact ⟨fun _ => ⟨o, rfl, ha⟩, by rintro _ ⟨⟩ _; exact .inl ha⟩
  | false =>
    rw [hg] at ha
    exact ⟨by simp, by rintro _ ⟨⟩ _; exact .inr ha⟩

theorem answering_spec {P : α → Store → Prop} (h : Yields (Write sdk actor) m s P)
    (hk : ∀ a t o, P a t → actor = some o → Granted s o → Granted t o ∨ Settled t o) :
    Yields (Write sdk actor) (answering m).run s (Outcomes actor s) := by
  rw [run_answering]
  refine h.map fun a t ha => ⟨by simp, fun o ho hg => ?_⟩
  exact hk a t o ha ho hg

/-- A prepare of a process operation. -/
theorem granting_process_spec {β : Type} {m : StoreM (Preparation α β)}
    (h : Yields (Write sdk (some o)) m s fun r t => Answered r.isGrant o t ∧ Journaled t o kind id) :
    Yields (Write sdk (some o)) (granting m).run s (Outcomes (some o) s) :=
  granting_spec (Yields.mono h fun _ _ ha => ha.1)

/-- A completion. -/
theorem concluding_spec (h : Settles sdk o m s) :
    Yields (Write sdk (some o)) (answering m).run s (Outcomes (some o) s) :=
  answering_spec h (by rintro _ t _ hs ⟨⟩ _; exact .inr hs)

/-- A call that either does nothing or settles its operation. -/
theorem maybe_concluding_spec (h : Yields (Write sdk (some o)) m s fun _ t => t = s ∨ Settled t o) :
    Yields (Write sdk (some o)) (answering m).run s (Outcomes (some o) s) := by
  refine answering_spec h ?_
  rintro _ t _ (rfl | hs) ⟨⟩ hg
  · exact .inl hg
  · exact .inr hs

/-- A call on behalf of no operation. -/
theorem neutral_spec {P : α → Store → Prop} (h : Yields (Write sdk none) m s P) :
    Yields (Write sdk none) (answering m).run s (Outcomes none s) :=
  answering_spec h (by rintro _ _ _ _ ⟨⟩)

theorem Live.lifecycleClaim (h : Live sdk s id c) : s.lifecycleClaim id = c.activeOperation := by
  obtain ⟨d, hd, hl⟩ := h
  simp [Store.lifecycleClaim, Store.recordOf, hd, hl.record]

/-- An observation. -/
theorem observing_spec
    (h : (∀ c, Live sdk s id c → s.lifecycleClaim id = c.activeOperation) →
      Yields (Write sdk (s.lifecycleClaim id)) m s fun _ t => ∀ o, s.lifecycleClaim id = some o →
        Settled t o ∨ Granted t o) :
    Yields (Write sdk (s.lifecycleClaim id)) (answering m).run s (Outcomes (s.lifecycleClaim id) s) :=
  answering_spec (h fun _ hl => hl.lifecycleClaim) fun _ _ o hp ho _ => (hp o ho).symm

theorem prepareWaitProcess_spec :
    Yields (Write sdk none) (prepareWaitProcess sdk target) s fun _ _ => True := by
  refine .read_bind fun container _ => ?_
  refine .check_bind fun _ _ => ?_
  dsimp only
  split
  · split
    · exact .pure trivial
    · exact .rejectIf_bind fun _ => .pure trivial
  · refine .read_bind fun process _ => ?_
    split
    · exact .pure trivial
    · exact .rejectIf_bind fun _ => .pure trivial

/-- A mutation without an operation context is rejected before it reaches the journal. -/
theorem prepareFileMutation_anonymous (h : rq.context = none) :
    Yields (Write sdk none) (granting (prepareFileMutation sdk clock rq)).run s (Outcomes none s) := by
  have hr : Yields (Write sdk none) (prepareFileMutation sdk clock rq) s fun _ _ => False := by
    refine .check_bind fun _ _ => .rejectIf_bind fun _ => ?_
    refine .check_bind fun cx hc => ?_
    rw [okOr_eq_ok, h] at hc
    cases hc
  exact hr.map fun _ _ h => h.elim

theorem prepareFilesystemMutation_anonymous (h : rq.context = none) :
    Yields (Write sdk none) (granting (prepareFilesystemMutation sdk clock rq)).run s
      (Outcomes none s) := by
  have hr : Yields (Write sdk none) (prepareFilesystemMutation sdk clock rq) s
      fun _ _ => False := by
    refine .check_bind fun _ _ => .rejectIf_bind fun _ => ?_
    refine .check_bind fun cx hc => ?_
    rw [okOr_eq_ok, h] at hc
    cases hc
  exact hr.map fun _ _ h => h.elim

/-- **Refinement.** From a sound store every call consists of `Write` steps on behalf of its
    operation, and its success says what became of that operation. -/
theorem Call.run_spec (hs : Sound sdk s) (call : Call sdk) :
    Yields (Write sdk (call.actor s)) call.run s (Outcomes (call.actor s) s) := by
  cases call with
  | prepareCreate clock rq driver inherited built =>
    exact granting_spec (prepareCreate_spec hs built)
  | completeCreate => exact concluding_spec (completeCreate_spec hs)
  | lookupRestore => exact maybe_concluding_spec (lookupRestore_spec hs)
  | prepareRestore clock rq driver built =>
    exact granting_spec (prepareRestore_spec hs built)
  | completeRestore => exact concluding_spec (completeRestore_spec hs)
  | prepareStart => exact granting_spec (prepareStart_spec hs)
  | completeStart => exact concluding_spec (completeStart_spec hs)
  | prepareKill => exact granting_spec (prepareKill_spec hs)
  | completeKill => exact concluding_spec (completeKill_spec hs)
  | prepareDelete => exact granting_spec (prepareDelete_spec hs)
  | completeDelete => exact concluding_spec (completeDelete_spec hs)
  | prepareFreezer => exact granting_spec (prepareFreezer_spec hs)
  | completeFreezer => exact concluding_spec (completeFreezer_spec hs)
  | prepareUpdate => exact granting_spec (prepareUpdate_spec hs)
  | completeUpdate => exact concluding_spec (completeUpdate_spec hs)
  | prepareFileMutation clock rq =>
    show Yields (Write sdk (rq.context.map (·.operationId))) _ s
      (Outcomes (rq.context.map (·.operationId)) s)
    cases hc : rq.context with
    | none => exact prepareFileMutation_anonymous hc
    | some cx =>
      refine granting_spec (prepareFileMutation_spec hs ?_)
      rintro _ h
      rw [Option.some.inj (hc.symm.trans h)]
  | completeFileMutation => exact concluding_spec (completeFileMutation_spec hs)
  | prepareFilesystemMutation clock rq =>
    show Yields (Write sdk (rq.context.map (·.operationId))) _ s
      (Outcomes (rq.context.map (·.operationId)) s)
    cases hc : rq.context with
    | none => exact prepareFilesystemMutation_anonymous hc
    | some cx =>
      refine granting_spec (prepareFilesystemMutation_spec hs ?_)
      rintro _ h
      rw [Option.some.inj (hc.symm.trans h)]
  | completeFilesystemMutation => exact concluding_spec (completeFilesystemMutation_spec hs)
  | prepareCheckpoint => exact granting_spec (prepareCheckpoint_spec hs)
  | completeCheckpoint => exact concluding_spec (completeCheckpoint_spec hs)
  | prepareAttestation => exact granting_spec (prepareAttestation_spec hs)
  | completeAttestation => exact concluding_spec (completeAttestation_spec hs)
  | prepareExec => exact granting_process_spec (prepareExec_spec hs)
  | completeExec => exact concluding_spec (completeExec_spec hs)
  | prepareSignalProcess => exact granting_process_spec (prepareSignalProcess_spec hs)
  | completeSignalProcess => exact concluding_spec (completeSignalProcess_spec hs)
  | prepareWriteStdin =>
    exact granting_process_spec (Yields.check_bind fun _ _ => prepareProcessIoOperation_spec hs rfl)
  | completeWriteStdin => exact concluding_spec (completeProcessIoOperation_spec hs rfl)
  | prepareCloseStdin => exact granting_process_spec (prepareProcessIoOperation_spec hs rfl)
  | completeCloseStdin => exact concluding_spec (completeProcessIoOperation_spec hs rfl)
  | prepareResize =>
    exact granting_process_spec (Yields.check_bind fun _ _ => prepareProcessIoOperation_spec hs rfl)
  | completeResize => exact concluding_spec (completeProcessIoOperation_spec hs rfl)
  | failOperation => exact maybe_concluding_spec (failOperation_spec hs)
  | prepareWaitProcess => exact neutral_spec prepareWaitProcess_spec
  | completeProcessWait => exact neutral_spec (completeProcessWait_spec hs)
  | observeState => exact observing_spec fun h => observeStateInner_spec hs h
  | observeRecreatedCreatedProcess =>
    exact observing_spec fun h => observeRecreatedProcess_spec hs h
  | observeRecreatedRunningProcess =>
    exact observing_spec fun h => observeRecreatedProcess_spec hs h
  | observeRecreatedPausedRunningProcess =>
    exact observing_spec fun h => observeRecreatedProcess_spec hs h
  | observeRecreatedExecProcesses =>
    exact neutral_spec (observeRecreatedExecProcesses_spec hs)
  | pollEvents => exact neutral_spec (pollEvents_delivers hs _ _ _).yields

/-! ## Runs -/

/-- One commit, on behalf of any operation. -/
def Commit (sdk : Sdk) (s t : Store) : Prop := ∃ actor, Write sdk actor s t

theorem Sound.commit (hs : Sound sdk s) (h : Commit sdk s t) : Sound sdk t := by
  obtain ⟨actor, hw⟩ := h
  exact hs.write hw

/-- The states that a store passes through from its creation on, in a run whose calls all meet a
    condition on the call and the state before it. -/
def GuardedTrace (sdk : Sdk) (guard : Store → Call sdk → Prop) (l : List Store) : Prop :=
  CrashTrace Call.run guard .empty l

/-- The states that a store passes through from its creation on. -/
def Trace (sdk : Sdk) (l : List Store) : Prop := GuardedTrace sdk (fun _ _ => True) l

theorem GuardedTrace.trace {guard : Store → Call sdk → Prop} (h : GuardedTrace sdk guard l) :
    Trace sdk l :=
  CrashTrace.weaken h fun _ _ _ => trivial

theorem Trace.visited (steps : List (Call sdk × Nat)) :
    Trace sdk (Program.visited Call.run .empty steps) := by
  refine CrashTrace.visited ?_
  generalize Store.empty = s
  induction steps generalizing s with
  | nil => exact trivial
  | cons step rest ih => exact ⟨trivial, ih _⟩

/-- **Runs are sequences of commits.** -/
theorem Trace.commits (h : Trace sdk l) : List.IsChain (Commit sdk) (.empty :: l) := by
  refine CrashTrace.chain h (Sound.empty sdk) (fun call s hs _ => ?_) fun _ _ => Sound.commit
  exact (call.run_spec hs).chain.imp fun x y hx => ⟨_, hx⟩

/-- If what a condition allows stays allowed along the commits of a call, every commit of a run whose
    calls meet the condition is an allowed one. -/
theorem GuardedTrace.commits {allowed : Option OperationId → Store → Prop}
    (h : GuardedTrace sdk (fun s call => allowed (call.actor s) s) l)
    (hst : ∀ actor s t, Sound sdk s → allowed actor s → Write sdk actor s t → allowed actor t) :
    List.IsChain (fun s t => ∃ actor, Write sdk actor s t ∧ allowed actor s) (.empty :: l) := by
  refine CrashTrace.chain h (Sound.empty sdk) (fun call s hs hl => ?_)
    fun _ _ hx hxy => hx.write hxy.choose_spec.1
  have hc := (call.run_spec hs).chain
  have ha := isChain_invariant hc (fun x y (hx : Sound sdk x ∧ allowed (call.actor s) x) hxy =>
      ⟨hx.1.write hxy, hst _ x y hx.1 hx.2 hxy⟩) ⟨hs, hl⟩
  exact hc.imp_of_mem_imp fun x y hx _ hxy => ⟨_, hxy, (ha x hx).2⟩

/-- **The invariant holds in every state of every run**, also after crashes. -/
theorem Trace.sound (h : Trace sdk l) : ∀ s ∈ .empty :: l, Sound sdk s :=
  isChain_invariant h.commits (fun _ _ => Sound.commit) (.empty sdk)

/-- What holds in a state of a run and is preserved by every commit holds in all later states. -/
theorem Trace.later {I : Store → Prop} {before later : List Store} (h : Trace sdk l)
    (hl : .empty :: l = before ++ s :: later) (hst : ∀ x y, I x → Commit sdk x y → I y)
    (hs : I s) : ∀ t ∈ s :: later, Sound sdk t ∧ I t := by
  have hc := h.commits
  rw [hl] at hc
  intro t ht
  refine ⟨h.sound t ?_, isChain_invariant hc.right_of_append hst hs t ht⟩
  rw [hl]
  exact List.mem_append_right _ ht

/-- **Refinement.** A run of calls, each cut after any of its commits, is a sequence of steps of the
    relation `Commit`, through states that satisfy the store invariant. -/
theorem runs_refine_commits (steps : List (Call sdk × Nat)) :
    let run := Program.visited Call.run .empty steps
    List.IsChain (Commit sdk) (.empty :: run) ∧ ∀ s ∈ .empty :: run, Sound sdk s :=
  ⟨(Trace.visited steps).commits, (Trace.visited steps).sound⟩

end OciRuntime
