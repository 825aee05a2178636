import OciRuntime.Commit.Calls

/-!
# `OciRuntime.Property.Finality` — an outcome is final

Many calls rewrite journal entries: completions, failures, observations and the replays that follow
a recovered process ID. Whatever they do, an entry that holds an outcome keeps it, up to the process
ID inside a recorded response, and its operation is never granted again. Completions and failures do
not even touch the process ID: they find the outcome and leave the journal alone.

## Contents
- **Outcomes.** `SameButPid`, `KeepsOutcomes`: one commit, then a run.
- **Conclusions.** `Call.concludes`, `Call.concludes_settled`: completions and failures of a settled
  operation.
- **Finality.** `settled_is_final`, `nothing_is_forgotten`.
-/

namespace OciRuntime

open Durable Program

variable {sdk : Sdk} {s t : Store} {o : OperationId}

variable {α : Type} {call : Call sdk} {wrong : StoredOperation → Prop}
  {refusal : StoredOperation → Error}

/-! ## Outcomes -/

/-- Two outcomes that differ at most by the process ID in a recorded response. -/
inductive SameButPid : StoredOperationStatus → StoredOperationStatus → Prop
  | same (outcome : StoredOperationStatus) : SameButPid outcome outcome
  | record (response : ContainerRecord) (pid : Option Int) :
      SameButPid (.succeeded response) (.succeeded (response.withPid pid))
  | restored (response : RestoreResponse) (pid : Option Int) :
      SameButPid (.succeededRestore response)
        (.succeededRestore { response with restored := response.restored.withPid pid })
  | process (response : ProcessRecord) (pid : Option Nat) :
      SameButPid (.succeededProcess response) (.succeededProcess { response with pid })

theorem SameButPid.trans (ha : SameButPid a b) (hb : SameButPid b c) : SameButPid a c := by
  cases ha with
  | same => exact hb
  | record rp pid =>
    cases hb with
    | same => exact .record rp pid
    | record _ pid' => exact .record rp pid'
  | restored rp pid =>
    cases hb with
    | same => exact .restored rp pid
    | restored _ pid' => exact .restored rp pid'
  | process rp pid =>
    cases hb with
    | same => exact .process rp pid
    | process _ pid' => exact .process rp pid'

theorem SameButPid.settled (h : SameButPid a b) (ha : a ≠ .prepared) : b ≠ .prepared := by
  cases h with
  | same => exact ha
  | record => simp
  | restored => simp
  | process => simp

theorem Rebound.sameButPid (h : Rebound sdk op outcome) : SameButPid op.outcome outcome := by
  cases h with
  | record was => rw [was]; exact .record ..
  | restored was => rw [was]; exact .restored ..
  | process was => rw [was]; exact .process ..

/-- Every entry of `s` that holds an outcome is in `t`, the same up to the process ID in it. -/
def KeepsOutcomes (s t : Store) : Prop :=
  ∀ o op, s.operations.get? o = some op → op.outcome ≠ .prepared →
    ∃ outcome, t.operations.get? o = some { op with outcome } ∧ SameButPid op.outcome outcome

theorem KeepsOutcomes.refl (s : Store) : KeepsOutcomes s s :=
  fun _ op ho _ => ⟨op.outcome, ho, .same _⟩

theorem KeepsOutcomes.trans (hst : KeepsOutcomes s t) (ht : KeepsOutcomes t u) :
    KeepsOutcomes s u := by
  intro o op ho hs
  obtain ⟨oc, ho', hsm⟩ := hst o op ho hs
  obtain ⟨oc', ho'', hsm'⟩ := ht o _ ho' (hsm.settled hs)
  exact ⟨oc', ho'', hsm.trans hsm'⟩

/-- One commit: only a replay rewrites an entry that holds an outcome. -/
theorem Write.keepsOutcomes (h : Write sdk actor s t) : KeepsOutcomes s t := by
  intro o op hop hs
  cases h with
  | @operation new _ step =>
    by_cases ho : o = new.operationId
    · subst ho
      have hn := Store.writeOperation_self s new
      cases step with
      | create fresh => rw [fresh] at hop; cases hop
      | journal fresh => rw [fresh] at hop; cases hop
      | settle found prepared =>
        cases found.symm.trans hop
        exact absurd prepared hs
      | rebind found rebound =>
        cases found.symm.trans hop
        exact ⟨_, hn, rebound.sameButPid⟩
    · exact ⟨op.outcome, (Directory.get?_write_of_ne _ _ ho).trans hop, .same _⟩
  | generation => exact ⟨op.outcome, hop, .same _⟩
  | directory => exact ⟨op.outcome, hop, .same _⟩
  | quarantine => exact ⟨op.outcome, hop, .same _⟩
  | event => exact ⟨op.outcome, hop, .same _⟩

/-- A commit on behalf of one operation leaves the entries of all others alone. -/
theorem Write.operation_of_ne (h : Write sdk actor s t) (ho : actor ≠ some o) :
    t.operations.get? o = s.operations.get? o := by
  cases h with
  | @operation new by_actor step =>
    have hn : o ≠ new.operationId := by
      rintro rfl
      exact ho by_actor
    exact Directory.get?_write_of_ne _ _ hn
  | generation => rfl
  | directory => rfl
  | quarantine => rfl
  | event => rfl

theorem Settled.kept (h : Settled s o) (hk : KeepsOutcomes s t) : Settled t o := by
  obtain ⟨op, ho, hs⟩ := h
  obtain ⟨outcome, ho', hsm⟩ := hk o op ho hs
  exact ⟨_, ho', hsm.settled hs⟩

theorem Settled.not_granted (h : Settled s o) : ¬Granted s o := by
  rintro ⟨op, ho, hp, -⟩
  obtain ⟨op', ho', hs⟩ := h
  cases ho.symm.trans ho'
  exact hs hp

/-- No prepare call grants an operation that holds its outcome. -/
theorem Settled.refuses (h : Settled s o) (hs : Sound sdk s) (ha : call.actor s = some o) :
    call.run.result s ≠ .ok .granted := by
  intro hgr
  have hsp := call.run_spec hs
  obtain ⟨o', ho', hg⟩ := (hsp.of_result hgr).granted rfl
  cases ha.symm.trans ho'
  refine Settled.not_granted ?_ hg
  exact h.kept (isChain_getLastD hsp.chain (fun _ _ hx hxy => hx.trans hxy.keepsOutcomes) (.refl s))

/-! ## Conclusions -/

/-- The program leaves the operation journal as it is. -/
def Inert {α : Type} (m : StoreM α) (s : Store) : Prop :=
  Yields (fun x y => y.operations = x.operations) m s fun _ _ => True

theorem Inert.pure : Inert (pure a) s := Yields.pure trivial

/-- What all completions share: the entry is loaded, its kind is checked and its outcome is
    replayed. Only the rest of the completion, for an entry without outcome, commits anything. -/
theorem Inert.completion {β : Type} [DecidablePred wrong] {verdict : StoredOperation → Result α}
    {rest : StoredOperation → α → StoreM β} (h : Settled s o)
    (hr : ∀ op a, verdict op = .ok a → op.outcome ≠ .prepared → Inert (rest op a) s) :
    Inert (do
      let op ← read (loadOperation sdk o)
      rejectIf (wrong op) (refusal op)
      let done ← check (verdict op)
      rest op done) s := by
  refine .read_bind fun op hl => ?_
  obtain ⟨op', ho', hs⟩ := h
  cases ho'.symm.trans (loadOperation_ok.mp hl).1
  exact .rejectIf_bind fun _ => .check_bind fun a ha => hr op a ha hs

/-- The completions that answer with a response. -/
theorem Inert.replay {β : Type} [DecidablePred wrong] {invalid : StoredOperation → Error}
    {reader : StoredOperationStatus → Error → Result (Option α)}
    {rest : StoredOperation → Option α → StoreM β} (h : Settled s o) (hr : ReadsOutcome reader)
    (hso : ∀ op a, Inert (rest op (some a)) s) :
    Inert (do
      let op ← read (loadOperation sdk o)
      rejectIf (wrong op) (refusal op)
      let done ← check (reader op.outcome (invalid op))
      rest op done) s := by
  refine Inert.completion h fun op done hd hs => ?_
  cases done with
  | none => exact absurd ((hr hd).mp rfl) hs
  | some a => exact hso op a

/-- The completions that answer with nothing. -/
theorem Inert.acknowledge [DecidablePred wrong] {invalid : StoredOperation → Error}
    {rest : StoredOperation → StoreM Unit} (h : Settled s o) :
    Inert (do
      let op ← read (loadOperation sdk o)
      rejectIf (wrong op) (refusal op)
      let done ← check (emptyOutcome op.outcome (invalid op))
      if done then Pure.pure () else rest op) s := by
  refine Inert.completion h fun op done hd hs => ?_
  cases done with
  | false => exact absurd ((emptyOutcome_ok hd).2 rfl) hs
  | true => exact Inert.pure

section Completions

variable {paused terminal : Bool}

section
variable (h : Settled s o)
include h

theorem completeCreate_settled : Inert (completeCreate sdk clock o pid) s := by
  refine .rejectIf_bind fun _ => ?_
  exact Inert.replay h recordOutcome_reads fun _ _ => Inert.pure

theorem completeRestore_settled : Inert (completeRestore sdk clock o pid) s := by
  refine .rejectIf_bind fun _ => ?_
  exact Inert.replay h restoreOutcome_reads fun _ _ => Inert.pure

theorem completeStart_settled : Inert (completeStart sdk clock o sta reported) s := by
  refine .check_bind fun _ _ => ?_
  exact Inert.replay h recordOutcome_reads fun _ _ => Inert.pure

theorem completeKill_settled : Inert (completeKill sdk clock o sta reported) s := by
  refine .check_bind fun _ _ => ?_
  exact Inert.replay h recordOutcome_reads fun _ _ => Inert.pure

theorem completeFreezer_settled {action : FreezerAction} :
    Inert (completeFreezer sdk clock o sta reported paused action) s := by
  refine .check_bind fun _ _ => ?_
  exact Inert.replay h recordOutcome_reads fun _ _ => Inert.pure

theorem completeUpdate_settled : Inert (completeUpdate sdk clock o sta reported paused) s := by
  refine .check_bind fun _ _ => ?_
  exact Inert.replay h recordOutcome_reads fun _ _ => Inert.pure

theorem completeFilesystemMutationOperation_settled :
    Inert (completeFilesystemMutationOperation sdk o response profile) s := by
  exact Inert.replay h filesystemOutcome_reads fun _ _ => Inert.pure

theorem completeFileMutation_settled : Inert (completeFileMutation sdk o response) s := by
  refine Yields.bind (completeFilesystemMutationOperation_settled h) fun done t _ => ?_
  cases done with
  | file => exact Inert.pure
  | filesystem => exact .throw

theorem completeFilesystemMutation_settled :
    Inert (completeFilesystemMutation sdk o response) s := by
  refine Yields.bind (completeFilesystemMutationOperation_settled h) fun done t _ => ?_
  cases done with
  | file => exact .throw
  | filesystem => exact Inert.pure

theorem completeCheckpoint_settled : Inert (completeCheckpoint sdk o response) s := by
  exact Inert.replay h checkpointOutcome_reads fun _ _ => Inert.pure

theorem completeAttestation_settled : Inert (completeAttestation sdk clock o response) s := by
  exact Inert.replay h attestationOutcome_reads fun _ _ => Inert.pure

theorem completeExec_settled : Inert (completeExec sdk clock o pid terminal) s := by
  refine .check_bind fun _ _ => ?_
  exact Inert.replay h processOutcome_reads fun _ _ => Inert.pure

theorem completeDelete_settled : Inert (completeDelete sdk clock o) s := by
  exact Inert.acknowledge h

theorem completeSignalProcess_settled : Inert (completeSignalProcess sdk o) s := by
  exact Inert.acknowledge h

theorem completeProcessIoOperation_settled :
    Inert (completeProcessIoOperation sdk o profile) s := by
  exact Inert.acknowledge h

end

end Completions

/-- Finishing the quarantine of a failed creation moves its directory only. -/
theorem reconcileFailedCreation_inert : Inert (reconcileFailedCreation sdk op) s := by
  refine .rejectIf_bind fun _ => .rejectIf_bind fun _ => ?_
  refine .read_bind fun source _ => .read_bind fun quarantined _ => ?_
  split
  · refine .read_bind fun stored hs => .check_bind fun _ _ => ?_
    obtain ⟨⟨d, hd, -⟩, -⟩ := loadStoredExact_ok.mp hs
    refine .commit ?_ trivial
    rw [Store.quarantineContainer_eq hd]
  · exact .read_bind fun live _ => .rejectIf fun _ => trivial
  · exact Inert.pure

theorem failOperation_settled (h : Settled s o) : Inert (failOperation sdk o error) s := by
  unfold failOperation
  split
  · exact Inert.pure
  · refine .read_bind fun op hl => ?_
    obtain ⟨op', ho', hs⟩ := h
    cases ho'.symm.trans (loadOperation_ok.mp hl).1
    split
    · rename_i hp
      exact absurd hp hs
    · split
      · unfold reconcileFailure
        split
        · exact reconcileFailedCreation_inert
        · exact Inert.pure
      · exact .throw
    · exact .throw

/-- Completions and failures. -/
def Call.concludes : Call sdk → Bool
  | .completeCreate .. | .completeRestore .. | .completeStart .. | .completeKill ..
  | .completeDelete .. | .completeFreezer .. | .completeUpdate .. | .completeFileMutation ..
  | .completeFilesystemMutation .. | .completeCheckpoint .. | .completeAttestation ..
  | .completeExec .. | .completeSignalProcess .. | .completeWriteStdin ..
  | .completeCloseStdin .. | .completeResize .. | .failOperation .. | .completeProcessWait .. => true
  | _ => false

theorem Inert.answering (h : Inert m s) : Inert (answering m).run s :=
  h.map fun _ _ _ => trivial

/-- A completion or failure of a settled operation leaves the journal alone. -/
theorem Call.concludes_settled (hc : call.concludes = true) (ha : call.actor s = some o)
    (h : Settled s o) : Inert call.run s := by
  cases call with
  | completeCreate => cases ha; exact (completeCreate_settled h).answering
  | completeRestore => cases ha; exact (completeRestore_settled h).answering
  | completeStart => cases ha; exact (completeStart_settled h).answering
  | completeKill => cases ha; exact (completeKill_settled h).answering
  | completeDelete => cases ha; exact (completeDelete_settled h).answering
  | completeFreezer => cases ha; exact (completeFreezer_settled h).answering
  | completeUpdate => cases ha; exact (completeUpdate_settled h).answering
  | completeFileMutation => cases ha; exact (completeFileMutation_settled h).answering
  | completeFilesystemMutation =>
    cases ha; exact (completeFilesystemMutation_settled h).answering
  | completeCheckpoint => cases ha; exact (completeCheckpoint_settled h).answering
  | completeAttestation => cases ha; exact (completeAttestation_settled h).answering
  | completeExec => cases ha; exact (completeExec_settled h).answering
  | completeSignalProcess => cases ha; exact (completeSignalProcess_settled h).answering
  | completeWriteStdin => cases ha; exact (completeProcessIoOperation_settled h).answering
  | completeCloseStdin => cases ha; exact (completeProcessIoOperation_settled h).answering
  | completeResize => cases ha; exact (completeProcessIoOperation_settled h).answering
  | failOperation => cases ha; exact (failOperation_settled h).answering
  | completeProcessWait => cases ha
  | _ => cases hc

/-- No completion or failure, of this operation or another one, changes a settled entry. -/
theorem Settled.concluded (h : Settled s o) (hs : Sound sdk s) (hc : call.concludes = true) :
    ∀ u ∈ call.run.states s, u.operations.get? o = s.operations.get? o := by
  by_cases ha : call.actor s = some o
  · refine isChain_invariant (call.concludes_settled hc ha h).chain ?_ rfl
    rintro x y hx hxy
    rw [hxy, hx]
  · refine isChain_invariant (call.run_spec hs).chain ?_ rfl
    rintro x y hx hxy
    rw [hxy.operation_of_ne ha, hx]

/-! ## Finality -/

/-- **Outcomes are final.** Once an entry of the journal holds an outcome, in every later state of
    the run it holds the same outcome up to a process ID in a recorded response, no prepare call
    grants its operation, and no completion or failure changes the entry at all. -/
theorem settled_is_final {l before later : List Store} (h : Trace sdk l)
    (hl : .empty :: l = before ++ s :: later) {op : StoredOperation}
    (hop : s.operations.get? o = some op) (hset : op.outcome ≠ .prepared) (ht : t ∈ s :: later) :
    (∃ outcome, t.operations.get? o = some { op with outcome } ∧ SameButPid op.outcome outcome) ∧
      (∀ call : Call sdk, call.actor t = some o → call.run.result t ≠ .ok .granted) ∧
      ∀ call : Call sdk, call.concludes = true →
        ∀ u ∈ call.run.states t, u.operations.get? o = t.operations.get? o := by
  obtain ⟨hs, hk⟩ := h.later hl (I := KeepsOutcomes s)
    (fun x y hx hxy => hx.trans hxy.choose_spec.keepsOutcomes) (.refl s) t ht
  have hf : Settled t o := Settled.kept ⟨op, hop, hset⟩ hk
  exact ⟨hk o op hop hset, fun call => hf.refuses hs, fun call => hf.concluded hs⟩

/-- The first create, once `web` was deleted and created again. -/
theorem settled_is_final_recreated :
    ∃ op, (Sample.recreation.getD 12 .empty).operations.get? Sample.opA = some op ∧
      op.outcome ≠ .prepared ∧
      (∃ outcome, (Sample.recreation.getD 35 .empty).operations.get? Sample.opA =
        some { op with outcome } ∧ SameButPid op.outcome outcome) ∧
      (Sample.create Sample.opA).run.result (Sample.recreation.getD 35 .empty) ≠ .ok .granted := by
  have hen : ((Sample.recreation.getD 12 .empty).operations.get? Sample.opA).map
      (fun op => decide (op.outcome = .prepared)) = some false := by decide +kernel
  obtain ⟨op, hop, ho⟩ := Option.map_eq_some_iff.mp hen
  have hs : op.outcome ≠ .prepared := of_decide_eq_false ho
  obtain ⟨before, later, hl, ht⟩ := cons_eq_append_getD .empty .empty (l := Sample.recreation)
    (show 12 ≤ 35 by decide) (by decide +kernel)
  obtain ⟨hk, hr, -⟩ := settled_is_final (Trace.visited _) hl hop hs ht
  exact ⟨op, hop, hs, hk, hr _ rfl⟩

/-- **Nothing is forgotten.** In every later state of a run the journal has every entry, with the
    same target and request, and the quarantine has every directory as it was. -/
theorem nothing_is_forgotten {l before later : List Store} (h : Trace sdk l)
    (hl : .empty :: l = before ++ s :: later) (ht : t ∈ s :: later) :
    JournalGrows s.operations t.operations ∧
      ∀ tb d, s.quarantine.get? tb = some d → t.quarantine.get? tb = some d := by
  refine (h.later hl (I := fun x => JournalGrows s.operations x.operations ∧
    ∀ tb d, s.quarantine.get? tb = some d → x.quarantine.get? tb = some d) ?_
    ⟨.refl _, fun _ _ => id⟩ t ht).2
  rintro x y ⟨hg, hq⟩ ⟨_, hw⟩
  exact ⟨hg.trans hw.grows, fun tb d hd => hw.quarantine_kept (hq tb d hd)⟩

/-- The journal and the quarantine after the deletion of `web` are there when it was created again. -/
theorem nothing_is_forgotten_recreated :
    let s := Sample.recreation.getD 22 .empty
    let t := Sample.recreation.getD 35 .empty
    (s.operations.get? Sample.opB).isSome ∧ (t.operations.get? Sample.opC).isSome ∧
      JournalGrows s.operations t.operations ∧
      ∃ d, s.quarantine.get? ⟨Sample.opB, .deleted⟩ = some d ∧
        t.quarantine.get? ⟨Sample.opB, .deleted⟩ = some d := by
  intro s t
  obtain ⟨before, later, hl, ht⟩ := cons_eq_append_getD .empty .empty (l := Sample.recreation)
    (show 22 ≤ 35 by decide) (by decide +kernel)
  obtain ⟨hg, hq⟩ := nothing_is_forgotten (Trace.visited _) hl ht
  have hd : (s.quarantine.get? ⟨Sample.opB, .deleted⟩).isSome = true := by decide +kernel
  obtain ⟨d, hd⟩ := Option.isSome_iff_exists.mp hd
  exact ⟨by decide +kernel, by decide +kernel, hg, d, hd, hq _ d hd⟩

end OciRuntime
