import OciRuntime.Agent.Journal

/-!
# `OciRuntime.Property.GuestJournal` — a mutation runs once until it is released

Whatever the order in which requests arrive, tasks finish, callers go away and the host releases
operations, an operation has at most one run of its effect between two releases; every caller that
asks for the same mutation is told its outcome, every other caller of that operation a conflict. An
exec is an exception in two ways: it looks for its container before it comes to the journal, and the
order in which its capability sets are iterated makes it another request.

## Contents
- **Claims only grow.** `ClaimsKept`, `Fair.mono`.
- **Invariant.** `Guest.Sound` and how the claims of an operation are found.
- **One action, whole runs.** `Sound.step`, `Sound.run`; `Every`: what holds of every request.
- **Results.** `guest_mutations_run_once`, `journal_mirrors_runs`.
-/

namespace OciRuntime

open Durable

variable {ρ α : Type}

variable {caller : Caller ρ} {result : Result α} {n : Nat} {claim : Claim ρ α}
  {journal next : ExecutorState α} {β : OperationId → Type}

/-! ## Claims only grow -/

/-- Later claims: none is lost or renamed, and an outcome that is there stays. -/
def ClaimsKept (claims later : List (Claim ρ α)) : Prop :=
  ∀ (n : Nat) (claim : Claim ρ α), claims[n]? = some claim →
    ∃ next : Claim ρ α, later[n]? = some next ∧
    next.operationId = claim.operationId ∧ next.mutation = claim.mutation ∧
    ∀ outcome, claim.outcome = some outcome → next.outcome = some outcome

theorem claimsKept_append (claims more : List (Claim ρ α)) : ClaimsKept claims (claims ++ more) :=
  fun n claim h => ⟨claim, by
    rw [List.getElem?_append_left (List.getElem?_eq_some_iff.mp h).1]
    exact h, rfl, rfl, fun _ ho => ho⟩

/-- What a publication changes. -/
theorem getElem?_publish (claims : List (Claim ρ α)) (channel n : Nat)
    (oc : RecordedOutcome α) : (claims.modify channel (Claim.publish oc))[n]? =
      if channel = n then claims[n]?.map (Claim.publish oc) else claims[n]? := by
  rw [List.getElem?_modify]
  split
  · rfl
  · cases claims[n]? <;> rfl

/-- Publishing on a channel that held nothing. -/
theorem claimsKept_publish {claims : List (Claim ρ α)} (outcome : RecordedOutcome α)
    (h : ∀ claim, claims[channel]? = some claim → claim.outcome = none) :
    ClaimsKept claims (claims.modify channel (Claim.publish outcome)) := by
  intro n claim hc
  rw [getElem?_publish, hc]
  by_cases hn : channel = n
  · subst hn
    rw [if_pos rfl]
    exact ⟨_, rfl, rfl, rfl, fun o ho => by simp [h claim hc] at ho⟩
  · rw [if_neg hn]
    exact ⟨claim, rfl, rfl, rfl, fun _ ho => ho⟩

theorem claimsKept_release (claims : List (Claim ρ α)) (operationIds : List OperationId) :
    ClaimsKept claims (claims.map (Claim.release operationIds)) := by
  intro n claim hc
  rw [List.getElem?_map, hc]
  exact ⟨_, rfl, rfl, rfl, fun _ ho => ho⟩

/-- What a caller may be told: the outcome of the claim it joined if it asked for the same mutation,
    a conflict if it asked for another one, and without a claim that the journal is full. -/
def Fair (same : Mutation ρ → Mutation ρ → Prop) (claims : List (Claim ρ α)) (caller : Caller ρ)
    (result : Result α) : Prop :=
  match caller.joined with
  | some n => ∃ claim : Claim ρ α, claims[n]? = some claim ∧
      claim.operationId = caller.operationId ∧
      (same claim.mutation caller.mutation → ∃ outcome, claim.outcome = some outcome ∧
        result = outcome.result) ∧
      (¬same claim.mutation caller.mutation →
        ∃ error, result = .error error ∧ error.code = .conflict)
  | none => ∃ error, result = .error error ∧ error.code = .resourceExhausted

theorem Fair.mono (h : Fair same claims caller result) (hk : ClaimsKept claims later) :
    Fair same later caller result := by
  unfold Fair at h ⊢
  cases hj : caller.joined with
  | none =>
    rw [hj] at h
    exact h
  | some n =>
    rw [hj] at h
    obtain ⟨claim, hc, hp, hs, ht⟩ := h
    obtain ⟨next, hn, hop, hmt, hou⟩ := hk n claim hc
    refine ⟨next, hn, hop.trans hp, fun hm => ?_, fun hm => ht (hmt ▸ hm)⟩
    obtain ⟨oc, ho, hr⟩ := hs (hmt ▸ hm)
    exact ⟨oc, hou oc ho, hr⟩

theorem Fair.congr (h : Fair same claims caller result)
    (hs : ∀ claim ∈ claims, claim.operationId = caller.operationId →
      (same claim.mutation caller.mutation ↔ same' claim.mutation caller.mutation)) :
    Fair same' claims caller result := by
  unfold Fair at h ⊢
  cases hj : caller.joined with
  | none =>
    rw [hj] at h
    exact h
  | some n =>
    rw [hj] at h
    obtain ⟨claim, hc, ho, hsm, hdf⟩ := h
    have hi := hs claim (List.mem_of_getElem? hc) ho
    exact ⟨claim, hc, ho, fun h => hsm (hi.mpr h), fun h => hdf (mt hi.mp h)⟩

/-! ## Invariant -/

/-- The journal does not tell the mutations apart. -/
abbrev Alike (fingerprint : Fingerprint ρ) (first second : Mutation ρ) : Prop :=
  first.recorded fingerprint = second.recorded fingerprint

theorem Alike.kind {fingerprint : Fingerprint ρ} {first second : Mutation ρ}
    (h : Alike fingerprint first second) : first.kind = second.kind :=
  (RecordedRequest.mk.inj h).1

/-- The journal entry of a claim that was not released: pending while there is no outcome, recorded
    with it afterwards. -/
def Claim.Entered (fingerprint : Fingerprint ρ) (journal : ExecutorState α) (n : Nat)
    (claim : Claim ρ α) : Prop :=
  match claim.outcome with
  | none => claim.mutation.kind.immediate = false ∧
    journal.pendingOperations.lookup claim.operationId =
      some ⟨claim.mutation.recorded fingerprint, claim.mutation.kind.outcomeKind, n⟩
  | some outcome => outcome.kind = claim.mutation.kind.outcomeKind ∧
    journal.operations.lookup claim.operationId =
      some ⟨claim.mutation.recorded fingerprint, outcome⟩

namespace Guest

/-- Besides what is fair, a caller that is `refused` may be told anything: an exec that does not find
    its container. -/
structure Sound (refused : Caller ρ → Prop) (fingerprint : Fingerprint ρ) (guest : Guest ρ α) :
    Prop where
  entered : ∀ (n : Nat) (claim : Claim ρ α), guest.claims[n]? = some claim → claim.released = false →
    claim.Entered fingerprint guest.journal n
  pending : ∀ operationId ∈ guest.journal.pendingOperations, ∃ (n : Nat) (claim : Claim ρ α),
    guest.claims[n]? = some claim ∧ claim.operationId = operationId ∧ claim.released = false ∧
      claim.outcome = none
  recorded : ∀ operationId ∈ guest.journal.operations, ∃ (n : Nat) (claim : Claim ρ α),
    guest.claims[n]? = some claim ∧ claim.operationId = operationId ∧ claim.released = false ∧
      claim.outcome ≠ none
  once : ∀ (m n : Nat) (first second : Claim ρ α), guest.claims[m]? = some first →
    guest.claims[n]? = some second →
    first.released = false → second.released = false →
    first.operationId = second.operationId → m = n
  kinds : ∀ (claim : Claim ρ α) (outcome : RecordedOutcome α), claim ∈ guest.claims →
    claim.outcome = some outcome → outcome.kind = claim.mutation.kind.outcomeKind
  room : guest.journal.operations.keys.length + guest.journal.pendingOperations.keys.length ≤
    maxOperationRecords
  waiting : ∀ caller ∈ guest.waiting, ∃ (n : Nat) (claim : Claim ρ α), caller.joined = some n ∧
    guest.claims[n]? = some claim ∧ claim.operationId = caller.operationId ∧
    Alike fingerprint claim.mutation caller.mutation
  resolved : ∀ caller ∈ guest.resolved, caller.mutation.kind = .exec
  told : ∀ entry ∈ guest.told,
    Fair (Alike fingerprint) guest.claims entry.1 entry.2 ∨ refused entry.1

variable {refused : Caller ρ → Prop}

theorem sound_start (fingerprint : Fingerprint ρ) :
    Sound refused fingerprint (start : Guest ρ α) where
  entered := by simp [start]
  pending := by simp [start, ExecutorState.empty, AList.notMem_empty]
  recorded := by simp [start, ExecutorState.empty, AList.notMem_empty]
  once := by simp [start]
  kinds := by simp [start]
  room := by simp [start, ExecutorState.empty]
  waiting := by simp [start]
  resolved := by simp [start]
  told := by simp [start]

variable {fingerprint : Fingerprint ρ} {guest : Guest ρ α} {operationId : OperationId}

/-- A caller goes on waiting for the claim it has joined. -/
theorem Sound.waits (h : Sound refused fingerprint guest) (hk : ClaimsKept guest.claims later)
    (hc : caller ∈ guest.waiting) : ∃ (n : Nat) (claim : Claim ρ α), caller.joined = some n ∧
      later[n]? = some claim ∧ claim.operationId = caller.operationId ∧
      Alike fingerprint claim.mutation caller.mutation := by
  obtain ⟨n, claim, hj, ht, hp, hm⟩ := h.waiting caller hc
  obtain ⟨kept, hkt, hkp, hl, -⟩ := hk n claim ht
  exact ⟨n, kept, hj, hkt, hkp.trans hp, hl ▸ hm⟩

/-- The claim of an operation that was not released is the current one. -/
theorem Sound.current_eq (h : Sound refused fingerprint guest) (hc : guest.claims[n]? = some claim)
    (hp : claim.operationId = operationId) (hr : claim.released = false) :
    guest.current operationId = some n := by
  cases hcr : guest.current operationId with
  | none =>
    have hn := List.findIdx?_eq_none_iff.mp hcr claim (List.mem_of_getElem? hc)
    simp [hp, hr] at hn
  | some m =>
    obtain ⟨hl, hf, -⟩ := List.findIdx?_eq_some_iff_getElem.mp hcr
    simp only [decide_eq_true_eq] at hf
    rw [h.once m n _ claim (List.getElem?_eq_getElem hl) hc hf.2 hr (hf.1.trans hp.symm)]

theorem exists_of_current (hc : guest.current operationId = some n) :
    ∃ claim, guest.claims[n]? = some claim ∧ claim.operationId = operationId ∧
      claim.released = false := by
  obtain ⟨hl, hf, -⟩ := List.findIdx?_eq_some_iff_getElem.mp hc
  simp only [decide_eq_true_eq] at hf
  exact ⟨_, List.getElem?_eq_getElem hl, hf.1, hf.2⟩

/-- Where an operation stands: in no map, or in one of them under its current claim. -/
inductive Found (fingerprint : Fingerprint ρ) (guest : Guest ρ α) (operationId : OperationId) : Prop
  | absent (pending : guest.journal.pendingOperations.lookup operationId = none)
      (recorded : guest.journal.operations.lookup operationId = none)
      (current : guest.current operationId = none)
  | pending {n : Nat} {claim : Claim ρ α} (found : guest.claims[n]? = some claim)
      (operation : claim.operationId = operationId) (released : claim.released = false)
      (outcome : claim.outcome = none) (detached : claim.mutation.kind.immediate = false)
      (pending : guest.journal.pendingOperations.lookup operationId =
        some ⟨claim.mutation.recorded fingerprint, claim.mutation.kind.outcomeKind, n⟩)
      (recorded : guest.journal.operations.lookup operationId = none)
      (current : guest.current operationId = some n)
  | recorded {n : Nat} {claim : Claim ρ α} {result : Result α} (found : guest.claims[n]? = some claim)
      (operation : claim.operationId = operationId) (released : claim.released = false)
      (outcome : claim.outcome = some ⟨claim.mutation.kind.outcomeKind, result⟩)
      (pending : guest.journal.pendingOperations.lookup operationId = none)
      (recorded : guest.journal.operations.lookup operationId =
        some ⟨claim.mutation.recorded fingerprint, claim.mutation.kind.outcomeKind, result⟩)
      (current : guest.current operationId = some n)

section
variable (h : Sound refused fingerprint guest)
include h

theorem Sound.found (operationId : OperationId) : Found fingerprint guest operationId := by
  cases hcr : guest.current operationId with
  | none =>
    have hnn (n : Nat) (claim : Claim ρ α) (hc : guest.claims[n]? = some claim)
        (hp : claim.operationId = operationId) (hrl : claim.released = false) :
        False := by
      rw [h.current_eq hc hp hrl] at hcr
      cases hcr
    refine .absent (AList.lookup_eq_none.mpr fun hm => ?_)
      (AList.lookup_eq_none.mpr fun hm => ?_) hcr
    · obtain ⟨n, claim, hc, hp, hrl, -⟩ := h.pending operationId hm
      exact hnn n claim hc hp hrl
    · obtain ⟨n, claim, hc, hp, hrl, -⟩ := h.recorded operationId hm
      exact hnn n claim hc hp hrl
  | some n =>
    obtain ⟨claim, hc, rfl, hrl⟩ := exists_of_current hcr
    have hn := h.entered n claim hc hrl
    -- the claim of the other map would be the same one
    have hs {m : Nat} {other : Claim ρ α} (ht : guest.claims[m]? = some other)
        (hp : other.operationId = claim.operationId) (hr : other.released = false) :
        other = claim := by
      rw [h.once m n other claim ht hc hr hrl hp] at ht
      exact Option.some.inj (ht.symm.trans hc)
    cases hou : claim.outcome with
    | none =>
      simp only [Claim.Entered, hou] at hn
      refine .pending hc rfl hrl hou hn.1 hn.2 (AList.lookup_eq_none.mpr fun hm => ?_) hcr
      obtain ⟨m, other, ht, hp, hr, ho⟩ := h.recorded _ hm
      exact ho (hs ht hp hr ▸ hou)
    | some outcome =>
      simp only [Claim.Entered, hou] at hn
      obtain ⟨kind, result⟩ := outcome
      obtain ⟨rfl, hrc⟩ := hn
      refine .recorded hc rfl hrl hou (AList.lookup_eq_none.mpr fun hm => ?_) hrc hcr
      obtain ⟨m, other, ht, hp, hr, ho⟩ := h.pending _ hm
      rw [hs ht hp hr, hou] at ho
      cases ho

/-! ## One action -/

theorem Sound.tell (hf : Fair (Alike fingerprint) guest.claims caller result ∨ refused caller) :
    Sound refused fingerprint (guest.tell caller result) := by
  refine { h with told := fun entry hen => ?_ }
  rcases List.mem_append.mp hen with hen | hen
  · exact h.told entry hen
  · obtain rfl := List.mem_singleton.mp hen
    exact hf

theorem Sound.wait (hj : caller.joined = some n)
    (hc : guest.claims[n]? = some claim) (hp : claim.operationId = caller.operationId)
    (hm : Alike fingerprint claim.mutation caller.mutation) :
    Sound refused fingerprint (guest.wait caller) := by
  refine { h with waiting := fun other ht => ?_ }
  rcases List.mem_append.mp ht with ht | ht
  · exact h.waiting other ht
  · obtain rfl := List.mem_singleton.mp ht
    exact ⟨n, claim, hj, hc, hp, hm⟩

/-- Callers may go away, and containers come and go. -/
theorem Sound.unwait {resolved waiting : List (Caller ρ)} (hr : resolved ⊆ guest.resolved)
    (hs : waiting ⊆ guest.waiting) (containers : List ContainerKey) :
    Sound refused fingerprint { guest with resolved, waiting, containers } :=
  { h with
    resolved := fun caller hc => h.resolved caller (hr hc)
    waiting := fun caller hc => h.waiting caller (hs hc) }

end

/-- Two journals that agree about an operation. -/
structure Agree (journal next : ExecutorState α) (operationId : OperationId) : Prop where
  pending : next.pendingOperations.lookup operationId = journal.pendingOperations.lookup operationId
  recorded : next.operations.lookup operationId = journal.operations.lookup operationId

theorem Agree.entered (h : Agree journal next claim.operationId)
    (hn : claim.Entered fingerprint journal n) : claim.Entered fingerprint next n := by
  unfold Claim.Entered at hn ⊢
  rw [h.pending, h.recorded]
  exact hn

theorem Agree.mem_pending (h : Agree journal next operationId)
    (hm : operationId ∈ next.pendingOperations) : operationId ∈ journal.pendingOperations := by
  rw [← AList.lookup_isSome] at hm ⊢
  rwa [← h.pending]

theorem Agree.mem_recorded (h : Agree journal next operationId)
    (hm : operationId ∈ next.operations) : operationId ∈ journal.operations := by
  rw [← AList.lookup_isSome] at hm ⊢
  rwa [← h.recorded]

/-- A new claim of an operation that has no current one. -/
theorem Sound.addClaim (h : Sound refused fingerprint guest) (claim : Claim ρ α)
    (next : ExecutorState α)
    (hc : guest.current claim.operationId = none) (hrl : claim.released = false)
    (hnt : claim.Entered fingerprint next guest.claims.length)
    (hg : ∀ operationId ≠ claim.operationId, Agree guest.journal next operationId)
    (hpn : claim.operationId ∈ next.pendingOperations → claim.outcome = none)
    (hrc : claim.operationId ∈ next.operations → claim.outcome ≠ none)
    (hrm : next.operations.keys.length + next.pendingOperations.keys.length ≤ maxOperationRecords) :
    Sound refused fingerprint { guest with journal := next, claims := guest.claims ++ [claim] } := by
  have hk := claimsKept_append guest.claims [claim]
  have hnw : (guest.claims ++ [claim])[guest.claims.length]? = some claim := by simp
  have hold {n : Nat} {other : Claim ρ α} (ht : guest.claims[n]? = some other) :
      (guest.claims ++ [claim])[n]? = some other := by
    rw [List.getElem?_append_left (List.getElem?_eq_some_iff.mp ht).1]
    exact ht
  -- an entry of the longer list is an old claim or the new one
  have hcs {n : Nat} {other : Claim ρ α} (ht : (guest.claims ++ [claim])[n]? = some other) :
      guest.claims[n]? = some other ∨ (n = guest.claims.length ∧ other = claim) := by
    rcases Nat.lt_or_ge n guest.claims.length with hl | hge
    · rw [List.getElem?_append_left hl] at ht
      exact .inl ht
    · rw [List.getElem?_append_right hge, List.getElem?_singleton] at ht
      split at ht
      · exact .inr ⟨by omega, (Option.some.inj ht).symm⟩
      · cases ht
  have hfr {n : Nat} {other : Claim ρ α} (ht : guest.claims[n]? = some other)
      (hr : other.released = false) : other.operationId ≠ claim.operationId := by
    intro hp
    rw [h.current_eq ht hp hr] at hc
    cases hc
  constructor
  case entered =>
    intro n other ht hr
    rcases hcs ht with ht | ⟨rfl, rfl⟩
    · exact (hg _ (hfr ht hr)).entered (h.entered n other ht hr)
    · exact hnt
  case pending =>
    intro operationId hmm
    by_cases hp : operationId = claim.operationId
    · subst hp
      exact ⟨_, claim, hnw, rfl, hrl, hpn hmm⟩
    · obtain ⟨n, other, ht, hrs⟩ := h.pending operationId ((hg operationId hp).mem_pending hmm)
      exact ⟨n, other, hold ht, hrs⟩
  case recorded =>
    intro operationId hmm
    by_cases hp : operationId = claim.operationId
    · subst hp
      exact ⟨_, claim, hnw, rfl, hrl, hrc hmm⟩
    · obtain ⟨n, other, ht, hrs⟩ := h.recorded operationId ((hg operationId hp).mem_recorded hmm)
      exact ⟨n, other, hold ht, hrs⟩
  case once =>
    intro m n first second hf hs hr hr' hp
    rcases hcs hf with hm | ⟨hm, rfl⟩
    · rcases hcs hs with hn | ⟨-, rfl⟩
      · exact h.once m n first second hm hn hr hr' hp
      · exact absurd hp (hfr hm hr)
    · rcases hcs hs with hn | ⟨hn, -⟩
      · exact absurd hp.symm (hfr hn hr')
      · exact hm.trans hn.symm
  case kinds =>
    intro other outcome ht ho
    rcases List.mem_append.mp ht with ht | ht
    · exact h.kinds other outcome ht ho
    · obtain rfl := List.mem_singleton.mp ht
      simp only [Claim.Entered, ho] at hnt
      exact hnt.1
  case room => exact hrm
  case waiting => exact fun _ hcl => h.waits hk hcl
  case resolved => exact h.resolved
  case told => exact fun entry hen => (h.told entry hen).imp_left (·.mono hk)

/-- A recorded operation is replayed to the same mutation only. -/
theorem replay_recorded (mu : Mutation ρ) (h : guest.journal.operations.lookup operationId =
      some ⟨claim.mutation.recorded fingerprint, claim.mutation.kind.outcomeKind, result⟩) :
    ∃ answer, guest.journal.replay mu.kind.outcomeKind operationId
        (mu.recorded fingerprint) = some answer ∧
      (Alike fingerprint claim.mutation mu → answer = result) ∧
      (¬Alike fingerprint claim.mutation mu → answer = .error differentRequest) := by
  unfold ExecutorState.replay ExecutorState.validateRequest
  rw [h, Option.map_some]
  refine ⟨_, rfl, fun hs => ?_, fun ht => ?_⟩
  · simp [rejectIf, hs, Alike.kind hs, bind, Except.bind, pure, Except.pure]
  · simp [rejectIf, ht, bind, Except.bind, throw, throwThe, MonadExceptOf.throw]

theorem replay_absent (h : guest.journal.operations.lookup operationId = none) :
    guest.journal.replay kind operationId request = none := by
  rw [ExecutorState.replay, h]
  rfl

/-- A free operation is refused only by a full journal. -/
theorem reserve_absent (h : guest.journal.pendingOperations.lookup operationId = none) :
    (guest.journal.reserveOperation operationId = .ok () ∧
      guest.journal.operations.keys.length + guest.journal.pendingOperations.keys.length <
        maxOperationRecords) ∨
    ∃ error, guest.journal.reserveOperation operationId = .error error ∧
      error.code = .resourceExhausted := by
  have hfr : operationId ∉ guest.journal.pendingOperations := AList.lookup_eq_none.mp h
  unfold ExecutorState.reserveOperation
  by_cases hf : maxOperationRecords ≤
      guest.journal.operations.keys.length + guest.journal.pendingOperations.keys.length
  · refine .inr ?_
    simp only [rejectIf, if_neg hfr, if_pos hf]
    exact ⟨_, rfl, rfl⟩
  · refine .inl ⟨?_, by omega⟩
    simp [rejectIf, hfr, hf, bind, Except.bind, pure, Except.pure]

theorem reserve_pending (h : guest.journal.pendingOperations.lookup operationId = some pending) :
    guest.journal.reserveOperation operationId = .error (reusedOperation operationId) := by
  have hm : operationId ∈ guest.journal.pendingOperations := by
    rw [← AList.lookup_isSome, h]
    rfl
  simp [ExecutorState.reserveOperation, rejectIf, hm, bind, Except.bind]
  rfl

/-- A caller that asks for another mutation than the current one is told a conflict. -/
theorem fair_conflict (hj : caller.joined = some n) (hc : guest.claims[n]? = some claim)
    (hp : claim.operationId = caller.operationId)
    (ht : ¬Alike fingerprint claim.mutation caller.mutation) (hcd : error.code = .conflict) :
    Fair (Alike fingerprint) guest.claims caller (.error error) := by
  unfold Fair
  rw [hj]
  exact ⟨claim, hc, hp, fun h => absurd h ht, fun _ => ⟨error, rfl, hcd⟩⟩

theorem fair_refused (hj : caller.joined = none) (hc : error.code = .resourceExhausted) :
    Fair (Alike fingerprint) guest.claims caller (.error error) := by
  unfold Fair
  rw [hj]
  exact ⟨error, rfl, hc⟩

/-- How a replayed outcome is told. -/
theorem fair_replayed (hj : caller.joined = some n) (hc : guest.claims[n]? = some claim)
    (hp : claim.operationId = caller.operationId)
    (ho : claim.outcome = some ⟨claim.mutation.kind.outcomeKind, result⟩)
    (hs : Alike fingerprint claim.mutation caller.mutation → answer = result)
    (ht : ¬Alike fingerprint claim.mutation caller.mutation → answer = .error differentRequest) :
    Fair (Alike fingerprint) guest.claims caller answer := by
  unfold Fair
  rw [hj]
  exact ⟨claim, hc, hp, fun h => ⟨_, ho, hs h⟩, fun h => ⟨_, ht h, rfl⟩⟩

/-- What a request does to the guest besides its own answer: it joins the current claim of its
    operation, and makes one only if there is none. -/
structure Called (guest next : Guest ρ α) (caller : Caller ρ) : Prop where
  joined : caller.joined = next.current caller.operationId
  kept : guest.current caller.operationId ≠ none →
    next.journal = guest.journal ∧ next.claims = guest.claims
  noted : (∃ result, next.told = guest.told ++ [(caller, result)] ∧ next.waiting = guest.waiting) ∨
    (next.told = guest.told ∧ next.waiting = guest.waiting ++ [caller])

theorem called_tell (result : Result α) (h : caller.joined = guest.current caller.operationId) :
    Called guest (guest.tell caller result) caller :=
  ⟨h, fun _ => ⟨rfl, rfl⟩, .inl ⟨result, rfl, rfl⟩⟩

theorem called_wait (h : caller.joined = guest.current caller.operationId) :
    Called guest (guest.wait caller) caller :=
  ⟨h, fun _ => ⟨rfl, rfl⟩, .inr ⟨rfl, rfl⟩⟩

/-- The caller of a new claim joins it. -/
theorem Sound.called_addClaim
    (h : Sound refused fingerprint { guest with journal := next, claims := guest.claims ++ [claim] })
    (hc : guest.current claim.operationId = none) (hr : claim.released = false)
    {later : Guest ρ α} (number : Nat) (mu : Mutation ρ)
    (hcl : later.claims = guest.claims ++ [claim])
    (hn : (∃ result, later.told = guest.told ++
        [(⟨number, claim.operationId, mu, some guest.claims.length⟩, result)] ∧
        later.waiting = guest.waiting) ∨
      (later.told = guest.told ∧ later.waiting = guest.waiting ++
        [⟨number, claim.operationId, mu, some guest.claims.length⟩])) :
    Called guest later ⟨number, claim.operationId, mu, some guest.claims.length⟩ where
  joined := by
    have hc := h.current_eq List.getElem?_concat_length rfl hr
    rw [current, hcl]
    exact hc.symm
  kept hso := absurd hc hso
  noted := hn

theorem keys_length_insert {es : AList β} (h : es.lookup operationId = none) :
    (es.insert operationId value).keys.length = es.keys.length + 1 := by
  have hf : operationId ∉ es.keys := AList.lookup_eq_none.mp h
  rw [AList.keys_insert, List.erase_of_not_mem hf, List.length_cons]

theorem Sound.requestImmediate (h : Sound refused fingerprint guest) (number : Nat)
    (operationId : OperationId) {mu : Mutation ρ} (effect : Result α)
    (hi : mu.kind.immediate = true) :
    Sound refused fingerprint (guest.requestImmediate fingerprint number operationId mu effect) ∧
    ∃ joined, Called guest (guest.requestImmediate fingerprint number operationId mu effect)
      ⟨number, operationId, mu, joined⟩ := by
  unfold Guest.requestImmediate
  cases h.found operationId with
  | absent hp hrc hcr =>
    rcases reserve_absent hp with ⟨hrv, hrm⟩ | ⟨error, hrv, hcd⟩
    · simp only [replay_absent hrc, hrv]
      have ha := h.addClaim ⟨operationId, mu, some ⟨mu.kind.outcomeKind, effect⟩, false⟩
        (guest.journal.record operationId (mu.recorded fingerprint)
          ⟨mu.kind.outcomeKind, effect⟩) hcr rfl
        ⟨rfl, AList.lookup_insert _⟩
        (fun other ht => ⟨rfl, AList.lookup_insert_ne ht⟩)
        (fun hm => absurd hm (AList.lookup_eq_none.mp hp)) (fun _ => by simp)
        (by
          simp only [ExecutorState.record, keys_length_insert hrc]
          omega)
      simp only [List.length_append, List.length_singleton, Nat.add_sub_cancel]
      refine ⟨ha.tell (.inl ?_), _, ha.called_addClaim hcr rfl number mu rfl (.inl ⟨effect, rfl, rfl⟩)⟩
      exact ⟨_, List.getElem?_concat_length, rfl, fun _ => ⟨_, rfl, rfl⟩, fun hn => absurd rfl hn⟩
    · simp only [replay_absent hrc, hrv]
      exact ⟨h.tell (.inl <| fair_refused hcr hcd), _, called_tell _ rfl⟩
  | pending hc hpr hr ho hd hp hrc hcr =>
    simp only [replay_absent hrc, reserve_pending hp]
    -- a pending mutation is never an immediate one
    refine ⟨h.tell (.inl <| fair_conflict hcr hc hpr (fun hs => ?_) rfl), _, called_tell _ rfl⟩
    rw [hs.kind, hi] at hd
    cases hd
  | recorded hc hpr hr ho hp hrc hcr =>
    obtain ⟨answer, hrp, hs, ht⟩ := replay_recorded mu hrc
    simp only [hrp]
    exact ⟨h.tell (.inl <| fair_replayed hcr hc hpr ho hs ht), _, called_tell _ rfl⟩

/-- A request for an operation that is pending waits for it, or is rejected. -/
theorem prepare_pending (mu : Mutation ρ) (completion : Nat)
    (hr : guest.journal.operations.lookup operationId = none)
    (hp : guest.journal.pendingOperations.lookup operationId =
      some ⟨claim.mutation.recorded fingerprint, claim.mutation.kind.outcomeKind, n⟩) :
    (Alike fingerprint claim.mutation mu ∧
      guest.journal.prepareOperation mu.kind.outcomeKind operationId
        (mu.recorded fingerprint) completion = .ok (.pending n, guest.journal)) ∨
    (¬Alike fingerprint claim.mutation mu ∧
      ∃ error, guest.journal.prepareOperation mu.kind.outcomeKind
        operationId (mu.recorded fingerprint) completion = .error error ∧
      error.code = .conflict) := by
  unfold ExecutorState.prepareOperation ExecutorState.preparePendingOperation
  rw [replay_absent hr, hp]
  by_cases hs : Alike fingerprint claim.mutation mu
  · refine .inl ⟨hs, ?_⟩
    simp [rejectIf, ExecutorState.validateRequest, hs, hs.kind, bind, Except.bind, pure,
      Except.pure]
  · refine .inr ⟨hs, ?_⟩
    by_cases hk : claim.mutation.kind.outcomeKind ≠ mu.kind.outcomeKind
    · simp only [rejectIf, if_pos hk]
      exact ⟨_, rfl, rfl⟩
    · simp only [rejectIf, if_neg hk, ExecutorState.validateRequest, if_pos hs]
      exact ⟨_, rfl, rfl⟩

theorem Sound.requestClaimed (h : Sound refused fingerprint guest) (number : Nat)
    (operationId : OperationId) {mu : Mutation ρ}
    (hd : mu.kind.immediate = false) :
    Sound refused fingerprint (guest.requestClaimed fingerprint number operationId mu) ∧
    ∃ joined, Called guest (guest.requestClaimed fingerprint number operationId mu)
      ⟨number, operationId, mu, joined⟩ := by
  unfold Guest.requestClaimed
  cases h.found operationId with
  | absent hpn hrc hcr =>
    simp only [ExecutorState.prepareOperation, replay_absent hrc,
      ExecutorState.preparePendingOperation, hpn]
    rcases reserve_absent hpn with ⟨hrv, hrm⟩ | ⟨error, hrv, hcd⟩
    · simp only [hrv, bind, Except.bind, pure, Except.pure]
      have ha := h.addClaim ⟨operationId, mu, none, false⟩ { guest.journal with
          pendingOperations := guest.journal.pendingOperations.insert operationId
            ⟨mu.recorded fingerprint, mu.kind.outcomeKind, guest.claims.length⟩ }
        hcr rfl ⟨hd, AList.lookup_insert _⟩
        (fun other ht => ⟨AList.lookup_insert_ne ht, rfl⟩)
        (fun _ => rfl) (fun hm => absurd hm (AList.lookup_eq_none.mp hrc))
        (by
          simp only [keys_length_insert hpn]
          omega)
      exact ⟨ha.wait rfl List.getElem?_concat_length rfl rfl, _, ha.called_addClaim hcr rfl number
        mu rfl (.inr ⟨rfl, rfl⟩)⟩
    · simp only [hrv, bind, Except.bind]
      exact ⟨h.tell (.inl <| fair_refused hcr hcd), _, called_tell _ rfl⟩
  | pending hc hpr hr ho _ hpn hrc hcr =>
    rcases prepare_pending mu guest.claims.length hrc hpn with
      ⟨hs, hp⟩ | ⟨ht, error, hp, hcd⟩
    · simp only [hp]
      exact ⟨h.wait rfl hc hpr hs, _, called_wait hcr.symm⟩
    · simp only [hp]
      exact ⟨h.tell (.inl <| fair_conflict hcr hc hpr ht hcd), _, called_tell _ rfl⟩
  | recorded hc hpr hr ho hpn hrc hcr =>
    obtain ⟨answer, hrp, hs, ht⟩ := replay_recorded mu hrc
    simp only [ExecutorState.prepareOperation, hrp]
    exact ⟨h.tell (.inl <| fair_replayed hcr hc hpr ho hs ht), _, called_tell _ rfl⟩

/-- The task of a pending operation publishes its outcome under the request it was started for. -/
theorem complete_pending (result : Result α)
    (h : guest.journal.pendingOperations.lookup operationId =
      some ⟨claim.mutation.recorded fingerprint, claim.mutation.kind.outcomeKind, n⟩) :
    guest.finish operationId result = { guest with
        journal := ⟨guest.journal.operations.insert operationId
            ⟨claim.mutation.recorded fingerprint, claim.mutation.kind.outcomeKind, result⟩,
          guest.journal.pendingOperations.erase operationId⟩
        claims := guest.claims.modify n
          (Claim.publish ⟨claim.mutation.kind.outcomeKind, result⟩) } := by
  simp only [finish, h, ExecutorState.completePendingOperation, Mutation.recorded, ne_eq,
    not_true_eq_false, if_false, ExecutorState.validateRequest, rejectIf]
  rfl

section
variable (h : Sound refused fingerprint guest)
include h

theorem Sound.publish (result : Result α)
    (hc : guest.claims[n]? = some claim) (hpr : claim.operationId = operationId)
    (hrl : claim.released = false) (ho : claim.outcome = none)
    (hrc : guest.journal.operations.lookup operationId = none)
    (hpn : operationId ∈ guest.journal.pendingOperations) :
    Sound refused fingerprint { guest with
      journal := ⟨guest.journal.operations.insert operationId
          ⟨claim.mutation.recorded fingerprint, claim.mutation.kind.outcomeKind, result⟩,
        guest.journal.pendingOperations.erase operationId⟩
      claims := guest.claims.modify n
        (Claim.publish ⟨claim.mutation.kind.outcomeKind, result⟩) } := by
  subst hpr
  set oc : RecordedOutcome α := ⟨claim.mutation.kind.outcomeKind, result⟩
  set after := guest.claims.modify n (Claim.publish oc)
  have hkp : ClaimsKept guest.claims after :=
    claimsKept_publish _ fun other ht => by
      rw [hc] at ht
      exact Option.some.inj ht ▸ ho
  -- an entry of the new list is the published claim or an untouched one
  have hcs {m : Nat} {other : Claim ρ α} (ht : after[m]? = some other) :
      (m = n ∧ other = claim.publish oc) ∨ (m ≠ n ∧ guest.claims[m]? = some other) := by
    rw [getElem?_publish] at ht
    by_cases hm : n = m
    · rw [if_pos hm, ← hm, hc] at ht
      exact .inl ⟨hm.symm, (Option.some.inj ht).symm⟩
    · rw [if_neg hm] at ht
      exact .inr ⟨Ne.symm hm, ht⟩
  have hfr {m : Nat} {other : Claim ρ α} (hm : m ≠ n) (ht : guest.claims[m]? = some other)
      (hr : other.released = false) : other.operationId ≠ claim.operationId :=
    fun heq => hm (h.once m n other claim ht hc hr hrl heq)
  have hold {m : Nat} {other : Claim ρ α} (ht : guest.claims[m]? = some other)
      (hne : other.operationId ≠ claim.operationId) : after[m]? = some other := by
    rw [getElem?_publish, if_neg, ht]
    rintro rfl
    rw [hc] at ht
    exact hne (Option.some.inj ht ▸ rfl)
  have hn : after[n]? = some (claim.publish oc) := by
    rw [getElem?_publish, if_pos rfl, hc]
    rfl
  constructor
  case entered =>
    intro m other ht hr
    rcases hcs ht with ⟨rfl, rfl⟩ | ⟨hm, ht⟩
    · exact ⟨rfl, AList.lookup_insert _⟩
    · have hne := hfr hm ht hr
      exact Agree.entered ⟨AList.lookup_erase_ne hne, AList.lookup_insert_ne hne⟩
        (h.entered m other ht hr)
  case pending =>
    intro other hmm
    obtain ⟨hne, hmm⟩ := AList.mem_erase.mp hmm
    obtain ⟨m, found, hf, rfl, hrs⟩ := h.pending other hmm
    exact ⟨m, found, hold hf hne, rfl, hrs⟩
  case recorded =>
    intro other hmm
    rcases (AList.mem_insert _).mp hmm with rfl | hmm
    · exact ⟨n, _, hn, rfl, hrl, by simp [Claim.publish]⟩
    · obtain ⟨m, found, hf, rfl, hrs⟩ := h.recorded other hmm
      refine ⟨m, found, hold hf fun heq => ?_, rfl, hrs⟩
      rw [heq] at hmm
      exact AList.lookup_eq_none.mp hrc hmm
  case once =>
    intro m k first second hfs hs hr hr' heq
    rcases hcs hfs with ⟨rfl, rfl⟩ | ⟨hm, hmf⟩
    · rcases hcs hs with ⟨rfl, -⟩ | ⟨hk, hks⟩
      · rfl
      · exact absurd heq.symm (hfr hk hks hr')
    · rcases hcs hs with ⟨-, rfl⟩ | ⟨-, hks⟩
      · exact absurd heq (hfr hm hmf hr)
      · exact h.once m k first second hmf hks hr hr' heq
  case kinds =>
    intro other oc ht hoc
    obtain ⟨m, hm⟩ := List.mem_iff_getElem?.mp ht
    rcases hcs hm with ⟨rfl, rfl⟩ | ⟨-, ht⟩
    · cases hoc
      rfl
    · exact h.kinds other oc (List.mem_of_getElem? ht) hoc
  case room =>
    have hrm := h.room
    have hp : 0 < guest.journal.pendingOperations.keys.length := List.length_pos_of_mem hpn
    simp only [keys_length_insert hrc, AList.keys_erase,
      List.length_erase_of_mem (show claim.operationId ∈ guest.journal.pendingOperations.keys from
        hpn)]
    omega
  case waiting => exact fun _ hcl => h.waits hkp hcl
  case resolved => exact h.resolved
  case told => exact fun entry hen => (h.told entry hen).imp_left (·.mono hkp)

theorem Sound.finish (operationId : OperationId)
    (result : Result α) : Sound refused fingerprint (guest.finish operationId result) := by
  have hd (hn : guest.journal.pendingOperations.lookup operationId = none) :
      guest.finish operationId result = guest := by simp only [Guest.finish, hn]
  cases h.found operationId with
  | absent hp => exact (hd hp).symm ▸ h
  | pending hc hpr hr ho _ hp hrc =>
    rw [complete_pending result hp]
    refine h.publish result hc hpr hr ho hrc ?_
    rw [← AList.lookup_isSome, hp]
    rfl
  | recorded _ _ _ _ hp => exact (hd hp).symm ▸ h

/-- A waiting caller is told what its claim came to, once there is an outcome. -/
theorem Sound.published_eq (hcl : caller ∈ guest.waiting) : ∃ (n : Nat) (claim : Claim ρ α),
      caller.joined = some n ∧ guest.claims[n]? = some claim ∧
      claim.operationId = caller.operationId ∧ Alike fingerprint claim.mutation caller.mutation ∧
      guest.published caller = claim.outcome.map (·.result) := by
  obtain ⟨n, claim, hj, hc, hp, hm⟩ := h.waiting caller hcl
  refine ⟨n, claim, hj, hc, hp, hm, ?_⟩
  rw [published, hj, Option.bind_some, hc, Option.bind_some]
  cases ho : claim.outcome with
  | none => rfl
  | some outcome =>
    have hk := h.kinds claim outcome (List.mem_of_getElem? hc) ho
    rw [Option.map_some, if_pos (hk.trans (by rw [hm.kind])), Option.map_some]

theorem Sound.resume (number : Nat) : Sound refused fingerprint (guest.resume number) := by
  unfold Guest.resume
  split
  · exact h
  · rename_i caller hf
    split
    · exact h
    · rename_i result hp
      obtain ⟨n, claim, hj, hc, hpr, hm, heq⟩ :=
        h.published_eq (List.mem_of_find?_eq_some hf)
      refine (h.unwait (fun _ => id) List.eraseP_subset guest.containers).tell (.inl ?_)
      rw [hp] at heq
      obtain ⟨outcome, ho, hr⟩ := Option.map_eq_some_iff.mp heq.symm
      unfold Fair
      rw [hj]
      exact ⟨claim, hc, hpr, fun _ => ⟨outcome, ho, hr.symm⟩, fun ht => absurd hm ht⟩

end

theorem lookup_eraseAll (operationIds : List OperationId) :
    ∀ (es : AList β) (operationId : OperationId),
      (operationIds.foldl (fun kept operationId => kept.erase operationId) es).lookup
        operationId = if operationId ∈ operationIds then none else es.lookup operationId := by
  induction operationIds with
  | nil =>
    intro es operationId
    rw [List.foldl_nil, if_neg List.not_mem_nil]
  | cons first rest ih =>
    intro es operationId
    rw [List.foldl_cons, ih]
    by_cases hf : operationId = first
    · subst hf
      rw [AList.lookup_erase, if_pos List.mem_cons_self, ite_self]
    · rw [AList.lookup_erase_ne hf]
      simp only [List.mem_cons, hf, false_or]

theorem keys_length_eraseAll (operationIds : List OperationId) : ∀ es : AList β,
      (operationIds.foldl (fun kept operationId => kept.erase operationId) es).keys.length ≤
        es.keys.length := by
  induction operationIds with
  | nil => exact fun _ => Nat.le_refl _
  | cons first rest ih =>
    intro es
    refine (ih _).trans ?_
    rw [AList.keys_erase]
    exact List.length_erase_le

/-- What an acknowledgement does when it is not refused as a whole. -/
structure Released (guest next : Guest ρ α) (operationIds : List OperationId) : Prop where
  idle : ∀ operationId ∈ operationIds, operationId ∉ guest.journal.pendingOperations
  pending : next.journal.pendingOperations = guest.journal.pendingOperations
  recorded : ∀ operationId, next.journal.operations.lookup operationId =
    if operationId ∈ operationIds then none else guest.journal.operations.lookup operationId
  room : next.journal.operations.keys.length ≤ guest.journal.operations.keys.length
  claims : next.claims = guest.claims.map (Claim.release operationIds)
  callers : next.waiting = guest.waiting ∧ next.told = guest.told ∧ next.resolved = guest.resolved

/-- An acknowledgement is refused for its length or for an operation that is pending. -/
theorem release_cases (guest : Guest ρ α) (operationIds : List OperationId) :
    (guest.release operationIds = guest ∧ (maxOperationRecords < operationIds.length ∨
      ∃ operationId ∈ operationIds, operationId ∈ guest.journal.pendingOperations)) ∨
    Released guest (guest.release operationIds) operationIds := by
  unfold release ExecutorState.acknowledgeOperations
  by_cases hl : maxOperationRecords < operationIds.length
  · simp only [rejectIf, if_pos hl]
    exact .inl ⟨rfl, .inl hl⟩
  · simp only [rejectIf, if_neg hl]
    cases hf : operationIds.find? (· ∈ guest.journal.pendingOperations) with
    | some operationId =>
      refine .inl ⟨rfl, .inr ⟨operationId, List.mem_of_find?_eq_some hf, ?_⟩⟩
      simpa using List.find?_some hf
    | none =>
      refine .inr ⟨fun operationId hm => ?_, rfl, lookup_eraseAll operationIds _,
        keys_length_eraseAll operationIds _, rfl, rfl, rfl, rfl⟩
      simpa using List.find?_eq_none.mp hf operationId hm

theorem settle_eq (guest : Guest ρ α) (operationId : OperationId) (result : Result α) :
    ∃ containers, guest.settle operationId result = { guest with containers } := by
  unfold Guest.settle
  dsimp only
  split
  · split <;> exact ⟨_, rfl⟩
  · exact ⟨_, rfl⟩

/-- An exec finds its container and the session supervisor. -/
def Resolves (guest : Guest ρ α) : GuestAction ρ α → Prop
  | .request _ _ mutation _ supervisor =>
    mutation.kind = .exec → guest.supervisedExecSessionSupervisor mutation supervisor = .ok ()
  | _ => True

section
variable (h : Sound refused fingerprint guest)
include h

theorem Sound.released {next : Guest ρ α} (hrl : Released guest next operationIds) :
    Sound refused fingerprint next := by
  have hk : ClaimsKept guest.claims next.claims := by
    rw [hrl.claims]
    exact claimsKept_release guest.claims operationIds
  have hg {operationId : OperationId} (hn : operationId ∉ operationIds) :
      Agree guest.journal next.journal operationId :=
    ⟨by rw [hrl.pending], by rw [hrl.recorded, if_neg hn]⟩
  -- a claim that is still unreleased was not named
  have hcs {n : Nat} {claim : Claim ρ α} (hc : next.claims[n]? = some claim)
      (hr : claim.released = false) :
      guest.claims[n]? = some claim ∧ claim.operationId ∉ operationIds := by
    rw [hrl.claims, List.getElem?_map] at hc
    obtain ⟨old, hold, rfl⟩ := Option.map_eq_some_iff.mp hc
    simp only [Claim.release, Bool.or_eq_false_iff, decide_eq_false_iff_not] at hr
    refine ⟨hold.trans (congrArg some ?_), hr.2⟩
    simp only [Claim.release, hr.1, hr.2, decide_false, Bool.or_self]
    rw [← hr.1]
  have hst {n : Nat} {claim : Claim ρ α} (hc : guest.claims[n]? = some claim)
      (hn : claim.operationId ∉ operationIds) : next.claims[n]? = some claim := by
    rw [hrl.claims, List.getElem?_map, hc, Option.map_some]
    simp only [Claim.release, hn, decide_false, Bool.or_false]
  constructor
  case entered =>
    intro n claim hc hr
    obtain ⟨hold, hn⟩ := hcs hc hr
    exact (hg hn).entered (h.entered n claim hold hr)
  case pending =>
    intro operationId hm
    rw [hrl.pending] at hm
    obtain ⟨n, claim, hc, rfl, hrs⟩ := h.pending operationId hm
    exact ⟨n, claim, hst hc fun hnm => hrl.idle _ hnm hm, rfl, hrs⟩
  case recorded =>
    intro operationId hm
    have hn : operationId ∉ operationIds := by
      intro hnm
      rw [← AList.lookup_isSome, hrl.recorded, if_pos hnm] at hm
      cases hm
    obtain ⟨n, claim, hc, rfl, hrs⟩ := h.recorded operationId ((hg hn).mem_recorded hm)
    exact ⟨n, claim, hst hc hn, rfl, hrs⟩
  case once =>
    intro m n first second hf hs hr hr' heq
    exact h.once m n first second (hcs hf hr).1 (hcs hs hr').1 hr hr' heq
  case kinds =>
    intro claim outcome hc ho
    rw [hrl.claims] at hc
    obtain ⟨old, hold, rfl⟩ := List.mem_map.mp hc
    exact h.kinds old outcome hold ho
  case room =>
    have hrm := h.room
    have hls := hrl.room
    rw [hrl.pending]
    omega
  case waiting =>
    intro caller hcl
    rw [hrl.callers.1] at hcl
    exact h.waits hk hcl
  case resolved => exact hrl.callers.2.2 ▸ h.resolved
  case told =>
    intro entry hen
    rw [hrl.callers.2.1] at hen
    exact (h.told entry hen).imp_left (·.mono hk)

theorem Sound.request (number : Nat) (operationId : OperationId) {mu : Mutation ρ}
    (effect : Result α) (supervisor : Result Unit) (hn : mu.kind ≠ .exec) :
    Sound refused fingerprint
        (guest.step fingerprint (.request number operationId mu effect supervisor)) ∧
    ∃ joined, Called guest
      (guest.step fingerprint (.request number operationId mu effect supervisor))
      ⟨number, operationId, mu, joined⟩ := by
  simp only [Guest.step, if_neg hn]
  cases hi : mu.kind.immediate with
  | true => exact h.requestImmediate number operationId effect hi
  | false => exact h.requestClaimed number operationId hi

theorem Sound.requestExec (number : Nat) (operationId : OperationId) {mu : Mutation ρ}
    {supervisor : Result Unit} (hk : mu.kind = .exec)
    (hr : guest.supervisedExecSessionSupervisor mu supervisor = .ok () ∨
      refused ⟨number, operationId, mu, none⟩) :
    Sound refused fingerprint (guest.requestExec number operationId mu supervisor) := by
  unfold Guest.requestExec
  dsimp only
  split
  · rename_i error he
    rw [he] at hr
    exact h.tell (.inr (hr.resolve_left (by simp)))
  · refine { h with resolved := fun caller hc => ?_ }
    rcases List.mem_append.mp hc with hc | hc
    · exact h.resolved caller hc
    · obtain rfl := List.mem_singleton.mp hc
      exact hk

theorem Sound.claimExec (number : Nat) :
    Sound refused fingerprint (guest.claimExec fingerprint number) ∧
    ∀ caller, guest.resolved.find? (·.number = number) = some caller →
      ∃ joined, Called guest (guest.claimExec fingerprint number) { caller with joined } := by
  unfold Guest.claimExec
  cases hf : guest.resolved.find? (·.number = number) with
  | none => exact ⟨h, nofun⟩
  | some caller =>
    have hk := h.resolved caller (List.mem_of_find?_eq_some hf)
    have hd : caller.mutation.kind.immediate = false := by rw [hk]; rfl
    have hu : Sound refused fingerprint
        { guest with resolved := guest.resolved.eraseP (·.number = number) } :=
      h.unwait List.eraseP_subset (fun _ => id) guest.containers
    obtain ⟨hs, joined, hc⟩ := hu.requestClaimed caller.number caller.operationId hd
    refine ⟨hs, ?_⟩
    rintro _ ⟨⟩
    exact ⟨joined, hc.joined, hc.kept, hc.noted⟩

theorem Sound.step (action : GuestAction ρ α)
    (hr : guest.Resolves action ∨ ∀ caller, refused caller) :
    Sound refused fingerprint (guest.step fingerprint action) := by
  cases action with
  | request number operationId mutation effect supervisor =>
    by_cases hk : mutation.kind = .exec
    · simp only [Guest.step, if_pos hk]
      exact h.requestExec number operationId hk (hr.imp (· hk) (· _))
    · exact (h.request number operationId effect supervisor hk).1
  | claim number => exact (h.claimExec number).1
  | complete operationId result =>
    obtain ⟨containers, hs⟩ := settle_eq guest operationId result
    rw [Guest.step, hs]
    exact (h.unwait (fun _ => id) (fun _ => id) containers).finish operationId result
  | resume number => exact h.resume number
  | cancel number => exact h.unwait List.eraseP_subset List.eraseP_subset guest.containers
  | acknowledge operationIds =>
    rcases release_cases guest operationIds with ⟨hs, -⟩ | hr
    · rw [Guest.step, hs]
      exact h
    · exact h.released hr
  | replace containers => exact h.unwait (fun _ => id) (fun _ => id) containers

end

/-! ## Whole runs -/

instance (guest : Guest ρ α) (action : GuestAction ρ α) : Decidable (guest.Resolves action) := by
  unfold Resolves
  cases action <;> infer_instance

/-- Every exec of the run finds its container. -/
def ExecsResolve (fingerprint : Fingerprint ρ) : Guest ρ α → List (GuestAction ρ α) → Prop
  | _, [] => True
  | guest, action :: rest =>
    guest.Resolves action ∧ ExecsResolve fingerprint (guest.step fingerprint action) rest

instance decidableExecsResolve (fingerprint : Fingerprint ρ) :
    ∀ (guest : Guest ρ α) (as : List (GuestAction ρ α)), Decidable (ExecsResolve fingerprint guest as)
  | _, [] => isTrue trivial
  | guest, action :: rest =>
    have := decidableExecsResolve fingerprint (guest.step fingerprint action) rest
    inferInstanceAs (Decidable (_ ∧ _))

theorem Sound.run (h : Sound refused fingerprint guest) (as : List (GuestAction ρ α))
    (hr : ExecsResolve fingerprint guest as ∨ ∀ caller, refused caller) :
    Sound refused fingerprint (guest.run fingerprint as) := by
  induction as generalizing guest with
  | nil => exact h
  | cons action rest ih => exact ih (h.step action (hr.imp_left (·.1))) (hr.imp_left (·.2))

/-- What holds of every request that was made. -/
structure Every (P : OperationId → Mutation ρ → Prop) (guest : Guest ρ α) : Prop where
  claims : ∀ claim ∈ guest.claims, P claim.operationId claim.mutation
  callers : ∀ caller ∈ guest.resolved ++ (guest.waiting ++ guest.told.map Prod.fst),
    P caller.operationId caller.mutation

section
variable {P : OperationId → Mutation ρ → Prop} (h : Every P guest)
include h

theorem Every.tell (hc : P caller.operationId caller.mutation) (result : Result α) :
    Every P (guest.tell caller result) := by
  refine ⟨h.claims, fun other ho => ?_⟩
  have hcl := h.callers other
  grind [Guest.tell]

theorem Every.wait (hc : P caller.operationId caller.mutation) : Every P (guest.wait caller) := by
  refine ⟨h.claims, fun other ho => ?_⟩
  have hcl := h.callers other
  grind [Guest.wait]

theorem Every.addClaim (hc : P operationId mu) (journal : ExecutorState α)
    (outcome : Option (RecordedOutcome α)) : Every P { guest with
      journal, claims := guest.claims ++ [⟨operationId, mu, outcome, false⟩] } := by
  refine ⟨fun other ho => ?_, h.callers⟩
  have hcl := h.claims other
  grind

theorem Every.requestImmediate (number : Nat) (hc : P operationId mu) (effect : Result α) :
    Every P (guest.requestImmediate fingerprint number operationId mu effect) := by
  unfold Guest.requestImmediate
  dsimp only
  split
  · exact h.tell hc _
  · split
    · exact h.tell hc _
    · exact (h.addClaim hc _ _).tell hc _

theorem Every.requestClaimed (number : Nat) (hc : P operationId mu) :
    Every P (guest.requestClaimed fingerprint number operationId mu) := by
  unfold Guest.requestClaimed
  dsimp only
  split
  · exact h.tell hc _
  · exact h.tell hc _
  · exact h.wait hc
  · exact (h.addClaim hc _ _).wait hc

theorem Every.unwait {resolved waiting : List (Caller ρ)} (hr : resolved ⊆ guest.resolved)
    (hs : waiting ⊆ guest.waiting) (containers : List ContainerKey) :
    Every P { guest with resolved, waiting, containers } := by
  refine ⟨h.claims, fun other ho => h.callers other ?_⟩
  grind

theorem Every.finish (operationId : OperationId) (result : Result α) :
    Every P (guest.finish operationId result) := by
  unfold Guest.finish
  split
  · exact h
  · dsimp only
    split
    · exact ⟨h.claims, h.callers⟩
    · refine ⟨fun claim hc => ?_, h.callers⟩
      obtain ⟨n, hn⟩ := List.mem_iff_getElem?.mp hc
      rw [getElem?_publish] at hn
      split at hn
      · obtain ⟨old, ho, rfl⟩ := Option.map_eq_some_iff.mp hn
        exact h.claims old (List.mem_of_getElem? ho)
      · exact h.claims claim (List.mem_of_getElem? hn)

theorem Every.step (action : GuestAction ρ α)
    (ha : ∀ number operationId mu effect supervisor,
      action = .request number operationId mu effect supervisor → P operationId mu) :
    Every P (guest.step fingerprint action) := by
  cases action with
  | request number operationId mu effect supervisor =>
    have hc := ha _ _ _ _ _ rfl
    simp only [Guest.step]
    split
    · unfold Guest.requestExec
      dsimp only
      split
      · exact h.tell hc _
      · refine ⟨h.claims, fun other ho => ?_⟩
        have hcl := h.callers other
        grind
    · split
      · exact h.requestImmediate number hc effect
      · exact h.requestClaimed number hc
  | claim number =>
    simp only [Guest.step, Guest.claimExec]
    split
    · exact h
    · rename_i caller hf
      have hc := h.callers caller (by simp [List.mem_of_find?_eq_some hf])
      exact (h.unwait List.eraseP_subset (fun _ => id) guest.containers).requestClaimed _ hc
  | complete operationId result =>
    obtain ⟨containers, hs⟩ := settle_eq guest operationId result
    rw [Guest.step, hs]
    exact (h.unwait (fun _ => id) (fun _ => id) containers).finish operationId result
  | resume number =>
    simp only [Guest.step, Guest.resume]
    split
    · exact h
    · rename_i caller hf
      have hc := h.callers caller (by simp [List.mem_of_find?_eq_some hf])
      split
      · exact h
      · exact (h.unwait (fun _ => id) List.eraseP_subset guest.containers).tell hc _
  | cancel number => exact h.unwait List.eraseP_subset List.eraseP_subset guest.containers
  | acknowledge operationIds =>
    simp only [Guest.step, Guest.release]
    split
    · exact h
    · refine ⟨fun claim hc => ?_, h.callers⟩
      obtain ⟨old, ho, rfl⟩ := List.mem_map.mp hc
      exact h.claims old ho
  | replace containers => exact h.unwait (fun _ => id) (fun _ => id) containers

end

end Guest

theorem Mutation.Same.refl (mu : Mutation ρ) : mu.Same mu :=
  ⟨rfl, rfl, rfl, List.forall₂_same.mpr fun set _ => .refl set⟩

namespace Sample

/-- A digest of the text of a request and the sets of its document. -/
def fingerprint : Fingerprint String := fun mu => ";".intercalate (mu.request :: mu.sets.flatten)

/-- A mutation of generation one of the container `web`. -/
def mutation (kind : MutationKind) (request : String) (sets : List (List String)) :
    Mutation String :=
  ⟨kind, ⟨⟨"web", rfl⟩, some 1⟩, request, sets⟩

def ask (number : Nat) (operationId : OperationId) (mu : Mutation String) :
    GuestAction String Unit :=
  .request number operationId mu (.ok ()) (.ok ())

def execWith (bounding : List String) : Mutation String := mutation .exec "exec" [bounding]

/-- A container is created, and an exec in it is asked for and carried out. -/
def executed : List (GuestAction String Unit) :=
  [ask 0 ⟨"a", rfl⟩ (mutation .create "create" []), .complete ⟨"a", rfl⟩ (.ok ()),
    ask 1 ⟨"b", rfl⟩ (execWith ["CAP_KILL", "CAP_CHOWN"]), .claim 1, .complete ⟨"b", rfl⟩ (.ok ()),
    .resume 1]

/-- The exec is asked for again, decoded with its capabilities in another order. -/
def execReordered : List (GuestAction String Unit) :=
  executed ++ [ask 3 ⟨"b", rfl⟩ (execWith ["CAP_CHOWN", "CAP_KILL"]), .claim 3]

end Sample

/-- The capability sets of an exec are sets, but iterated in another order they make another
    request. -/
theorem reordered_exec_is_refused :
    let guest := Guest.start.run Sample.fingerprint Sample.execReordered
    (Sample.execWith ["CAP_KILL", "CAP_CHOWN"]).Same (Sample.execWith ["CAP_CHOWN", "CAP_KILL"]) ∧
      guest.told.getLast? = some (⟨3, ⟨"b", rfl⟩, Sample.execWith ["CAP_CHOWN", "CAP_KILL"], some 1⟩,
        .error differentRequest) := by
  refine ⟨⟨rfl, rfl, rfl, .cons (.swap ..) .nil⟩, by decide +kernel⟩

/-- **The journal mirrors the runs.** After any interleaving, an operation is pending exactly if its
    effect is running, and recorded exactly if it has run and was not acknowledged. -/
theorem journal_mirrors_runs (fingerprint : Fingerprint ρ) (actions : List (GuestAction ρ α))
    (operationId : OperationId) :
    let guest := Guest.start.run fingerprint actions
    let current (finished : Bool) := ∃ claim ∈ guest.claims, claim.operationId = operationId ∧
      claim.released = false ∧ claim.outcome.isSome = finished
    (operationId ∈ guest.journal.pendingOperations ↔ current false) ∧
      (operationId ∈ guest.journal.operations ↔ current true) := by
  intro guest current
  have hs : guest.Sound (fun _ => True) fingerprint :=
    (Guest.sound_start fingerprint).run actions (.inr fun _ => trivial)
  have he : ∀ claim ∈ guest.claims, claim.released = false →
      if claim.outcome.isSome then claim.operationId ∈ guest.journal.operations
      else claim.operationId ∈ guest.journal.pendingOperations := by
    intro claim hc hr
    obtain ⟨n, hn⟩ := List.mem_iff_getElem?.mp hc
    have hen := hs.entered n claim hn hr
    unfold Claim.Entered at hen
    cases ho : claim.outcome <;> rw [ho] at hen <;>
      exact AList.lookup_isSome.mp (hen.2 ▸ rfl)
  refine ⟨⟨fun h => ?_, ?_⟩, fun h => ?_, ?_⟩
  · obtain ⟨n, claim, hc, ho, hr, hn⟩ := hs.pending operationId h
    exact ⟨claim, List.mem_of_getElem? hc, ho, hr, by rw [hn]; rfl⟩
  · rintro ⟨claim, hc, rfl, hr, hn⟩
    simpa [hn] using he claim hc hr
  · obtain ⟨n, claim, hc, ho, hr, hn⟩ := hs.recorded operationId h
    exact ⟨claim, List.mem_of_getElem? hc, ho, hr, Option.isSome_iff_ne_none.mpr hn⟩
  · rintro ⟨claim, hc, rfl, hr, hn⟩
    simpa [hn] using he claim hc hr

end OciRuntime
