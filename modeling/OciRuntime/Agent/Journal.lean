import Mathlib.Data.List.AList
import OciRuntime.Lib.Checks
import OciRuntime.Sdk.Model

/-!
# `OciRuntime.Agent.Journal` — the guest's journal of mutations

The guest agent journals every mutation under the operation identity the host chose
(`agent/src/executor/state.rs`). A mutation is *pending* while its detached task runs and *recorded*
afterwards; a repeated request waits for the one that is pending or gets the recorded outcome. The
host releases records by acknowledging them.

## Contents
- **Data.** `RecordedRequest`, `RecordedOutcome`, `ExecutorState`.
- **Critical sections.** `ExecutorState.acknowledgeOperations`, `prepareOperation`,
  `completePendingOperation`, `replay`, `reserveOperation`: each runs under the executor's lock.
- **Callers.** `Guest`: the journal, the containers, the completion channels and the callers that wait
  on them, with one action for each critical section and for the points at which a caller is resumed
  or dropped. An exec looks its container up before it comes to the journal.

The payload of an outcome is a parameter, and so is the fingerprint of a request.
-/

namespace OciRuntime

open Durable

/-! ## Data -/

inductive MutationKind
  | create | start | kill | delete | exec | signalProcess | pause | resume | update
  | writeStdin | closeStdin | resize | file | filesystem
  deriving DecidableEq

inductive PendingOperationKind
  | state | unit | process | file | filesystem
  deriving DecidableEq

def PendingOperationKind.name : PendingOperationKind → String
  | .state => "state"
  | .unit => "unit"
  | .process => "process"
  | .file => "file"
  | .filesystem => "filesystem"

/-- The kind of outcome a mutation has. -/
def MutationKind.outcomeKind : MutationKind → PendingOperationKind
  | .create | .start | .kill | .pause | .resume | .update => .state
  | .delete | .signalProcess | .writeStdin | .closeStdin | .resize => .unit
  | .exec => .process
  | .file => .file
  | .filesystem => .filesystem

/-- Signals and resizes take effect inside one critical section; every other mutation has a task of
    its own. -/
def MutationKind.immediate : MutationKind → Bool
  | .signalProcess | .resize => true
  | _ => false

/-- What the journal keeps of a request. -/
structure RecordedRequest where
  kind : MutationKind
  digest : String
  deriving DecidableEq

structure RecordedOutcome (α : Type) where
  kind : PendingOperationKind
  result : Result α
  deriving DecidableEq

structure OperationRecord (α : Type) where
  request : RecordedRequest
  outcome : RecordedOutcome α

/-- `completion` names the channel on which the outcome will be published. -/
structure PendingOperation where
  request : RecordedRequest
  kind : PendingOperationKind
  completion : Nat

structure ExecutorState (α : Type) where
  operations : AList fun _ : OperationId => OperationRecord α
  pendingOperations : AList fun _ : OperationId => PendingOperation

def maxOperationRecords : Nat := 4096

def executorError (code : ErrorCode) (message : String) : Error :=
  (Error.new code message).forOperation "linux-guest-executor"

def reusedOperation (operationId : OperationId) : Error :=
  executorError .conflict
    s!"guest operation ID {operationId.value} was reused across operation kinds"

def differentRequest : Error :=
  executorError .conflict "guest operation ID was reused for a different request"

/-! ## Critical sections -/

namespace ExecutorState

variable {α : Type}

def empty : ExecutorState α := ⟨∅, ∅⟩

section
variable (state : ExecutorState α)

/-- Release records; nothing is released if one of the operations is still pending. -/
def acknowledgeOperations (operationIds : List OperationId) : Result (ExecutorState α) := do
  rejectIf (maxOperationRecords < operationIds.length) (executorError .invalidArgument
      (s!"guest operation acknowledgement contains {operationIds.length} entries; " ++
        s!"maximum is {maxOperationRecords}"))
  match operationIds.find? (· ∈ state.pendingOperations) with
  | some operationId =>
    .error (executorError .failedPrecondition
      s!"guest operation {operationId.value} cannot be acknowledged while it is still pending")
  | none =>
    .ok { state with
      operations := operationIds.foldl (fun kept operationId => kept.erase operationId)
        state.operations }

def reserveOperation (operationId : OperationId) : Result Unit := do
  rejectIf (operationId ∈ state.pendingOperations) (reusedOperation operationId)
  rejectIf (maxOperationRecords ≤
      state.operations.keys.length + state.pendingOperations.keys.length)
    (executorError .resourceExhausted
      (s!"guest operation journal reached {maxOperationRecords} entries before " ++
        s!"operation {operationId.value}"))

def validateRequest (recorded request : RecordedRequest) : Result Unit :=
  rejectIf (recorded ≠ request) differentRequest

/-- `replay_state`, `replay_unit` and so on, by the kind of outcome they accept. -/
def replay (kind : PendingOperationKind) (operationId : OperationId)
    (request : RecordedRequest) : Option (Result α) :=
  (state.operations.lookup operationId).map fun record => do
    validateRequest record.request request
    if record.outcome.kind = kind then record.outcome.result
    else .error (reusedOperation operationId)

/-- What a caller finds: the recorded outcome, a channel to wait on, or a claim of its own. -/
inductive Preparation (α : Type)
  | completed (result : Result α)
  | pending (completion : Nat)
  | claimed (completion : Nat)

/-- `completion` is the channel a new claim would publish on. -/
def preparePendingOperation (operationId : OperationId)
    (request : RecordedRequest) (kind : PendingOperationKind) (completion : Nat) :
    Result (Preparation α × ExecutorState α) :=
  match state.pendingOperations.lookup operationId with
  | some pending => do
    rejectIf (pending.kind ≠ kind) (reusedOperation operationId)
    validateRequest pending.request request
    pure (.pending pending.completion, state)
  | none => do
    state.reserveOperation operationId
    pure (.claimed completion, { state with
      pendingOperations :=
        state.pendingOperations.insert operationId ⟨request, kind, completion⟩ })

/-- `prepare_state_operation`, `prepare_unit_operation` and so on. -/
def prepareOperation (kind : PendingOperationKind)
    (operationId : OperationId) (request : RecordedRequest) (completion : Nat) :
    Result (Preparation α × ExecutorState α) :=
  match state.replay kind operationId request with
  | some result => .ok (.completed result, state)
  | none => state.preparePendingOperation operationId request kind completion

def record (operationId : OperationId) (request : RecordedRequest)
    (outcome : RecordedOutcome α) : ExecutorState α :=
  { state with operations := state.operations.insert operationId ⟨request, outcome⟩ }

/-- The state after a claim's task has finished, and what it publishes on which channel. -/
def completePendingOperation (operationId : OperationId)
    (request : RecordedRequest) (outcome : RecordedOutcome α) :
    ExecutorState α × Option (Nat × RecordedOutcome α) :=
  match state.pendingOperations.lookup operationId with
  | none => (state, none)
  | some pending =>
    let state := { state with pendingOperations := state.pendingOperations.erase operationId }
    let verdict : Result Unit :=
      if pending.kind ≠ outcome.kind then .error (reusedOperation operationId)
      else validateRequest pending.request request
    match verdict with
    | .error error =>
      let outcome := ⟨pending.kind, .error error⟩
      (state.record operationId pending.request outcome, some (pending.completion, outcome))
    | .ok () => (state.record operationId request outcome, some (pending.completion, outcome))

end

end ExecutorState

/-! ## Callers -/

/-- A mutation as a caller asks for it. `sets` are the hash sets of its request, each in the order in
    which it is iterated: an exec has the capabilities of its process. -/
structure Mutation (ρ : Type) where
  kind : MutationKind
  container : ContainerTarget
  request : ρ
  sets : List (List String)
  deriving DecidableEq

/-- Sets that are iterated in another order are the same. -/
structure Mutation.Same {ρ : Type} (first second : Mutation ρ) : Prop where
  kind : first.kind = second.kind
  container : first.container = second.container
  request : first.request = second.request
  sets : List.Forall₂ List.Perm first.sets second.sets

/-- The SHA-256 digest of the canonical encoding of a request. The encoding sorts objects, not arrays:
    it keeps the order of the sets. -/
abbrev Fingerprint (ρ : Type) := Mutation ρ → String

/-- `RecordedRequest::new`. -/
def Mutation.recorded {ρ : Type} (fingerprint : Fingerprint ρ) (mutation : Mutation ρ) :
    RecordedRequest :=
  ⟨mutation.kind, fingerprint mutation⟩

structure ContainerKey where
  id : String
  generation : Nat
  deriving DecidableEq

def ContainerKey.fromTarget (target : ContainerTarget) : Result ContainerKey := do
  let generation ← okOr target.generation
    (executorError .invalidArgument "guest executor requires an exact container generation")
  rejectIf (generation = 0)
    (executorError .invalidArgument "guest executor requires a positive container generation")
  pure ⟨target.id.value, generation⟩

/-- One run of a mutation's effect: its channel, on which the outcome is published, and whether the
    host has released it since. -/
structure Claim (ρ α : Type) where
  operationId : OperationId
  mutation : Mutation ρ
  outcome : Option (RecordedOutcome α)
  released : Bool
  deriving DecidableEq

def Claim.publish {ρ α : Type} (outcome : RecordedOutcome α) (claim : Claim ρ α) : Claim ρ α :=
  { claim with outcome := some outcome }

def Claim.release {ρ α : Type} (operationIds : List OperationId) (claim : Claim ρ α) : Claim ρ α :=
  { claim with released := claim.released || decide (claim.operationId ∈ operationIds) }

/-- A caller and the claim that its call joined or made, if any. -/
structure Caller (ρ : Type) where
  number : Nat
  operationId : OperationId
  mutation : Mutation ρ
  joined : Option Nat
  deriving DecidableEq

/-- The journal and the containers of the executor, the claims in the order they were made (a claim's
    index is its channel), the exec callers that have not come to the journal yet, the callers that
    wait on a channel, and what callers were told. -/
structure Guest (ρ α : Type) where
  journal : ExecutorState α
  containers : List ContainerKey
  claims : List (Claim ρ α)
  resolved : List (Caller ρ)
  waiting : List (Caller ρ)
  told : List (Caller ρ × Result α)

inductive GuestAction (ρ α : Type)
  /-- A request arrives. `effect` is what an immediate mutation does, should it run; `supervisor` is
      how an exec finds the session supervisor of a container that is there. -/
  | request (caller : Nat) (operationId : OperationId) (mutation : Mutation ρ) (effect : Result α)
      (supervisor : Result Unit)
  /-- An exec that has found its container comes to the journal. -/
  | claim (caller : Nat)
  /-- The task of a pending operation finishes. -/
  | complete (operationId : OperationId) (result : Result α)
  /-- A waiting caller looks at its channel. -/
  | resume (caller : Nat)
  /-- The connection of a caller goes away. -/
  | cancel (caller : Nat)
  | acknowledge (operationIds : List OperationId)
  /-- A restore, its rollback or a shutdown changes the containers. -/
  | replace (containers : List ContainerKey)

namespace Guest

variable {ρ α : Type} (fingerprint : Fingerprint ρ)

def start : Guest ρ α := ⟨.empty, [], [], [], [], []⟩

section
variable (guest : Guest ρ α)

def tell (caller : Caller ρ) (result : Result α) : Guest ρ α :=
  { guest with told := guest.told ++ [(caller, result)] }

def wait (caller : Caller ρ) : Guest ρ α :=
  { guest with waiting := guest.waiting ++ [caller] }

/-- The claim of an operation that the host has not released. -/
def current (operationId : OperationId) : Option Nat :=
  guest.claims.findIdx? fun claim => claim.operationId = operationId ∧ claim.released = false

/-- `signal_process_recorded` and `resize_recorded`. -/
def requestImmediate (number : Nat) (operationId : OperationId)
    (mutation : Mutation ρ) (effect : Result α) : Guest ρ α :=
  let caller := Caller.mk number operationId mutation
  let recorded := mutation.recorded fingerprint
  match guest.journal.replay mutation.kind.outcomeKind operationId recorded with
  | some result => guest.tell (caller (guest.current operationId)) result
  | none =>
    match guest.journal.reserveOperation operationId with
    | .error error => guest.tell (caller (guest.current operationId)) (.error error)
    | .ok () =>
      let outcome := RecordedOutcome.mk mutation.kind.outcomeKind effect
      let guest := { guest with
        journal := guest.journal.record operationId recorded outcome
        claims := guest.claims ++ [Claim.mk operationId mutation (some outcome) false] }
      guest.tell (caller (some (guest.claims.length - 1))) effect

/-- The handlers of every other mutation up to the point where they wait. -/
def requestClaimed (number : Nat) (operationId : OperationId) (mutation : Mutation ρ) : Guest ρ α :=
  let caller := Caller.mk number operationId mutation
  match guest.journal.prepareOperation mutation.kind.outcomeKind operationId
      (mutation.recorded fingerprint) guest.claims.length with
  | .error error => guest.tell (caller (guest.current operationId)) (.error error)
  | .ok (.completed result, _) => guest.tell (caller (guest.current operationId)) result
  | .ok (.pending completion, _) => guest.wait (caller (some completion))
  | .ok (.claimed completion, journal) =>
    { guest with
      journal
      claims := guest.claims ++ [Claim.mk operationId mutation none false] }.wait
        (caller (some completion))

/-- How `exec_recorded` looks for the session supervisor, before it comes to the journal. -/
def supervisedExecSessionSupervisor (mutation : Mutation ρ) (supervisor : Result Unit) :
    Result Unit := do
  let key ← ContainerKey.fromTarget mutation.container
  rejectIf (key ∉ guest.containers)
    (executorError .notFound s!"container {key.id} generation {key.generation} does not exist")
  supervisor

/-- The first critical section of `exec_recorded`. -/
def requestExec (number : Nat) (operationId : OperationId) (mutation : Mutation ρ)
    (supervisor : Result Unit) : Guest ρ α :=
  let caller := Caller.mk number operationId mutation none
  match guest.supervisedExecSessionSupervisor mutation supervisor with
  | .error error => guest.tell caller (.error error)
  | .ok () => { guest with resolved := guest.resolved ++ [caller] }

/-- The second one, for the first caller of that number. -/
def claimExec (number : Nat) : Guest ρ α :=
  match guest.resolved.find? (·.number = number) with
  | none => guest
  | some caller =>
    { guest with resolved := guest.resolved.eraseP (·.number = number) }.requestClaimed fingerprint
      caller.number caller.operationId caller.mutation

/-- What the task of a pending operation does to the containers. -/
def settle (operationId : OperationId) (result : Result α) : Guest ρ α :=
  let pending := guest.journal.pendingOperations.lookup operationId
  match pending.bind (guest.claims[·.completion]?), result with
  | some claim, .ok _ =>
    match claim.mutation.kind, ContainerKey.fromTarget claim.mutation.container with
    | .create, .ok key => { guest with containers := guest.containers ++ [key] }
    | .delete, .ok key => { guest with containers := guest.containers.filter (· ≠ key) }
    | _, _ => guest
  | _, _ => guest

/-- A task finishes with the request it was started for. -/
def finish (operationId : OperationId) (result : Result α) : Guest ρ α :=
  match guest.journal.pendingOperations.lookup operationId with
  | none => guest
  | some pending =>
    let (journal, published) := guest.journal.completePendingOperation operationId pending.request
      ⟨pending.request.kind.outcomeKind, result⟩
    match published with
    | none => { guest with journal }
    | some (channel, outcome) =>
      { guest with
        journal
        claims := guest.claims.modify channel (Claim.publish outcome) }

/-- What is published on a caller's channel; `wait_for_*_operation` rejects an outcome of another
    kind. -/
def published (caller : Caller ρ) : Option (Result α) :=
  (caller.joined.bind (guest.claims[·]?)).bind fun claim => claim.outcome.map fun outcome =>
    if outcome.kind = caller.mutation.kind.outcomeKind then outcome.result
    else .error (executorError .internal
      s!"guest {caller.mutation.kind.outcomeKind.name} operation completed with the wrong outcome kind")

/-- The first waiting caller of that number is told what its channel holds, if anything. -/
def resume (number : Nat) : Guest ρ α :=
  match guest.waiting.find? (·.number = number) with
  | none => guest
  | some caller =>
    match guest.published caller with
    | none => guest
    | some result =>
      { guest with waiting := guest.waiting.eraseP (·.number = number) }.tell caller result

def release (operationIds : List OperationId) : Guest ρ α :=
  match guest.journal.acknowledgeOperations operationIds with
  | .error _ => guest
  | .ok journal =>
    { guest with journal, claims := guest.claims.map (Claim.release operationIds) }

def step : GuestAction ρ α → Guest ρ α
  | .request number operationId mutation effect supervisor =>
    if mutation.kind = .exec then guest.requestExec number operationId mutation supervisor
    else if mutation.kind.immediate then
      guest.requestImmediate fingerprint number operationId mutation effect
    else guest.requestClaimed fingerprint number operationId mutation
  | .claim number => guest.claimExec fingerprint number
  | .complete operationId result => (guest.settle operationId result).finish operationId result
  | .resume number => guest.resume number
  | .cancel number =>
    { guest with
      resolved := guest.resolved.eraseP (·.number = number)
      waiting := guest.waiting.eraseP (·.number = number) }
  | .acknowledge operationIds => guest.release operationIds
  | .replace containers => { guest with containers }

def run (actions : List (GuestAction ρ α)) : Guest ρ α :=
  actions.foldl (step fingerprint) guest

end

end Guest

end OciRuntime
