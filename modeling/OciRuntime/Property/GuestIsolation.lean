import OciRuntime.Service.Lifecycle

/-!
# `OciRuntime.Property.GuestIsolation` — one guest's answer and the other guests

Every mutating operation ends with an acknowledgement that is sent to every live guest of every
driver. Whatever an operation does before that depends on its own driver only; whether its caller
gets the result depends on all guests.

## Contents
- **What keeps the record of acknowledgements.** `Keeps`.
- **Work and answer.** `Answers`: a call is some work that knows nothing of the other guests,
  followed by the acknowledgement.
- **Acknowledgements.** `acknowledgeOperation_settled`.
- **Result.** `other_guests_decide_answer`.
-/

namespace OciRuntime

open Durable Program

variable {γ α β : Type}

/-! ## What keeps the record of acknowledgements -/

namespace HostM

/-- The program begins no acknowledgement. -/
class Keeps (m : HostM γ α) : Prop where
  settled : ∀ world, (m.final world).settled = world.settled

instance keeps_pure (a : α) : Keeps (pure a : HostM γ α) := ⟨fun _ => rfl⟩

instance (e : Interruption) : Keeps (throw e : HostM γ α) := ⟨fun _ => rfl⟩

instance keeps_bind {f : α → HostM γ β} [hm : Keeps m] [hf : ∀ a, Keeps (f a)] :
    Keeps (m >>= f) := by
  refine ⟨fun world => ?_⟩
  rw [final_bind]
  cases m.result world with
  | ok a => exact ((hf a).settled _).trans (hm.settled world)
  | error e => exact hm.settled world

/-- A program on a part of the world that is not the record of acknowledgements. -/
theorem keeps_focus {τ ε : Type} {get : World γ → τ} {set : τ → World γ → World γ}
    (hs : ∀ t world, (set t world).settled = world.settled) (wrap : ε → Interruption)
    (m : Program τ ε α) : Keeps (m.focus get set wrap) := by
  refine ⟨fun world => ?_⟩
  simp only [final, focus]
  rcases List.eq_nil_or_concat ((m (get world)).commits) with h | ⟨init, last, h⟩
  · rw [h]
    rfl
  · rw [h, List.concat_eq_append, List.map_append, getLastD_append_eq]
    exact hs last world

instance (m : StoreM α) : Keeps (onStore m : HostM γ α) := by
  refine keeps_focus ?_ _ m
  exact fun _ _ => rfl

instance (m : DriverM γ α) : Keeps (onGuests m) := by
  refine keeps_focus ?_ _ m
  exact fun _ _ => rfl

instance (result : Result α) : Keeps (onResult result : HostM γ α) :=
  ⟨fun _ => rfl⟩

instance (m : DriverM γ α) : Keeps (attempt m) := by
  refine ⟨fun world => ?_⟩
  have hc : Keeps (do return Except.ok (← onGuests m) : HostM γ (Result α)) := inferInstance
  rw [attempt, final_tryCatch]
  split
  · exact hc.settled world
  · rename_i e _
    cases e with
    | failed error => exact hc.settled world
    | silent => exact hc.settled world

instance  {journaled : Bool} [h : Keeps checks] :
    Keeps (LifecycleHost.unlessJournaled journaled checks) := by
  unfold LifecycleHost.unlessJournaled
  split
  · infer_instance
  · exact h

instance {host : LifecycleHost γ} {target : ContainerTarget} {name : String} :
    Keeps (host.ensureTargetDriverOperation operationId target opn name) := by
  unfold LifecycleHost.ensureTargetDriverOperation
  infer_instance

end HostM

/-! ## Work and answer -/

open HostM

/-- How the work of a call ends: its outcome is to be acknowledged, or it is returned as it is. -/
inductive Ending (α : Type)
  | succeeded (operationId : OperationId) (value : α)
  | failed (operationId : OperationId) (error : Error) (terminal : error.isRetryable = false)
  | returned (value : α)

def Ending.map (f : α → β) : Ending α → Ending β
  | .succeeded operationId value => .succeeded operationId (f value)
  | .failed operationId error terminal => .failed operationId error terminal
  | .returned value => .returned (f value)

namespace LifecycleHost

def answer (host : LifecycleHost γ) (health : Nat → GuestHealth) : Ending α → HostM γ α
  | .succeeded operationId value => do
    host.acknowledgeOperation health operationId
    return value
  | .failed operationId error _ => do
    host.acknowledgeOperation health operationId
    throw (.failed error)
  | .returned value => pure value

/-- A call consists of work that does not look at the guests' health and of its answer. -/
class Answers (host : LifecycleHost γ) (call : (Nat → GuestHealth) → HostM γ α) : Prop where
  split : ∃ work : HostM γ (Ending α), Keeps work ∧
    ∀ health, call health = work >>= host.answer health

variable {host : LifecycleHost γ} {operationId : OperationId} {opn : RuntimeOperation}
  {name : String}

instance (priority := low) answers_of_keeps [Keeps m] : Answers host fun _ => m :=
  ⟨m >>= fun value => pure (.returned value), inferInstance, fun _ => by
    rw [Program.bind_assoc]
    exact (Program.bind_pure m).symm⟩

theorem Answers.bind {f : β → (Nat → GuestHealth) → HostM γ α} [Keeps x]
    (hf : ∀ b, Answers host (f b)) : Answers host fun health => x >>= fun b => f b health := by
  choose work hk hw using fun b => (hf b).split
  refine ⟨x >>= work, inferInstance, fun health => ?_⟩
  rw [Program.bind_assoc]
  exact congrArg (x >>= ·) (funext fun b => hw b health)

instance  {f : β → (Nat → GuestHealth) → HostM γ α} [Keeps x]
    [hf : ∀ b, Answers host (f b)] : Answers host fun health => x >>= fun b => f b health :=
  .bind hf

/-- Work whose answer is matched on. -/
instance (priority := low)
    {f : Option β → (Nat → GuestHealth) → HostM γ α} [Keeps x] [hn : Answers host (f none)]
    [hs : ∀ b, Answers host (f (some b))] :
    Answers host fun health => x >>= fun b => f b health :=
  .bind fun b => b.casesOn hn hs

instance answers_map {call : (Nat → GuestHealth) → HostM γ α} [h : Answers host call] (f : α → β) :
    Answers host fun health => f <$> call health := by
  obtain ⟨work, hk, hw⟩ := h
  refine ⟨work >>= fun settled => pure (settled.map f), inferInstance, fun health => ?_⟩
  show (call health >>= fun a => pure (f a)) = _
  rw [hw, Program.bind_assoc, Program.bind_assoc]
  refine congrArg (work >>= ·) (funext fun settled => ?_)
  cases settled with
  | succeeded operationId value =>
    show (host.acknowledgeOperation health operationId >>= fun _ => pure value) >>= _ = _
    rw [Program.bind_assoc]
    rfl
  | failed operationId error terminal =>
    show (host.acknowledgeOperation health operationId >>= fun _ =>
      throw (.failed error)) >>= _ = _
    rw [Program.bind_assoc]
    rfl
  | returned value => rfl

instance answers_acknowledgeResult {result : HostM γ α} [Keeps result] :
    Answers host fun health => host.acknowledgeResult health operationId result :=
  ⟨result >>= fun value => pure (.succeeded operationId value), inferInstance, fun _ => by
    rw [Program.bind_assoc]
    rfl⟩

instance answers_failDriverOperation : Answers (α := α) host fun health =>
    host.failDriverOperation health operationId error := by
  unfold failDriverOperation
  cases hr : error.isRetryable with
  | true => exact @answers_of_keeps _ _ _ (throw _) _
  | false =>
    refine ⟨onStore (failOperation host.sdk operationId error) >>= fun _ =>
      pure (.failed operationId error hr), inferInstance, fun _ => ?_⟩
    rw [Program.bind_assoc]
    rfl

instance  {complete : β → StoreM α} :
    Answers host fun health => host.conclude health operationId oc complete := by
  cases oc with
  | ok value => exact answers_acknowledgeResult
  | error error => exact answers_failDriverOperation

instance  {next : β → (Nat → GuestHealth) → HostM γ α}
    [hn : ∀ b, Answers host (next b)] : Answers host fun health =>
      host.orFail health operationId verdict fun b => next b health := by
  cases verdict with
  | ok value => exact hn value
  | error error => exact answers_failDriverOperation

instance {journaled : Bool}
    {next : β → (Nat → GuestHealth) → HostM γ α} [hn : ∀ b, Answers host (next b)] :
    Answers host fun health =>
      host.orSettle health operationId journaled verdict fun b => next b health := by
  cases verdict with
  | ok value => exact hn value
  | error error =>
    cases journaled with
    | true => exact answers_failDriverOperation
    | false => exact @answers_of_keeps _ _ _ (throw _) _

instance answers_drive {prepare : StoreM (Preparation β α)}
    {effect : Bool → β → (Nat → GuestHealth) → HostM γ α}
    [hef : ∀ fresh value, Answers host (effect fresh value)] : Answers host fun health =>
      host.drive health operationId prepare fun fresh value => effect fresh value health := by
  refine .bind fun preparation => ?_
  cases preparation with
  | prepared value => exact hef true value
  | resume value => exact hef false value
  | replayed response => exact answers_acknowledgeResult

/-! ## Every operation -/

instance {context : OperationContext} {prepare : StoreM RecordOperationPreparation}
    {call : RuntimeDriver γ → ContainerTarget → DriverM γ DriverState}
    {complete : DriverState → StoreM ContainerRecord} : Answers host fun health =>
      host.containerOperation health context requested opn name prepare call complete := by
  unfold containerOperation
  infer_instance

instance {context : OperationContext} {prepare : StoreM (Preparation ProcessTarget Unit)}
    {call : RuntimeDriver γ → ProcessTarget → DriverM γ Unit} :
    Answers host fun health =>
      host.processOperation health context requested opn name prepare call complete := by
  unfold processOperation
  infer_instance

instance  {prepare : StoreM (FilesystemMutationPreparation α)}
    {call : RuntimeDriver γ → ContainerTarget → DriverM γ α}
    {validate : ContainerTarget → α → Result α} {complete : α → StoreM α} :
    Answers host fun health => host.fileMutation health operationId requested opn name prepare
      call validate complete := by
  unfold fileMutation
  infer_instance

instance  {call : RuntimeDriver γ → ContainerTarget → DriverM γ α}
    {validate : ContainerTarget → α → Result α} : Answers host fun _ =>
      host.fileQuery requested opn name call validate := by
  unfold fileQuery
  infer_instance

instance {request : RestoreRequest} {runtimeArtifact : String} : Answers host fun health =>
      host.restoreFrom health request teeLaunch reference runtimeArtifact registered := by
  unfold restoreFrom
  infer_instance

set_option synthInstance.maxSize 512 in
theorem answers_serve (host : LifecycleHost γ) (call : HostCall) :
    Answers host fun health => host.serve health call := by
  cases call with
  | create r inheritedDescriptors =>
    refine @answers_map _ _ _ _ _ ?_ _
    refine .bind fun _ => .bind fun _ => .bind fun _ => .bind fun _ => .bind fun _ => .bind fun _ => ?_
    refine .bind fun _ => @answers_drive _ _ _ _ _ _ _ fun _ record => .bind fun _ => .bind fun _ => ?_
    infer_instance
  | file r =>
    refine @answers_map _ _ _ _ _ (.bind fun _ => ?_) _
    cases r.op <;> infer_instance
  | filesystem r =>
    refine @answers_map _ _ _ _ _ (.bind fun _ => ?_) _
    by_cases hm : r.op.isMutating = true
    · simp only [hm, if_true]
      infer_instance
    · simp only [hm, Bool.false_eq_true, if_false]
      infer_instance
  | _ =>
    simp only [serve, start, kill, delete, exec, pause, resume, update, writeStdin, closeStdin, resize,
      signalProcess, checkpoint, restore, attest]
    infer_instance

/-! ## Acknowledgements -/

/-- An interruption that a stopped guest causes; no recorded failure is one. -/
def Temporary : Interruption → Prop
  | .failed error => error.isRetryable = true
  | .silent => True

theorem temporary_of_stop (stop : GuestStop) : Temporary stop.interruption := by
  cases stop with
  | poisoned => rfl
  | closed => rfl
  | transport opn error => rfl
  | silent => trivial

theorem client_succeedsIff (health : Nat → GuestHealth) (client : GuestClient γ)
    (operationId : OperationId) : SucceedsIff Temporary (health client.guest = .answering)
      (client.acknowledgeOperation health operationId) := by
  unfold GuestClient.acknowledgeOperation
  cases health client.guest with
  | answering => exact ⟨fun _ _ => rfl, fun h => absurd rfl h⟩
  | stopped stop => exact ⟨nofun, fun _ _ => ⟨_, rfl, temporary_of_stop stop⟩⟩

theorem onGuests_succeedsIff {c : Prop} (h : SucceedsIff Temporary c m) :
    SucceedsIff Temporary c (onGuests m) := by
  refine ⟨fun hc world => ?_, fun hc world => ?_⟩
  · rw [onGuests, result_focus, h.1 hc]
    rfl
  · obtain ⟨e, he, ht⟩ := h.2 hc world.guests
    rw [onGuests, result_focus, he]
    exact ⟨e, rfl, ht⟩

/-- An acknowledgement goes through exactly if every live guest of every driver answers. -/
theorem acknowledgeOperation_succeedsIff (host : LifecycleHost γ) (health : Nat → GuestHealth)
    (operationId : OperationId) : SucceedsIff Temporary
      (∀ driver ∈ host.drivers, ∀ client ∈ driver.clients, health client.guest = .answering)
      (host.acknowledgeOperation health operationId) := by
  have hl := SucceedsIff.forM (l := host.drivers) fun driver _ =>
    onGuests_succeedsIff (SucceedsIff.forM (l := driver.clients) fun client _ =>
      client_succeedsIff health client operationId)
  exact ⟨fun h _ => hl.1 h _, fun h _ => hl.2 h _⟩

instance keeps_forM {f : β → HostM γ Unit} [∀ b, Keeps (f b)] (l : List β) : Keeps (l.forM f) := by
  induction l with
  | nil => exact keeps_pure ()
  | cons b l ih => exact keeps_bind

theorem acknowledgeOperation_settled (host : LifecycleHost γ) (health : Nat → GuestHealth)
    (operationId : OperationId) (world : World γ) :
    ((host.acknowledgeOperation health operationId).final world).settled =
      world.settled ++ [operationId] := by
  rw [acknowledgeOperation, final_bind]
  exact (keeps_forM host.drivers).settled _

/-- What follows an acknowledgement changes neither the record nor, unless it fails, the answer. -/
theorem acknowledged_then [hn : Keeps next] (world : World γ) :
    (((host.acknowledgeOperation health operationId) >>= fun _ => next).final world).settled =
      world.settled ++ [operationId] := by
  rw [final_bind]
  cases (host.acknowledgeOperation health operationId).result world with
  | ok _ => exact (hn.settled _).trans (acknowledgeOperation_settled host health operationId world)
  | error e => exact acknowledgeOperation_settled host health operationId world

theorem answer_settled (host : LifecycleHost γ) (health : Nat → GuestHealth) (settled : Ending α)
    (world : World γ) : ((host.answer health settled).final world).settled = world.settled ↔
      ∃ value, settled = .returned value := by
  cases settled with
  | succeeded operationId value =>
    have h : ((host.answer health (.succeeded operationId value)).final world).settled =
      world.settled ++ [operationId] := acknowledged_then world
    simp [h]
  | failed operationId error terminal =>
    have h : ((host.answer health (.failed (α := α) operationId error terminal)).final
      world).settled = world.settled ++ [operationId] := acknowledged_then world
    simp [h]
  | returned value => exact ⟨fun _ => ⟨value, rfl⟩, fun _ => rfl⟩

/-- All live guests of all drivers answer. -/
def AllAnswer (host : LifecycleHost γ) (health : Nat → GuestHealth) : Prop :=
  ∀ driver ∈ host.drivers, ∀ client ∈ driver.clients, health client.guest = .answering

theorem allAnswer_healthy (host : LifecycleHost γ) : host.AllAnswer fun _ => .answering :=
  fun _ _ _ _ => rfl

/-- An acknowledged outcome reaches the caller exactly if all guests answer. -/
theorem answer_result_eq_iff (host : LifecycleHost γ) (health : Nat → GuestHealth)
    (settled : Ending α) (world : World γ) :
    (host.answer health settled).result world =
        (host.answer (fun _ => .answering) settled).result world ↔
      host.AllAnswer health ∨ ∃ value, settled = .returned value := by
  -- with and without stopped guests, the answer is what the acknowledgement lets through
  have hac (health : Nat → GuestHealth) (operationId : OperationId) :=
    acknowledgeOperation_succeedsIff host health operationId
  cases settled with
  | returned value => exact ⟨fun _ => .inr ⟨value, rfl⟩, fun _ => rfl⟩
  | succeeded operationId value =>
    simp only [answer, result_bind,
      (hac (fun _ => .answering) operationId).1 (allAnswer_healthy host) world]
    by_cases ha : host.AllAnswer health
    · rw [(hac health operationId).1 ha world]
      exact ⟨fun _ => .inl ha, fun _ => rfl⟩
    · obtain ⟨e, he, -⟩ := (hac health operationId).2 ha world
      rw [he]
      exact ⟨nofun, fun h => by simp [ha] at h⟩
  | failed operationId error terminal =>
    simp only [answer, result_bind,
      (hac (fun _ => .answering) operationId).1 (allAnswer_healthy host) world]
    by_cases ha : host.AllAnswer health
    · rw [(hac health operationId).1 ha world]
      exact ⟨fun _ => .inl ha, fun _ => rfl⟩
    · obtain ⟨e, he, ht⟩ := (hac health operationId).2 ha world
      rw [he]
      refine ⟨fun heq => ?_, fun h => by simp [ha] at h⟩
      -- a recorded failure is terminal, a stopped guest's error is not
      obtain rfl : e = .failed error := Except.error.inj heq
      simp [Temporary, terminal] at ht

/-- **A stopped guest and everybody else's operations.** Whatever the operation, the store, the
    drivers and the condition of the guests: if the operation's own guest answers, its caller gets
    the result it would get with all guests healthy if and only if all other live guests of all
    drivers answer, or the call is one that ends without an acknowledgement. -/
theorem other_guests_decide_answer (host : LifecycleHost γ) (health : Nat → GuestHealth)
    (own : Nat) (hown : health own = .answering) (call : HostCall) (world : World γ) :
    (host.serve health call).result world = (host.serve (fun _ => .answering) call).result world ↔
      (∀ driver ∈ host.drivers, ∀ client ∈ driver.clients, client.guest ≠ own →
        health client.guest = .answering) ∨
      ((host.serve (fun _ => .answering) call).final world).settled = world.settled := by
  have ho : (∀ driver ∈ host.drivers, ∀ client ∈ driver.clients, client.guest ≠ own →
      health client.guest = .answering) ↔ host.AllAnswer health := by
    refine ⟨fun h driver hd client hc => ?_, fun h driver hd client hc _ =>
      h driver hd client hc⟩
    by_cases hw : client.guest = own
    · rw [hw, hown]
    · exact h driver hd client hc hw
  obtain ⟨work, hk, hwr⟩ := (answers_serve host call).split
  have hs (health : Nat → GuestHealth) : host.serve health call = work >>= host.answer health :=
    hwr health
  rw [ho, hs, hs, result_bind, result_bind, final_bind]
  cases work.result world with
  | error e => exact ⟨fun _ => .inr (hk.settled world), fun _ => rfl⟩
  | ok settled =>
    have hst := answer_settled host (fun _ => .answering) settled (work.final world)
    rw [hk.settled world] at hst
    rw [answer_result_eq_iff, hst]

end LifecycleHost

namespace Sample

/-- Create `web` in a virtual machine of its own. -/
def createVm : HostCall :=
  .create
    { context := ⟨opA, none⟩, id := web, bundle, isolation := .dedicatedVm
      attachments := ⟨none, "manifest"⟩ }
    none

/-- Start `web`, which the store does not know. -/
def startUnknown : HostCall := .start ⟨⟨opA, none⟩, target⟩

/-- Guest 1, which has nothing to do with `web`, has lost its connection. -/
def guestLost (guest : Nat) : GuestHealth := if guest = 1 then .stopped .poisoned else .answering

def fresh : World Unit := ⟨.empty, (), []⟩

end Sample

namespace LifecycleHost

/-- A guest that no driver has a session with may be down; so may a live one, when the call ends
    without an acknowledgement. -/
theorem other_guests_decide_answer_createVm :
    (Sample.host.serve (fun guest => if guest = 9 then .stopped .silent else .answering)
        Sample.createVm).result Sample.fresh =
      (Sample.host.serve (fun _ => .answering) Sample.createVm).result Sample.fresh ∧
    (Sample.host.serve Sample.guestLost Sample.startUnknown).result Sample.fresh =
      (Sample.host.serve (fun _ => .answering) Sample.startUnknown).result Sample.fresh :=
  ⟨(other_guests_decide_answer Sample.host _ 0 (if_neg (by decide)) Sample.createVm
      Sample.fresh).mpr (.inl (by decide)),
    (other_guests_decide_answer Sample.host Sample.guestLost 0 (by decide) Sample.startUnknown
      Sample.fresh).mpr (.inr (by decide +kernel))⟩

/-- The container is created, and the caller is told that the runtime is unavailable because a guest
    of another container does not answer. -/
theorem lost_guest_hides_success :
    Sample.guestLost 0 = .answering ∧
    ((Sample.host.serve (fun _ => .answering) Sample.createVm).result Sample.fresh).isOk ∧
    (Sample.host.serve Sample.guestLost Sample.createVm).result Sample.fresh =
      .error (.failed ((agentProtocolError .unavailable
        "guest-agent connection is closed after an earlier protocol failure").retryable true)) :=
  ⟨by decide, by decide +kernel, by decide +kernel⟩

end LifecycleHost

end OciRuntime
