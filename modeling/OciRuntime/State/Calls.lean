import OciRuntime.State.EventPoll

/-!
# `OciRuntime.State.Calls` — the interface of the store

Every method of the store that journals, observes, waits or polls, as one data type. A run of the store is
a sequence of such calls, made in any order by any number of callers: the store serialises them, so
an interleaving of callers is an interleaving of whole calls.
-/

namespace OciRuntime

open Durable Program

/-- What the caller of the store is told besides the payload: whether it may now drive the
    operation. -/
inductive Reply
  | granted
  | answered
  deriving DecidableEq

/-- The answer of a prepare call. -/
def Preparation.reply {α β : Type} (preparation : Preparation α β) : Reply :=
  if preparation.isGrant then .granted else .answered

/-- A call of the store. Bundles are parsed before they reach it, so a request with a bundle comes
    with the evidence that its digest belongs to its configuration. -/
inductive Call (sdk : Sdk)
  | prepareCreate (clock : Clock) (request : CreateRequest) (driver : DriverKind)
      (inheritedDescriptors : Option String) (built : request.bundle.WellFormed sdk)
  | completeCreate (clock : Clock) (operationId : OperationId) (pid : Int)
  | lookupRestore (request : RestoreRequest)
  | prepareRestore (clock : Clock) (request : RestoreRequest) (driver : DriverKind)
      (built : request.bundle.WellFormed sdk)
  | completeRestore (clock : Clock) (operationId : OperationId) (pid : Int)
  | prepareStart (clock : Clock) (request : StartRequest)
  | completeStart (clock : Clock) (operationId : OperationId) (status : ContainerState)
      (pid : Option Int)
  | prepareKill (clock : Clock) (request : KillRequest)
  | completeKill (clock : Clock) (operationId : OperationId) (status : ContainerState)
      (pid : Option Int)
  | prepareDelete (clock : Clock) (request : DeleteRequest)
  | completeDelete (clock : Clock) (operationId : OperationId)
  /-- `prepare_pause` and `prepare_resume`. -/
  | prepareFreezer (clock : Clock) (request : ContainerOperationRequest) (action : FreezerAction)
  /-- `complete_pause` and `complete_resume`. -/
  | completeFreezer (clock : Clock) (operationId : OperationId) (status : ContainerState)
      (pid : Option Int) (paused : Bool) (action : FreezerAction)
  | prepareUpdate (clock : Clock) (request : UpdateRequest)
  | completeUpdate (clock : Clock) (operationId : OperationId) (status : ContainerState)
      (pid : Option Int) (paused : Bool)
  | prepareFileMutation (clock : Clock) (request : FileRequest)
  | completeFileMutation (operationId : OperationId) (response : FileResponse)
  | prepareFilesystemMutation (clock : Clock) (request : FilesystemRequest)
  | completeFilesystemMutation (operationId : OperationId) (response : FilesystemResponse)
  | prepareCheckpoint (clock : Clock) (request : CheckpointRequest)
  | completeCheckpoint (operationId : OperationId) (response : CheckpointResponse)
  | prepareAttestation (clock : Clock) (request : TeeAttestationRequest)
  | completeAttestation (clock : Clock) (operationId : OperationId)
      (response : TeeAttestationResponse)
  | prepareExec (clock : Clock) (request : ExecRequest)
  | completeExec (clock : Clock) (operationId : OperationId) (pid : Int) (terminal : Bool)
  | prepareSignalProcess (clock : Clock) (request : SignalProcessRequest)
  | completeSignalProcess (operationId : OperationId)
  | prepareWriteStdin (clock : Clock) (request : WriteStdinRequest)
  | completeWriteStdin (operationId : OperationId)
  | prepareCloseStdin (clock : Clock) (request : CloseStdinRequest)
  | completeCloseStdin (operationId : OperationId)
  | prepareResize (clock : Clock) (request : ResizeRequest)
  | completeResize (operationId : OperationId)
  | failOperation (operationId : OperationId) (error : Error)
  | prepareWaitProcess (target : ProcessTarget)
  | completeProcessWait (clock : Clock) (target : ProcessTarget) (status : ExitStatus)
  /-- `observe_state` and `observe_state_with_pause`. -/
  | observeState (clock : Clock) (target : ContainerTarget) (observed : DriverState)
  | observeRecreatedCreatedProcess (clock : Clock) (target : ContainerTarget)
      (observed : DriverState)
  | observeRecreatedRunningProcess (clock : Clock) (target : ContainerTarget)
      (observed : DriverState)
  | observeRecreatedPausedRunningProcess (clock : Clock) (target : ContainerTarget)
      (observed : DriverState)
  | observeRecreatedExecProcesses (target : ContainerTarget) (observed : List ProcessRecord)
  /-- One poll of `events`, which repairs the records of interrupted appends. -/
  | pollEvents (filter : Option ContainerTarget) (afterSequence limit : Nat)

section Run

variable {sdk : Sdk}

/-- A method with its arguments: its program, and what its answer tells besides the payload. -/
structure Invocation where
  Answer : Type
  program : StoreM Answer
  reply : Answer → Reply

def Invocation.run (invocation : Invocation) : StoreM Reply :=
  invocation.reply <$> invocation.program

/-- A prepare call. -/
def granting {α β : Type} (m : StoreM (Preparation α β)) : Invocation := ⟨_, m, Preparation.reply⟩

/-- A call that grants nothing. -/
def answering {α : Type} (m : StoreM α) : Invocation := ⟨_, m, fun _ => .answered⟩

@[simp] theorem run_granting {α β : Type} (m : StoreM (Preparation α β)) :
    (granting m).run = Preparation.reply <$> m := rfl

@[simp] theorem run_answering {α : Type} (m : StoreM α) :
    (answering m).run = (fun _ => Reply.answered) <$> m := rfl

def Call.invocation : Call sdk → Invocation
  | .prepareCreate clock request driver inheritedDescriptors _ =>
    granting (OciRuntime.prepareCreate sdk clock request driver inheritedDescriptors)
  | .completeCreate clock operationId pid =>
    answering (OciRuntime.completeCreate sdk clock operationId pid)
  | .lookupRestore request => answering (OciRuntime.lookupRestore sdk request)
  | .prepareRestore clock request driver _ =>
    granting (OciRuntime.prepareRestore sdk clock request driver)
  | .completeRestore clock operationId pid =>
    answering (OciRuntime.completeRestore sdk clock operationId pid)
  | .prepareStart clock request => granting (OciRuntime.prepareStart sdk clock request)
  | .completeStart clock operationId status pid =>
    answering (OciRuntime.completeStart sdk clock operationId status pid)
  | .prepareKill clock request => granting (OciRuntime.prepareKill sdk clock request)
  | .completeKill clock operationId status pid =>
    answering (OciRuntime.completeKill sdk clock operationId status pid)
  | .prepareDelete clock request => granting (OciRuntime.prepareDelete sdk clock request)
  | .completeDelete clock operationId =>
    answering (OciRuntime.completeDelete sdk clock operationId)
  | .prepareFreezer clock request action =>
    granting (OciRuntime.prepareFreezer sdk clock request action)
  | .completeFreezer clock operationId status pid paused action =>
    answering (OciRuntime.completeFreezer sdk clock operationId status pid paused action)
  | .prepareUpdate clock request => granting (OciRuntime.prepareUpdate sdk clock request)
  | .completeUpdate clock operationId status pid paused =>
    answering (OciRuntime.completeUpdate sdk clock operationId status pid paused)
  | .prepareFileMutation clock request =>
    granting (OciRuntime.prepareFileMutation sdk clock request)
  | .completeFileMutation operationId response =>
    answering (OciRuntime.completeFileMutation sdk operationId response)
  | .prepareFilesystemMutation clock request =>
    granting (OciRuntime.prepareFilesystemMutation sdk clock request)
  | .completeFilesystemMutation operationId response =>
    answering (OciRuntime.completeFilesystemMutation sdk operationId response)
  | .prepareCheckpoint clock request =>
    granting (OciRuntime.prepareCheckpoint sdk clock request)
  | .completeCheckpoint operationId response =>
    answering (OciRuntime.completeCheckpoint sdk operationId response)
  | .prepareAttestation clock request =>
    granting (OciRuntime.prepareAttestation sdk clock request)
  | .completeAttestation clock operationId response =>
    answering (OciRuntime.completeAttestation sdk clock operationId response)
  | .prepareExec clock request => granting (OciRuntime.prepareExec sdk clock request)
  | .completeExec clock operationId pid terminal =>
    answering (OciRuntime.completeExec sdk clock operationId pid terminal)
  | .prepareSignalProcess clock request =>
    granting (OciRuntime.prepareSignalProcess sdk clock request)
  | .completeSignalProcess operationId =>
    answering (OciRuntime.completeSignalProcess sdk operationId)
  | .prepareWriteStdin clock request => granting (OciRuntime.prepareWriteStdin sdk clock request)
  | .completeWriteStdin operationId => answering (OciRuntime.completeWriteStdin sdk operationId)
  | .prepareCloseStdin clock request => granting (OciRuntime.prepareCloseStdin sdk clock request)
  | .completeCloseStdin operationId => answering (OciRuntime.completeCloseStdin sdk operationId)
  | .prepareResize clock request => granting (OciRuntime.prepareResize sdk clock request)
  | .completeResize operationId => answering (OciRuntime.completeResize sdk operationId)
  | .failOperation operationId error =>
    answering (OciRuntime.failOperation sdk operationId error)
  | .prepareWaitProcess target => answering (OciRuntime.prepareWaitProcess sdk target)
  | .completeProcessWait clock target status =>
    answering (OciRuntime.completeProcessWait sdk clock target status)
  | .observeState clock target observed =>
    answering (observeStateInner sdk clock target observed .none)
  | .observeRecreatedCreatedProcess clock target observed =>
    answering (OciRuntime.observeRecreatedCreatedProcess sdk clock target observed)
  | .observeRecreatedRunningProcess clock target observed =>
    answering (OciRuntime.observeRecreatedRunningProcess sdk clock target observed)
  | .observeRecreatedPausedRunningProcess clock target observed =>
    answering (OciRuntime.observeRecreatedPausedRunningProcess sdk clock target observed)
  | .observeRecreatedExecProcesses target observed =>
    answering (OciRuntime.observeRecreatedExecProcesses sdk target observed)
  | .pollEvents filter afterSequence limit =>
    answering (OciRuntime.pollEvents filter afterSequence limit)

def Call.run (call : Call sdk) : StoreM Reply := call.invocation.run

/-- The operation on whose behalf a call acts: its own one, and for an observation the one that
    holds the lifecycle claim. -/
def Call.actor (s : Store) : Call sdk → Option OperationId
  | .prepareCreate _ request _ _ _ => some request.context.operationId
  | .lookupRestore request | .prepareRestore _ request _ _ => some request.context.operationId
  | .prepareStart _ request => some request.context.operationId
  | .prepareKill _ request => some request.context.operationId
  | .prepareDelete _ request => some request.context.operationId
  | .prepareFreezer _ request _ => some request.context.operationId
  | .prepareUpdate _ request => some request.context.operationId
  | .prepareFileMutation _ request => request.context.map (·.operationId)
  | .prepareFilesystemMutation _ request => request.context.map (·.operationId)
  | .prepareCheckpoint _ request => some request.context.operationId
  | .prepareAttestation _ request => some request.context.operationId
  | .prepareExec _ request => some request.context.operationId
  | .prepareSignalProcess _ request => some request.context.operationId
  | .prepareWriteStdin _ request => some request.context.operationId
  | .prepareCloseStdin _ request => some request.context.operationId
  | .prepareResize _ request => some request.context.operationId
  | .completeCreate _ operationId _ | .completeRestore _ operationId _
  | .completeStart _ operationId _ _ | .completeKill _ operationId _ _
  | .completeDelete _ operationId | .completeFreezer _ operationId _ _ _ _
  | .completeUpdate _ operationId _ _ _ | .completeFileMutation operationId _
  | .completeFilesystemMutation operationId _ | .completeCheckpoint operationId _
  | .completeAttestation _ operationId _ | .completeExec _ operationId _ _
  | .completeSignalProcess operationId | .completeWriteStdin operationId
  | .completeCloseStdin operationId | .completeResize operationId
  | .failOperation operationId _ => some operationId
  | .observeState _ target _ | .observeRecreatedCreatedProcess _ target _
  | .observeRecreatedRunningProcess _ target _ | .observeRecreatedPausedRunningProcess _ target _ =>
    s.lifecycleClaim target.id
  | .prepareWaitProcess _ | .completeProcessWait _ _ _ | .observeRecreatedExecProcesses _ _
  | .pollEvents _ _ _ => none

end Run

/-! ## A permissive environment

Every check of the SDK succeeds and every digest is its input; the store can be evaluated in it. -/

namespace Sample

def sdk : Sdk where
  listing :=
    { le a b := b ≤ a
      trans hab hbc := by
        simp only [decide_eq_true_eq] at *
        exact le_trans hbc hab
      total a b := by
        simp only [decide_eq_true_eq]
        exact le_total b a
      antisymm hab hba := by
        simp only [decide_eq_true_eq] at *
        exact le_antisymm hba hab }
  sha256 text := text
  legacyDigest _ := "legacy"
  canonicalDigest _ := "canonical"
  parseConfig _ _ := .ok ⟨"1.3.0", none⟩
  validateForCreate _ := .ok ()
  validateAttachments _ _ := .ok ()
  usesTeeLaunch _ := false
  resolveProcessIo _ _ := .ok ()
  networkEnforcement _ _ := .ok none
  teeLaunch _ _ := .ok none
  attachmentsDigest attachments := attachments.manifest
  validateCompatibility _ := .ok ()
  validateProcess _ := .ok ()
  validateResources _ := .ok ()
  validateFile _ := .ok ()
  validateFilesystem _ := .ok ()
  validateEvidence _ := .ok ()

def clock : Clock := ⟨some 0, fun _ => some 1⟩

def web : ContainerId := ⟨⟨"web", by decide⟩⟩

def opA : OperationId := ⟨⟨"a", by decide⟩⟩

def opB : OperationId := ⟨⟨"b", by decide⟩⟩

def opC : OperationId := ⟨⟨"c", by decide⟩⟩

def opD : OperationId := ⟨⟨"d", by decide⟩⟩

def bundle : OciBundle := ⟨"/bundle", "config", "config", ⟨"1.3.0", none⟩⟩

/-- Create the container `web`. -/
def create (o : OperationId) : Call sdk :=
  .prepareCreate clock
    { context := ⟨o, none⟩, id := web, bundle, isolation := .sharedHostKernel
      attachments := ⟨none, "manifest"⟩ }
    .nativeLinux none rfl

/-- The driver reports a terminal failure of the operation. -/
def fail (o : OperationId) : Call sdk := .failOperation o (.new .internal "driver failure")

/-- The current generation of `web`. -/
def target : ContainerTarget := ⟨web, none⟩

/-- The driver has created `web` with process 7. -/
def created (o : OperationId) : Call sdk := .completeCreate clock o 7

def start (o : OperationId) : Call sdk := .prepareStart clock ⟨⟨o, none⟩, target⟩

/-- The driver has started `web`. -/
def started (o : OperationId) : Call sdk := .completeStart clock o .running (some 7)

def shell : ProcessId := ⟨⟨"shell", by decide⟩⟩

/-- Execute `shell` in `web`. -/
def exec (o : OperationId) : Call sdk :=
  .prepareExec clock ⟨⟨o, none⟩, target, shell, ⟨"process", [], [], Document.noMaps⟩, false, "io"⟩

/-- Delete `web` whatever its status. -/
def delete (o : OperationId) : Call sdk := .prepareDelete clock ⟨⟨o, none⟩, target, .force⟩

/-- The states of a run that creates `web`. -/
def creation : List Store := visited Call.run .empty [(create opA, 9), (created opA, 9)]

/-- The states of a run that creates `web`, deletes it and creates it again. -/
def recreation : List Store :=
  visited Call.run .empty [(create opA, 9), (created opA, 9), (delete opB, 9),
    (.completeDelete clock opB, 9), (create opC, 9), (created opC, 9)]

end Sample

end OciRuntime
