import Mathlib.Data.List.Sort
import Mathlib.Data.Prod.Lex
import OciRuntime.Lib.Checks
import OciRuntime.Sdk.Basic

/-!
# `OciRuntime.Agent.IdMappings` — the id mappings of a user namespace

The part of `agent/src/executor/namespace.rs` that plans user and group ids: which mappings are
accepted from the configuration or from a joined namespace, which ids must be mapped, and the host
id of a container id. The other namespaces of the plan and its time offsets are left out.
-/

namespace OciRuntime

open Durable

structure IdMapping where
  containerId : UInt32
  hostId : UInt32
  size : UInt32
  deriving DecidableEq

/-- The fields in the order in which mappings are compared. -/
def IdMapping.key (mapping : IdMapping) : ℕ ×ₗ ℕ ×ₗ ℕ :=
  toLex (mapping.containerId.toNat, toLex (mapping.hostId.toNat, mapping.size.toNat))

def maxIdMappings : Nat := 340

def checkedAdd (a b : UInt32) : Option UInt32 :=
  if a.toNat + b.toNat < UInt32.size then some (a + b) else none

def checkedSub (a b : UInt32) : Option UInt32 := if b ≤ a then some (a - b) else none

def planInvalid (message : String) : Error :=
  (Error.new .invalidArgument message).forOperation "plan-guest-init"

def namespaceError (code : ErrorCode) (message : String) : Error :=
  (Error.new code message).forOperation "run-container-init"

/-- The container range or the host range leaves the 32-bit ids. -/
def IdMapping.exceeds (mapping : IdMapping) : Bool :=
  let lastOffset := mapping.size - 1
  (checkedAdd mapping.containerId lastOffset).isNone || (checkedAdd mapping.hostId lastOffset).isNone

def mappingRangesOverlap (left leftSize right rightSize : UInt32) : Bool :=
  left.toNat < right.toNat + rightSize.toNat && right.toNat < left.toNat + leftSize.toNat

def sortMappings (mappings : List IdMapping) : List IdMapping :=
  mappings.insertionSort fun a b => a.key ≤ b.key

/-! ## Accepted mappings -/

def validateNonOverlappingMappings (field : String) (mappings : List IdMapping) : Result Unit :=
  mappings.zipIdx.forM fun (mapping, index) =>
    (mappings.take index).zipIdx.forM fun (prior, priorIndex) => do
      rejectIf (mappingRangesOverlap mapping.containerId mapping.size prior.containerId prior.size)
        (planInvalid s!"{field}[{index}].containerID overlaps {field}[{priorIndex}]")
      rejectIf (mappingRangesOverlap mapping.hostId mapping.size prior.hostId prior.size)
        (planInvalid s!"{field}[{index}].hostID overlaps {field}[{priorIndex}]")

/-- The mappings of a configuration. -/
def collectMappings (field : String) (mappings : Option (List IdMapping)) :
    Result (List IdMapping) := do
  let mappings := mappings.getD []
  rejectIf (mappings.length > maxIdMappings) ((Error.new .resourceExhausted
    s!"{field} contains {mappings.length} entries; maximum is {maxIdMappings}").forOperation
      "plan-guest-init")
  mappings.zipIdx.forM fun (mapping, index) => do
    rejectIf (mapping.size = 0) (planInvalid s!"{field}[{index}].size must be positive")
    rejectIf mapping.exceeds (planInvalid s!"{field}[{index}] exceeds the uint32 ID space")
  validateNonOverlappingMappings field mappings
  return sortMappings mappings

/-- The mappings read from a joined user namespace. -/
def validateObservedMappings (kind : String) (mappings : List IdMapping) :
    Result (List IdMapping) := do
  rejectIf mappings.isEmpty (namespaceError .failedPrecondition
    s!"joined user namespace has no {kind} mappings")
  rejectIf (mappings.length > maxIdMappings) (namespaceError .resourceExhausted
    (s!"joined user namespace has {mappings.length} {kind} mappings; maximum is " ++
      s!"{maxIdMappings}"))
  mappings.zipIdx.forM fun (mapping, index) => do
    rejectIf (mapping.size = 0) (namespaceError .failedPrecondition
      s!"joined user namespace {kind} mapping {index} has zero size")
    rejectIf mapping.exceeds (namespaceError .failedPrecondition
      s!"joined user namespace {kind} mapping {index} exceeds the uint32 ID space")
    (mappings.take index).zipIdx.forM fun (prior, priorIndex) =>
      rejectIf
        (mappingRangesOverlap mapping.containerId mapping.size prior.containerId prior.size ||
          mappingRangesOverlap mapping.hostId mapping.size prior.hostId prior.size)
        (namespaceError .failedPrecondition
          s!"joined user namespace {kind} mappings {priorIndex} and {index} overlap")
  return sortMappings mappings

/-! ## Translation -/

def ensureIdMapped (field : String) (id : UInt32) (mappings : List IdMapping) : Result Unit :=
  rejectIf (!mappings.any fun mapping =>
      id ≥ mapping.containerId && id - mapping.containerId < mapping.size)
    (planInvalid s!"{field} value {id} is not covered by its container ID mappings")

def IdMapping.translate (mapping : IdMapping) (id : UInt32) : Option UInt32 := do
  let offset ← checkedSub id mapping.containerId
  if offset < mapping.size then checkedAdd mapping.hostId offset else none

def mappedHostId (id : UInt32) (mappings : List IdMapping) : Option UInt32 :=
  mappings.findSome? (·.translate id)

/-! ## The plan -/

inductive NamespaceAction
  | inherit | create | join (path : String)
  deriving DecidableEq

def NamespaceAction.isJoin : NamespaceAction → Bool
  | .join _ => true
  | _ => false

structure NamespacePlan where
  user : NamespaceAction
  uidMappings : List IdMapping
  gidMappings : List IdMapping
  resolved : Bool := false
  deriving DecidableEq

/-- The user and groups a process runs with. -/
structure ProcessUser where
  uid : UInt32
  gid : UInt32
  additionalGids : List UInt32

/-- Root and the ids of the process are mapped. -/
def ProcessUser.ensureMapped (user : ProcessUser) (uids gids : List IdMapping) : Result Unit := do
  ensureIdMapped "container root UID" 0 uids
  ensureIdMapped "container root GID" 0 gids
  ensureIdMapped "process.user.uid" user.uid uids
  ensureIdMapped "process.user.gid" user.gid gids
  user.additionalGids.zipIdx.forM fun (gid, index) =>
    ensureIdMapped s!"process.user.additionalGids[{index}]" gid gids

def NamespacePlan.fromLinux (action : NamespaceAction) (uids gids : Option (List IdMapping))
    (user : ProcessUser) : Result NamespacePlan := do
  let uidMappings ← collectMappings "linux.uidMappings" uids
  let gidMappings ← collectMappings "linux.gidMappings" gids
  if action = .create then
    rejectIf (uidMappings.isEmpty || gidMappings.isEmpty) ((Error.new .unsupported
      ("linux.uidMappings/linux.gidMappings: the bootstrap executor requires both UID and GID " ++
        "mappings for a new user namespace")).forOperation "plan-guest-init")
    user.ensureMapped uidMappings gidMappings
  else
    rejectIf (!uidMappings.isEmpty || !gidMappings.isEmpty)
      (planInvalid "Linux UID/GID mappings require a newly created user namespace")
  return { user := action, uidMappings, gidMappings }

/-- Take over the mappings `uids` and `gids` observed in a joined user namespace. -/
def NamespacePlan.resolveJoinedUserMappings (plan : NamespacePlan) (uids gids : List IdMapping)
    (user : ProcessUser) : Result NamespacePlan :=
  if !plan.user.isJoin then .ok plan
  else do
    rejectIf (plan.resolved || !plan.uidMappings.isEmpty || !plan.gidMappings.isEmpty)
      (namespaceError .conflict "joined user namespace authority was already resolved")
    let uidMappings ← validateObservedMappings "UID" uids
    let gidMappings ← validateObservedMappings "GID" gids
    user.ensureMapped uidMappings gidMappings
    return { plan with uidMappings, gidMappings, resolved := true }

def NamespacePlan.hostUid (plan : NamespacePlan) (id : UInt32) : Option UInt32 :=
  if plan.user = .inherit then some id else mappedHostId id plan.uidMappings

def NamespacePlan.hostGid (plan : NamespacePlan) (id : UInt32) : Option UInt32 :=
  if plan.user = .inherit then some id else mappedHostId id plan.gidMappings

end OciRuntime
