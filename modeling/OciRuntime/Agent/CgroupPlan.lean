import OciRuntime.Lib.Checks
import OciRuntime.Sdk.Basic

/-!
# `OciRuntime.Agent.CgroupPlan` — the control files that a cgroup plan writes

The parts of `agent/src/executor/cgroup/plan.rs` and of the planners beside it that name control
files: the typed limits, block I/O, huge pages, RDMA and the unified entries, with the check that
keeps the unified entries away from the others and the controllers a plan requires. The ranges of
the typed values, the layout and the path are left out: no file name depends on them.
-/

namespace OciRuntime

open Durable

def cgroupError (code : ErrorCode) (message : String) : Error :=
  (Error.new code message).forOperation "configure-container-cgroup"

/-! ## Unified entries -/

structure UnifiedPlan where
  settings : List (String × String) := []
  controllers : List String := []

/-- An error about an entry of `linux.resources.unified`. -/
def unifiedInvalid (message : String) : Error :=
  cgroupError .invalidArgument s!"linux.resources.unified {message}"

def keyInvalid (file message : String) : Error := unifiedInvalid s!"key {file.quote} {message}"

/-- The controller of a control file: its name before the first dot. -/
def validateFileName (file : String) : Result String := do
  rejectIf (file.isEmpty ∨ 255 < file.utf8ByteSize)
    (keyInvalid file "must contain 1 to 255 bytes")
  rejectIf (¬ file.toList.all fun c => c.isAlphanum || c == '.' || c == '_' || c == '-')
    (keyInvalid file "is not one cgroup control-file name")
  let controller := String.ofList (file.toList.takeWhile (· != '.'))
  match file.toList.dropWhile (· != '.') with
  | [] => throw (keyInvalid file "has no controller prefix")
  | _ :: parameter =>
    rejectIf (controller.isEmpty ∨ parameter.isEmpty)
      (keyInvalid file "has an empty controller or parameter")
    rejectIf (controller = "cgroup")
      (keyInvalid file "targets runtime-owned cgroup state")
    return controller

def validateUnifiedValue (file value : String) : Result Unit := do
  rejectIf (value.isEmpty ∨ 65536 < value.utf8ByteSize ∨ '\x00' ∈ value.toList)
    (unifiedInvalid s!"value for {file.quote} must contain 1 to 65536 non-NUL bytes")
  rejectIf (value.toList.all (· ∈ [' ', '\t', '\n', '\x0c', '\r']))
    (unifiedInvalid s!"value for {file.quote} must not be whitespace-only")

/-- One entry, with the bytes of the values so far; they are too few for their sum to overflow. -/
def UnifiedPlan.add (planned : UnifiedPlan × Nat) (entry : String × String) :
    Result (UnifiedPlan × Nat) := do
  let controller ← validateFileName entry.1
  validateUnifiedValue entry.1 entry.2
  let totalValueBytes := planned.2 + entry.2.utf8ByteSize
  rejectIf (1048576 < totalValueBytes) (unifiedInvalid "values exceed 1048576 bytes")
  return (⟨planned.1.settings ++ [entry], planned.1.controllers.insert controller⟩, totalValueBytes)

/-- The entries in the order in which the map yields them. -/
def UnifiedPlan.fromOci : Option (List (String × String)) → Result UnifiedPlan
  | none => .ok {}
  | some unified => do
    rejectIf (256 < unified.length) (unifiedInvalid "contains more than 256 entries")
    let planned ← unified.foldlM UnifiedPlan.add ({}, 0)
    return planned.1

def UnifiedPlan.validateConflicts (plan : UnifiedPlan) (ownedFiles : List String) : Result Unit :=
  match plan.settings.find? (·.1 ∈ ownedFiles) with
  | some (file, _) => throw (keyInvalid file "conflicts with a typed OCI resource")
  | none => pure ()

/-! ## Block I/O, huge pages and RDMA -/

structure BlockDevice where
  major : UInt32
  minor : UInt32

structure BlockIoPlan where
  defaultWeight : Option UInt16 := none
  deviceWeights : List (BlockDevice × UInt16) := []
  /-- The devices with throttles. -/
  max : List BlockDevice := []

/-- The live hierarchy selects the file that holds weights. -/
inductive WeightBackend
  | bfq | generic
  deriving DecidableEq

/-- The names whose condition holds. -/
def named (l : List (Bool × String)) : List String := (l.filter (·.1)).map (·.2)

namespace BlockIoPlan

variable (plan : BlockIoPlan)

def hasWeight : Bool := plan.defaultWeight.isSome || !plan.deviceWeights.isEmpty

def isEmpty : Bool := !plan.hasWeight && plan.max.isEmpty

def ownedFiles : List String := named [
  (plan.hasWeight, "io.bfq.weight"),
  (plan.hasWeight, "io.weight"),
  (!plan.max.isEmpty, "io.max")]

/-- The files of `mutations`. -/
def files (backend : Option WeightBackend) : List String := named [
  (plan.hasWeight && backend = some .bfq, "io.bfq.weight"),
  (plan.hasWeight && backend = some .generic, "io.weight"),
  (!plan.max.isEmpty, "io.max")]

end BlockIoPlan

/-- The limit of each page size. -/
structure HugeTlbPlan where
  limits : List (String × UInt64) := []

def maxFile (pageSize : String) : String := "hugetlb." ++ pageSize ++ ".max"

def reservationFile (pageSize : String) : String := "hugetlb." ++ pageSize ++ ".rsvd.max"

def HugeTlbPlan.ownedFiles (plan : HugeTlbPlan) : List String :=
  plan.limits.flatMap fun (pageSize, _) => [maxFile pageSize, reservationFile pageSize]

/-- The files of `settings`; a reservation file is optional. -/
def HugeTlbPlan.files (plan : HugeTlbPlan) (present : String → Bool) : List String :=
  plan.limits.flatMap fun (pageSize, _) =>
    maxFile pageSize :: [reservationFile pageSize].filter present

/-- The devices with limits. -/
structure RdmaPlan where
  limits : List String := []

def RdmaPlan.ownedFiles (plan : RdmaPlan) : List String :=
  named [(!plan.limits.isEmpty, "rdma.max")]

/-! ## The plan -/

structure CgroupPlan where
  memoryLimit : Option Int64 := none
  memoryReservation : Option Int64 := none
  memorySwap : Option Int64 := none
  cpuShares : Option UInt64 := none
  cpuQuota : Option Int64 := none
  cpuBurst : Option UInt64 := none
  cpuPeriod : Option UInt64 := none
  cpuIdle : Option Int64 := none
  cpusetCpus : Option String := none
  cpusetMems : Option String := none
  pidsLimit : Option Int64 := none
  blockIo : BlockIoPlan := {}
  hugeTlb : HugeTlbPlan := {}
  rdma : RdmaPlan := {}
  unified : UnifiedPlan := {}

namespace CgroupPlan

variable (plan : CgroupPlan)

/-- The files of `typed_settings_with_oom_group`. -/
def typedFiles : List String := named [
  (plan.cpusetMems.isSome, "cpuset.mems"),
  (plan.cpusetCpus.isSome, "cpuset.cpus"),
  (plan.memoryLimit.isSome, "memory.max"),
  (plan.memoryLimit.isSome, "memory.oom.group"),
  (plan.memoryReservation.isSome, "memory.low"),
  (plan.memorySwap.isSome, "memory.swap.max"),
  (plan.cpuQuota.isSome || plan.cpuPeriod.isSome, "cpu.max"),
  (plan.cpuBurst.isSome, "cpu.max.burst"),
  (plan.cpuShares.isSome, "cpu.weight"),
  (plan.cpuIdle.isSome, "cpu.idle"),
  (plan.pidsLimit.isSome, "pids.max")]

def typedOwnedFiles : List String :=
  plan.typedFiles ++ plan.blockIo.ownedFiles ++ plan.hugeTlb.ownedFiles ++ plan.rdma.ownedFiles

def requiredControllers : List String := named [
    (plan.memoryLimit.isSome || plan.memoryReservation.isSome || plan.memorySwap.isSome, "memory"),
    (plan.cpuShares.isSome || plan.cpuQuota.isSome || plan.cpuBurst.isSome ||
      plan.cpuPeriod.isSome || plan.cpuIdle.isSome, "cpu"),
    (plan.cpusetCpus.isSome || plan.cpusetMems.isSome, "cpuset"),
    (plan.pidsLimit.isSome, "pids"),
    (!plan.blockIo.isEmpty, "io"),
    (!plan.hugeTlb.limits.isEmpty, "hugetlb"),
    (!plan.rdma.limits.isEmpty, "rdma")] ++
  if plan.unified.settings.isEmpty then [] else plan.unified.controllers

end CgroupPlan

end OciRuntime
