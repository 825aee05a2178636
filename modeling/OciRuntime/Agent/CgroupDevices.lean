import OciRuntime.Agent.DevicePlan

/-!
# `OciRuntime.Agent.CgroupDevices` — attaching and updating the device filter

A cgroup handle (`agent/src/executor/cgroup.rs`, `cgroup/update.rs`) keeps the device plan of its
container and the program attached for it. A rootless runtime cannot attach programs itself and asks
a privileged helper (`agent/src/executor/device_policy.rs`), whose reply may be lost after it has
acted. Every call that leaves the agent may fail: a `DeviceFaults` says which do.

## Contents
- **The kernel.** `attachProgram`, `detachProgram`, and loading a program.
- **The helper.** `applyRequest`, `exchange`.
- **The handle.** `create`, `activateDeviceFilter`, `update`.

Of an update of resources only the devices are modelled; everything else it does can succeed or fail
before the devices change.
-/

namespace OciRuntime

open Durable

/-! ## State -/

/-- The share of a rootless container in the privileged helper. -/
structure DelegatedDeviceFilter where
  key : String
  active : Bool

structure CgroupHandle where
  devices : DevicePlan
  deviceFilter : Option (List BpfInsn)
  delegatedDeviceFilter : Option DelegatedDeviceFilter

/-- A handle with the programs attached to its cgroup and the one the helper keeps for its key. -/
structure DeviceSystem where
  handle : CgroupHandle
  attached : List (List BpfInsn)
  installed : Option (List BpfInsn)

/-- What becomes of a request to the helper. -/
inductive Exchange
  | undelivered (error : Error)
  | answered
  /-- The helper acts but its reply does not arrive. -/
  | lost (error : Error)

/-- Which calls out of the agent fail, and how. -/
structure DeviceFaults where
  load : Option Error
  attach : Option Error
  openCgroup : Option Error
  exchange : Exchange

def failIf : Option Error → Result Unit
  | some error => .error error
  | none => .ok ()

/-! ## The kernel -/

/-- `BPF_PROG_ATTACH`, in place of `replaced` if there is one. -/
def attachProgram (faults : DeviceFaults) (program : List BpfInsn)
    (replaced : Option (List BpfInsn)) (attached : List (List BpfInsn)) :
    Result (List (List BpfInsn)) := do
  failIf faults.attach
  match replaced with
  | none => return attached ++ [program]
  | some old =>
    rejectIf (old ∉ attached) (deviceError .failedPrecondition
      "failed to attach cgroup device BPF program: No such file or directory (os error 2)")
    return attached.replace old program

/-- `BPF_PROG_DETACH`. -/
def detachProgram (faults : DeviceFaults) (program : List BpfInsn)
    (attached : List (List BpfInsn)) : Result (List (List BpfInsn)) := do
  failIf faults.attach
  rejectIf (program ∉ attached) (deviceError .failedPrecondition
    "failed to detach cgroup device BPF program: No such file or directory (os error 2)")
  return attached.erase program

def DeviceAccessBoundary.load (faults : DeviceFaults) (boundary : DeviceAccessBoundary) :
    Result (List BpfInsn) := do
  boundary.validate
  let program ← boundary.buildProgram
  failIf faults.load
  return program

namespace DevicePlan

def loadCgroupDeviceProgram (faults : DeviceFaults) (plan : DevicePlan) :
    Result (Option (List BpfInsn)) := do
  match ← plan.accessBoundary with
  | some boundary =>
    let program ← boundary.load faults
    return some program
  | none => return none

/-- The six default devices, unchanged. -/
def hasRootlessSafeNodes (plan : DevicePlan) : Bool :=
  plan.nodes.length == defaultDeviceNodes.length &&
    (plan.nodes.zip defaultDeviceNodes).all fun (node, device) =>
      pathComponents node.path == pathComponents device.path &&
        { node with path := device.path } == device

/-- Remove one expected device for every grant. -/
def matchGrants : List DeviceAccessRule → List (DeviceAccessKind × BitVec 32 × BitVec 32) → Bool
  | [], remaining => remaining.isEmpty
  | grant :: rest, remaining =>
    if !grant.allow || grant.kind == .all || grant.access == 0 ||
        (grant.access &&& ~~~allAccess) != 0 then false
    else match grant.major, grant.minor with
      | some major, some minor =>
        remaining.contains (grant.kind, major, minor) &&
          matchGrants rest (remaining.erase (grant.kind, major, minor))
      | _, _ => false

def isExactRootlessAllowlist (policy : DeviceAccessPolicy)
    (devices : List (DeviceAccessKind × BitVec 32 × BitVec 32)) : Bool :=
  match policy.rules with
  | [] => false
  | reset :: grants =>
    if reset.allow || reset.kind != .all || reset.major.isSome || reset.minor.isSome ||
        reset.access != allAccess || grants.length != devices.length then false
    else matchGrants grants devices

def hasRootlessSafeAccessPolicy (plan : DevicePlan) : Bool :=
  plan.accessPolicy.any fun policy => isExactRootlessAllowlist policy
    (ociLinuxDefaultDeviceNodes.map fun device => (.character, device.major, device.minor))

def validateSerializedPolicy (plan : DevicePlan) : Result Unit :=
  rejectIf (!plan.hasRootlessSafeNodes || plan.terminal ||
      (plan.accessPolicy.isSome && !plan.hasRootlessSafeAccessPolicy))
    (deviceError .permissionDenied
      "serialized rootless device policy is outside the bounded safe-device profile")

/-- How the helper loads a program. -/
def loadDeviceProgram (faults : DeviceFaults) (plan : DevicePlan) : Result (List BpfInsn) := do
  plan.validateSerializedPolicy
  match ← plan.accessBoundary with
  | some boundary => boundary.load faults
  | none => .error (deviceError .permissionDenied
      "serialized rootless device policy has no OCI device boundary")

end DevicePlan

/-! ## The helper -/

def policyError (code : ErrorCode) (message : String) : Error :=
  (Error.new code message).forOperation "rootless-device-policy"

inductive DevicePolicyRequest
  | install (key : String) (plan : DevicePlan)
  | replace (key : String) (plan : DevicePlan)
  | remove (key : String)

def maxDevicePolicyKeyBytes : Nat := 512

def validateKey (key : String) : Result Unit :=
  rejectIf (key.isEmpty || decide (key.utf8ByteSize > maxDevicePolicyKeyBytes) ||
      key.toList.any fun char => char.toNat < 32 || char.toNat == 127)
    (policyError .invalidArgument
      s!"rootless device-policy key must contain 1..={maxDevicePolicyKeyBytes} non-control bytes")

def notInstalled (key : String) : Error :=
  policyError .notFound s!"rootless device-policy key {key.quote} is not installed"

/-- What the helper does with the policy of this container. -/
def applyRequest (faults : DeviceFaults) (system : DeviceSystem) :
    DevicePolicyRequest → Result DeviceSystem
  | .install key plan => do
    validateKey key
    rejectIf system.installed.isSome (policyError .alreadyExists
      s!"rootless device-policy key {key.quote} is already installed")
    rejectIf (!plan.requiresSetup) (policyError .invalidArgument
      "rootless device-policy install requires an active allowlist")
    failIf faults.openCgroup
    let program ← plan.loadDeviceProgram faults
    let attached ← attachProgram faults program none system.attached
    return { system with attached, installed := some program }
  | .replace key plan => do
    validateKey key
    let installed ← okOr system.installed (notInstalled key)
    if !plan.requiresSetup then
      let attached ← detachProgram faults installed system.attached
      return { system with attached, installed := none }
    let replacement ← plan.loadDeviceProgram faults
    let attached ← attachProgram faults replacement (some installed) system.attached
    return { system with attached, installed := some replacement }
  | .remove key => do
    validateKey key
    let installed ← okOr system.installed (notInstalled key)
    let attached ← detachProgram faults installed system.attached
    return { system with attached, installed := none }

/-- A request to the helper and what the agent hears of it. -/
def exchange (faults : DeviceFaults) (system : DeviceSystem) (request : DevicePolicyRequest) :
    Result Unit × DeviceSystem :=
  match faults.exchange, applyRequest faults system request with
  | .undelivered error, _ => (.error error, system)
  | .answered, .ok after => (.ok (), after)
  | .answered, .error error => (.error error, system)
  | .lost error, .ok after => (.error error, after)
  | .lost error, .error _ => (.error error, system)

/-! ## The handle -/

/-- A new handle has attached nothing yet. A rootless one has the key of its share in the helper. -/
def DeviceSystem.create (plan : DevicePlan) (key : Option String) : DeviceSystem where
  handle :=
    { devices := plan, deviceFilter := none,
      delegatedDeviceFilter := key.map fun key => { key, active := false } }
  attached := []
  installed := none

namespace DeviceSystem

def withDelegated (system : DeviceSystem) (devices : DevicePlan)
    (delegated : DelegatedDeviceFilter) : DeviceSystem :=
  { system with handle :=
    { system.handle with devices, delegatedDeviceFilter := some delegated } }

def withFilter (system : DeviceSystem) (devices : DevicePlan)
    (deviceFilter : Option (List BpfInsn)) (attached : List (List BpfInsn)) : DeviceSystem :=
  { system with handle := { system.handle with devices, deviceFilter }, attached }

def activateDeviceFilter (faults : DeviceFaults) (system : DeviceSystem) :
    Result Unit × DeviceSystem :=
  let devices := system.handle.devices
  if !devices.hasDeviceFilter then (.ok (), system)
  else match system.handle.delegatedDeviceFilter, system.handle.deviceFilter with
    | some filter, _ =>
      if filter.active then (.ok (), system)
      else match exchange faults system (.install filter.key devices) with
        | (.ok (), after) => (.ok (), after.withDelegated devices { filter with active := true })
        | (.error error, after) => (.error error, after)
    | none, some _ => (.ok (), system)
    | none, none =>
      match devices.loadCgroupDeviceProgram faults with
      | .error error => (.error error, system)
      | .ok none => (.ok (), system)
      | .ok (some loaded) =>
        match attachProgram faults loaded none system.attached with
        | .error error => (.error error, system)
        | .ok attached => (.ok (), system.withFilter devices (some loaded) attached)

end DeviceSystem

/-- What else an update of resources does, as far as it can fail. -/
structure UpdateFaults extends DeviceFaults where
  /-- Reading the resources, before the device rules. -/
  resources : Option Error
  /-- Everything up to the settings having been applied. -/
  settings : Option Error
  blockIo : Option Error
  rdma : Option Error
  /-- What the rollback could not restore. -/
  rollback : List String

/-- The error that is reported after rolling back for `original`. -/
def rollbackUpdate (failures : List String) (original : Error) : Error :=
  if failures.isEmpty then original
  else (Error.new .internal
    (s!"{original.message}; cgroup rollback also failed: " ++ "; ".intercalate failures)
    ).forOperation "update-container-cgroup"

namespace DeviceSystem

/-- The program of the new plan, which the helper loads for a rootless container. -/
def loadNextFilter (faults : DeviceFaults) (system : DeviceSystem) :
    Option DevicePlan → Result (Option (List BpfInsn))
  | some plan =>
    if system.handle.delegatedDeviceFilter.isNone then plan.loadCgroupDeviceProgram faults
    else .ok none
  | none => .ok none

/-- The part of an update before the devices change: the plan and the program they change to. -/
def prepareUpdate (faults : UpdateFaults) (resources : Option (List LinuxDeviceCgroup))
    (system : DeviceSystem) : Result (Option DevicePlan × Option (List BpfInsn)) := do
  failIf faults.resources
  let nextDevices ← system.handle.devices.updateFromResources resources
  let nextDeviceFilter ← system.loadNextFilter faults.toDeviceFaults nextDevices
  failIf faults.settings
  failIf (faults.blockIo.map (rollbackUpdate faults.rollback))
  failIf (faults.rdma.map (rollbackUpdate faults.rollback))
  return (nextDevices, nextDeviceFilter)

/-- What a rootless container asks of the helper. -/
def requestDelegated (faults : DeviceFaults) (system : DeviceSystem) (nextDevices : DevicePlan)
    (filter : DelegatedDeviceFilter) : Result Unit × DeviceSystem :=
  match filter.active, nextDevices.hasDeviceFilter with
  | false, false => (.ok (), system)
  | false, true => exchange faults system (.install filter.key nextDevices)
  | true, true => exchange faults system (.replace filter.key nextDevices)
  | true, false => exchange faults system (.remove filter.key)

/-- The devices of a rootless container change. -/
def updateDelegated (faults : UpdateFaults) (system : DeviceSystem) (nextDevices : DevicePlan)
    (filter : DelegatedDeviceFilter) : Result Unit × DeviceSystem :=
  match system.requestDelegated faults.toDeviceFaults nextDevices filter with
  | (.error error, after) => (.error (rollbackUpdate faults.rollback error), after)
  | (.ok (), after) => (.ok (), after.withDelegated nextDevices
      { filter with active := nextDevices.hasDeviceFilter })

/-- The program attached for the devices changes. -/
def exchangeFilter (faults : DeviceFaults) (system : DeviceSystem)
    (nextDeviceFilter : Option (List BpfInsn)) : Result (List (List BpfInsn)) :=
  match system.handle.deviceFilter, nextDeviceFilter with
  | some current, some next => attachProgram faults next (some current) system.attached
  | none, some next => attachProgram faults next none system.attached
  | some current, none => detachProgram faults current system.attached
  | none, none => .ok system.attached

/-- The devices change. -/
def updateFilter (faults : UpdateFaults) (system : DeviceSystem) (nextDevices : DevicePlan)
    (nextDeviceFilter : Option (List BpfInsn)) : Result Unit × DeviceSystem :=
  match system.exchangeFilter faults.toDeviceFaults nextDeviceFilter with
  | .error error => (.error (rollbackUpdate faults.rollback error), system)
  | .ok attached => (.ok (), system.withFilter nextDevices nextDeviceFilter attached)

/-- `resources` are the device rules of the updated resources, if it has any. -/
def update (faults : UpdateFaults) (resources : Option (List LinuxDeviceCgroup))
    (system : DeviceSystem) : Result Unit × DeviceSystem :=
  match system.prepareUpdate faults resources with
  | .error error => (.error error, system)
  | .ok (none, _) => (.ok (), system)
  | .ok (some nextDevices, nextDeviceFilter) =>
    match system.handle.delegatedDeviceFilter with
    | some filter => system.updateDelegated faults nextDevices filter
    | none => system.updateFilter faults nextDevices nextDeviceFilter

end DeviceSystem

end OciRuntime
