import OciRuntime.Agent.DeviceAccess

/-!
# `OciRuntime.Agent.DevicePlan` — the devices of a container

The plan of a container's devices (`agent/src/executor/device/plan.rs`, `node.rs`) is made once, from
`linux.devices` and the default devices; a later update of its resources replaces the rules and keeps
the nodes.

## Contents
- **Nodes.** `DeviceNode.fromOci`, `defaultDeviceNodes`.
- **Plans.** `DevicePlan.fromLinux`, `DevicePlan.updateFromResources`.
- **Boundaries.** `DevicePlan.accessBoundary` and the programs of a plan.

Paths are valid UTF-8; two paths are the same if they have the same components.
-/

namespace OciRuntime

open Durable

/-! ## Nodes -/

inductive DeviceKind
  | block | character | fifo
  deriving DecidableEq

/-- An entry of `linux.devices`. -/
structure LinuxDevice where
  path : String
  typ : LinuxDeviceType
  major : Int
  minor : Int
  fileMode : Option Nat
  uid : Option Nat
  gid : Option Nat

structure DeviceNode where
  path : String
  kind : DeviceKind
  major : BitVec 32
  minor : BitVec 32
  mode : Nat
  uid : Nat
  gid : Nat
  deriving DecidableEq

/-- The components of an absolute path. -/
def pathComponents (path : String) : List (List Char) :=
  (path.toList.dropWhile (· == '/')).splitOn '/'

def normalizeDevicePath (index : Nat) (path : String) : Result String := do
  rejectIf (path.isEmpty ∨ path.utf8ByteSize > 4096 ∨ path.toList.head? ≠ some '/' ∨
      path.toList.getLast? = some '/' ∨ '\x00' ∈ path.toList ∨ '\\' ∈ path.toList ∨
      ∃ component ∈ pathComponents path, component = [] ∨ component = ['.'] ∨
        component = ['.', '.'])
    (invalidDevice s!"linux.devices[{index}].path must be a normalized absolute Linux path")
  return path

namespace DeviceKind

def fromOci (index : Nat) : LinuxDeviceType → Result DeviceKind
  | .b => .ok .block
  | .c => .ok .character
  | .u => .ok .character
  | .p => .ok .fifo
  | .a => .error (invalidDevice
      s!"linux.devices[{index}].type cannot create the wildcard device type")

def accessKind : DeviceKind → Option DeviceAccessKind
  | .block => some .block
  | .character => some .character
  | .fifo => none

def label : DeviceKind → String
  | .block => "block"
  | .character => "character"
  | .fifo => "fifo"

end DeviceKind

namespace DeviceNode

def parseNumber (field : String) (value : Int) : Result (BitVec 32) :=
  if 0 ≤ value ∧ value < 2 ^ 32 then .ok (BitVec.ofInt 32 value)
  else .error (invalidDevice s!"{field} must be a non-negative u32")

def fromOci (index : Nat) (device : LinuxDevice) : Result DeviceNode := do
  let path ← normalizeDevicePath index device.path
  let kind ← DeviceKind.fromOci index device.typ
  let (major, minor) ← if kind = .fifo then .ok (0, 0) else do
    let major ← parseNumber s!"linux.devices[{index}].major" device.major
    let minor ← parseNumber s!"linux.devices[{index}].minor" device.minor
    .ok (major, minor)
  let mode := device.fileMode.getD 0o666
  rejectIf (mode > 0o7777) (invalidDevice
    s!"linux.devices[{index}].fileMode exceeds POSIX permission and special bits")
  return {
    path, kind, major, minor, mode
    uid := device.uid.getD 0
    gid := device.gid.getD 0 }

def kernelIdentity (node : DeviceNode) : Option (DeviceKind × BitVec 32 × BitVec 32) :=
  match node.kind with
  | .fifo => none
  | kind => some (kind, node.major, node.minor)

/-- The node as the device filter knows it. -/
def accessNode (node : DeviceNode) : Option (DeviceAccessKind × BitVec 32 × BitVec 32) :=
  node.kind.accessKind.map fun kind => (kind, node.major, node.minor)

end DeviceNode

def defaultDeviceNodes : List DeviceNode :=
  ociLinuxDefaultDeviceNodes.map fun device =>
    { path := device.path, kind := .character, major := device.major, minor := device.minor,
      mode := device.mode, uid := 0, gid := 0 }

/-! ## Plans -/

structure DevicePlan where
  nodes : List DeviceNode
  accessPolicy : Option DeviceAccessPolicy
  terminal : Bool
  createNodes : Bool
  deriving DecidableEq

/-- What a device plan reads of a mount. -/
structure MountPlan where
  index : Nat
  bind : Bool
  flags : BitVec 64

def msNodev : BitVec 64 := 4

def maxDevices : Nat := 256

namespace DevicePlan

def parseNodes (index : Nat) : List LinuxDevice → Result (List DeviceNode)
  | [] => .ok []
  | device :: rest => do
    let node ← DeviceNode.fromOci index device
    let others ← parseNodes (index + 1) rest
    return node :: others

/-- No two entries share their path or their kernel identity. -/
def checkUnique (paths : List (List (List Char)))
    (identities : List (DeviceKind × BitVec 32 × BitVec 32)) : List DeviceNode → Result Unit
  | [] => .ok ()
  | node :: rest => do
    rejectIf (pathComponents node.path ∈ paths)
      (invalidDevice s!"linux.devices contains duplicate path {node.path}")
    match node.kernelIdentity with
    | none => checkUnique (pathComponents node.path :: paths) identities rest
    | some identity =>
      rejectIf (identity ∈ identities) (invalidDevice
        ("linux.devices contains duplicate kernel device identity " ++
          s!"{node.kind.label} {node.major.toNat}:{node.minor.toNat}"))
      checkUnique (pathComponents node.path :: paths) (identity :: identities) rest

/-- Put `explicit` in the place of the default node of its path, or at the end. -/
def placeNode (explicit : DeviceNode) : List DeviceNode → Result (List DeviceNode)
  | [] => .ok [explicit]
  | default :: rest =>
    if pathComponents default.path = pathComponents explicit.path then
      if default.kernelIdentity ≠ explicit.kernelIdentity then
        .error (invalidDevice
          (s!"linux.devices path {explicit.path} conflicts with normative default device " ++
            s!"{default.kind.label} {default.major.toNat}:{default.minor.toNat}"))
      else .ok (explicit :: rest)
    else do
      let placed ← placeNode explicit rest
      return default :: placed

def placeNodes (nodes : List DeviceNode) : List DeviceNode → Result (List DeviceNode)
  | [] => .ok nodes
  | explicit :: rest => do
    let nodes ← placeNode explicit nodes
    placeNodes nodes rest

def validateBindMountsAreNodev (mounts : List MountPlan) : Result Unit :=
  match mounts.find? (fun mount => mount.bind && (mount.flags &&& msNodev) == 0) with
  | some mount => .error (unsupportedDevice s!"mounts[{mount.index}].options"
      "bind mounts must use nodev when an OCI device allowlist is active")
  | none => .ok ()

def fromLinux (devices : List LinuxDevice) (rules : List LinuxDeviceCgroup)
    (mounts : List MountPlan) (terminal mountNamespaceIsolated : Bool) : Result DevicePlan := do
  rejectIf (devices.length > maxDevices) (invalidDevice
    s!"linux.devices contains {devices.length} entries; maximum is {maxDevices}")
  let explicitNodes ← parseNodes 0 devices
  checkUnique [] [] explicitNodes
  let nodes ← placeNodes defaultDeviceNodes explicitNodes
  let accessPolicy ← DeviceAccessPolicy.fromOci rules
  if accessPolicy.isSome then validateBindMountsAreNodev mounts
  return { nodes, accessPolicy, terminal, createNodes := mountNamespaceIsolated }

/-- `devices` are those of the updated resources, if it has any. -/
def updateFromResources (plan : DevicePlan) (devices : Option (List LinuxDeviceCgroup)) :
    Result (Option DevicePlan) :=
  match devices with
  | none => .ok none
  | some rules => do
    let accessPolicy ← DeviceAccessPolicy.fromOci rules
    return some { plan with accessPolicy }

/-! ## Boundaries -/

def hasDeviceFilter (plan : DevicePlan) : Bool :=
  plan.nodes.any fun node => node.kind.accessKind.isSome

def hasNodeSetup (plan : DevicePlan) : Bool := plan.createNodes && !plan.nodes.isEmpty

def requiresSetup (plan : DevicePlan) : Bool :=
  plan.hasNodeSetup || plan.hasDeviceFilter || plan.terminal

def accessBoundary (plan : DevicePlan) : Result (Option DeviceAccessBoundary) :=
  if !plan.hasDeviceFilter then .ok none
  else do
    let boundary ← DeviceAccessBoundary.forOciNodes (plan.nodes.filterMap (·.accessNode))
      plan.accessPolicy
    return some boundary

end DevicePlan

end OciRuntime
