import OciRuntime.Sdk.Basic
import OciRuntime.Lib.Checks
import OciRuntime.Lib.Ebpf

/-!
# `OciRuntime.Agent.DeviceAccess` — the device filter of a container

The guest agent bounds the devices of a container by an eBPF program attached to its cgroup
(`agent/src/executor/device/access.rs`). The program first collects the access an immutable
inventory allows, then what the ordered rules of `linux.resources.devices` grant, and admits a
request if both allow every access it asks for.

## Contents
- **Data.** `DeviceAccessBoundary`, `DeviceAccessPolicy` and what they consist of.
- **Reading rules.** `DeviceAccessPolicy.fromOci`.
- **Instructions.** `ldxMem` to `patchJump`.
- **The program.** `DeviceAccessBoundary.buildProgram`.

Numbers of devices are `u32`, as they are in the source; a `BTreeSet` is its sorted list.
-/

namespace OciRuntime

open Durable

/-! ## Data -/

inductive DeviceAccessKind
  | all | block | character
  deriving DecidableEq

structure DeviceAccessIdentity where
  kind : DeviceAccessKind
  major : BitVec 32
  minor : Option (BitVec 32)
  deriving DecidableEq

structure DeviceAccessRule where
  allow : Bool
  kind : DeviceAccessKind
  major : Option (BitVec 32)
  minor : Option (BitVec 32)
  access : BitVec 8
  deriving DecidableEq

structure DeviceAccessPolicy where
  rules : List DeviceAccessRule
  deriving DecidableEq

structure DeviceAccessBoundary where
  identities : List DeviceAccessIdentity
  policy : Option DeviceAccessPolicy
  deriving DecidableEq

/-- One of the character devices every Linux container has. -/
structure OciLinuxDefaultDeviceNode where
  path : String
  major : BitVec 32
  minor : BitVec 32
  mode : Nat

def ociLinuxDefaultDeviceNodes : List OciLinuxDefaultDeviceNode :=
  [⟨"/dev/null", 1, 3, 0o666⟩, ⟨"/dev/zero", 1, 5, 0o666⟩, ⟨"/dev/full", 1, 7, 0o666⟩,
    ⟨"/dev/random", 1, 8, 0o666⟩, ⟨"/dev/urandom", 1, 9, 0o666⟩, ⟨"/dev/tty", 5, 0, 0o666⟩]

inductive LinuxDeviceType
  | b | c | u | p | a
  deriving DecidableEq

/-- An entry of `linux.resources.devices`. -/
structure LinuxDeviceCgroup where
  allow : Bool
  typ : Option LinuxDeviceType
  major : Option Int
  minor : Option Int
  access : Option String

def bpfDevcgAccMknod : BitVec 32 := 1
def bpfDevcgAccRead : BitVec 32 := 2
def bpfDevcgAccWrite : BitVec 32 := 4
def bpfDevcgDevBlock : BitVec 32 := 1
def bpfDevcgDevChar : BitVec 32 := 2

def maxDeviceAccessRules : Nat := 512
def maxDeviceAccessIdentities : Nat := 256 + 6 + 2
def allAccess : BitVec 8 := (bpfDevcgAccRead ||| bpfDevcgAccWrite ||| bpfDevcgAccMknod).setWidth 8
def ociPtmxMajor : BitVec 32 := 5
def ociPtmxMinor : BitVec 32 := 2
def unix98PtySlaveMajor : BitVec 32 := 136

def deviceError (code : ErrorCode) (message : String) : Error :=
  (Error.new code message).forOperation "configure-container-devices"

def invalidDevice (message : String) : Error := deviceError .invalidArgument message

def unsupportedDevice (field reason : String) : Error :=
  deviceError .unsupported s!"{field}: {reason}"

/-! ## Reading rules -/

def parseDeviceNumber (field : String) : Option Int → Result (Option (BitVec 32))
  | none => .ok none
  | some value =>
    if 0 ≤ value ∧ value < 2 ^ 32 then .ok (some (BitVec.ofInt 32 value))
    else .error (invalidDevice s!"{field} must be a non-negative u32 when present")

def parseAccessChars (field : String) (mask : BitVec 8) : List Char → Result (BitVec 8)
  | [] => .ok mask
  | 'r' :: rest => parseAccessChars field (mask ||| bpfDevcgAccRead.setWidth 8) rest
  | 'w' :: rest => parseAccessChars field (mask ||| bpfDevcgAccWrite.setWidth 8) rest
  | 'm' :: rest => parseAccessChars field (mask ||| bpfDevcgAccMknod.setWidth 8) rest
  | _ => .error (invalidDevice s!"{field} must contain only `r`, `w`, and `m`")

def parseDeviceAccessMask (field : String) : Option String → Result (BitVec 8)
  | none => .ok 0
  | some value => parseAccessChars field 0 value.toList

def DeviceAccessRule.parseKind (field : String) : Option LinuxDeviceType → Result DeviceAccessKind
  | none => .ok .all
  | some .a => .ok .all
  | some .b => .ok .block
  | some .c => .ok .character
  | some .u => .error (unsupportedDevice s!"{field}.type"
      "device cgroup rules use `c` for character devices")
  | some .p => .error (unsupportedDevice s!"{field}.type"
      "FIFO nodes are not governed by the Linux devices controller")

def DeviceAccessRule.fromOci (index : Nat) (rule : LinuxDeviceCgroup) : Result DeviceAccessRule := do
  let field := s!"linux.resources.devices[{index}]"
  let kind ← DeviceAccessRule.parseKind field rule.typ
  let major ← parseDeviceNumber s!"{field}.major" rule.major
  let minor ← parseDeviceNumber s!"{field}.minor" rule.minor
  let access ← parseDeviceAccessMask s!"{field}.access" rule.access
  return {
    allow := rule.allow
    kind
    -- a rule for all devices ignores the numbers it names
    major := if kind ≠ .all then major else none
    minor := if kind ≠ .all then minor else none
    access }

/-- The rules from position `index` on. -/
def DeviceAccessPolicy.parseRules (index : Nat) :
    List LinuxDeviceCgroup → Result (List DeviceAccessRule)
  | [] => .ok []
  | rule :: rest => do
    let parsed ← DeviceAccessRule.fromOci index rule
    let others ← parseRules (index + 1) rest
    return parsed :: others

def DeviceAccessPolicy.validate (policy : DeviceAccessPolicy) : Result Unit := do
  rejectIf (policy.rules.isEmpty ∨ policy.rules.length > maxDeviceAccessRules)
    (deviceError .permissionDenied "serialized device policy has an invalid rule count")
  rejectIf (policy.rules.any fun rule => rule.access == 0 || (rule.access &&& ~~~allAccess) != 0 ||
      (rule.kind == .all && (rule.major.isSome || rule.minor.isSome)))
    (deviceError .permissionDenied "serialized device policy contains an invalid access rule")

def DeviceAccessPolicy.fromOci (rules : List LinuxDeviceCgroup) :
    Result (Option DeviceAccessPolicy) :=
  if rules.isEmpty then .ok none
  else do
    rejectIf (rules.length > maxDeviceAccessRules) (invalidDevice
      (s!"linux.resources.devices contains {rules.length} entries; maximum is " ++
        s!"{maxDeviceAccessRules}"))
    let parsed ← DeviceAccessPolicy.parseRules 0 rules
    let rules := parsed.filter (·.access != 0)
    if rules.isEmpty then return none
    let policy : DeviceAccessPolicy := { rules }
    policy.validate
    return some policy

/-! ## Boundaries -/

def DeviceAccessKind.rank : DeviceAccessKind → Nat
  | .all => 0
  | .block => 1
  | .character => 2

/-- The derived order of identities. -/
def DeviceAccessIdentity.before (a b : DeviceAccessIdentity) : Bool :=
  a.kind.rank < b.kind.rank || a.kind.rank == b.kind.rank &&
    (a.major < b.major || a.major == b.major &&
      a.minor.elim 0 (·.toNat + 1) < b.minor.elim 0 (·.toNat + 1))

/-- Insertion into a `BTreeSet`. -/
def insertIdentity (identity : DeviceAccessIdentity) :
    List DeviceAccessIdentity → List DeviceAccessIdentity
  | [] => [identity]
  | other :: rest =>
    if identity = other then other :: rest
    else if identity.before other then identity :: other :: rest
    else other :: insertIdentity identity rest

def DeviceAccessBoundary.validate (boundary : DeviceAccessBoundary) : Result Unit := do
  rejectIf (boundary.identities.isEmpty ∨ boundary.identities.length > maxDeviceAccessIdentities)
    (deviceError .permissionDenied "OCI device inventory has an invalid identity count")
  rejectIf (boundary.identities.any (·.kind == .all))
    (deviceError .permissionDenied "OCI device inventory contains a wildcard device type")
  match boundary.policy with
  | some policy => policy.validate
  | none => return

def ptmxIdentity : DeviceAccessIdentity := ⟨.character, ociPtmxMajor, some ociPtmxMinor⟩

def ptySlaveIdentity : DeviceAccessIdentity := ⟨.character, unix98PtySlaveMajor, none⟩

def DeviceAccessBoundary.forOciNodes (nodes : List (DeviceAccessKind × BitVec 32 × BitVec 32))
    (policy : Option DeviceAccessPolicy) : Result DeviceAccessBoundary := do
  let identities := nodes.foldl (fun identities (kind, major, minor) =>
    insertIdentity { kind, major, minor := some minor } identities) []
  let identities := insertIdentity ptmxIdentity identities
  let identities := insertIdentity ptySlaveIdentity identities
  let boundary : DeviceAccessBoundary := { identities, policy }
  boundary.validate
  return boundary

/-! ## Instructions -/

abbrev BpfInsn := Ebpf.Insn

def bpfLdx : BitVec 32 := 0x01
def bpfAlu : BitVec 32 := 0x04
def bpfJmp : BitVec 32 := 0x05
def bpfAlu64 : BitVec 32 := 0x07
def bpfW : BitVec 32 := 0x00
def bpfMem : BitVec 32 := 0x60
def bpfK : BitVec 32 := 0x00
def bpfX : BitVec 32 := 0x08
def bpfMov : BitVec 32 := 0xb0
def bpfAnd : BitVec 32 := 0x50
def bpfOr : BitVec 32 := 0x40
def bpfRsh : BitVec 32 := 0x70
def bpfJne : BitVec 32 := 0x50
def bpfExit : BitVec 32 := 0x90
def bpfReg0 : BitVec 8 := 0
def bpfReg1 : BitVec 8 := 1
def bpfReg2 : BitVec 8 := 2
def bpfReg3 : BitVec 8 := 3
def bpfReg4 : BitVec 8 := 4
def bpfReg5 : BitVec 8 := 5
def bpfReg6 : BitVec 8 := 6

def packRegs (dst src : BitVec 8) : BitVec 8 := (dst &&& 0x0f) ||| ((src &&& 0x0f) <<< 4)

def ldxMem (size : BitVec 32) (dst src : BitVec 8) (off : BitVec 16) : BpfInsn where
  code := (bpfLdx ||| size ||| bpfMem).setWidth 8
  regs := packRegs dst src
  off := off
  imm := 0

def alu32Imm (op : BitVec 32) (dst : BitVec 8) (imm : BitVec 32) : BpfInsn where
  code := (bpfAlu ||| op ||| bpfK).setWidth 8
  regs := packRegs dst 0
  off := 0
  imm := imm

def alu32Reg (op : BitVec 32) (dst src : BitVec 8) : BpfInsn where
  code := (bpfAlu ||| op ||| bpfX).setWidth 8
  regs := packRegs dst src
  off := 0
  imm := 0

def mov64Reg (dst src : BitVec 8) : BpfInsn where
  code := (bpfAlu64 ||| bpfMov ||| bpfX).setWidth 8
  regs := packRegs dst src
  off := 0
  imm := 0

def mov64Imm (dst : BitVec 8) (imm : BitVec 32) : BpfInsn where
  code := (bpfAlu64 ||| bpfMov ||| bpfK).setWidth 8
  regs := packRegs dst 0
  off := 0
  imm := imm

/-- The longer program, and where the jump stands in it. -/
def pushJneImm (program : List BpfInsn) (dst : BitVec 8) (imm : BitVec 32) : List BpfInsn × Nat :=
  (program ++ [{
    code := (bpfJmp ||| bpfJne ||| bpfK).setWidth 8
    regs := packRegs dst 0
    off := 0
    imm := imm }], program.length)

def pushJneReg (program : List BpfInsn) (dst src : BitVec 8) : List BpfInsn × Nat :=
  (program ++ [{
    code := (bpfJmp ||| bpfJne ||| bpfX).setWidth 8
    regs := packRegs dst src
    off := 0
    imm := 0 }], program.length)

def exitInsn : BpfInsn where
  code := (bpfJmp ||| bpfExit).setWidth 8
  regs := 0
  off := 0
  imm := 0

def patchJump (program : List BpfInsn) (jumpIndex target : Nat) : Result (List BpfInsn) :=
  match program[jumpIndex]? with
  | none => .error (deviceError .internal "cgroup device BPF program lost a patch target")
  | some jump =>
    let offset : Int := target - jumpIndex - 1
    if -2 ^ 15 ≤ offset ∧ offset < 2 ^ 15 then
      .ok (program.set jumpIndex { jump with off := BitVec.ofInt 16 offset })
    else .error (deviceError .resourceExhausted
      ("cgroup device BPF program exceeds jump limits: " ++
        "out of range integral type conversion attempted"))

def patchJumps (program : List BpfInsn) (target : Nat) : List Nat → Result (List BpfInsn)
  | [] => .ok program
  | jumpIndex :: rest => do
    let program ← patchJump program jumpIndex target
    patchJumps program target rest

/-! ## The program -/

def deviceProgramPrelude (initialAccess : BitVec 8) : List BpfInsn :=
  [mov64Imm bpfReg0 (initialAccess.setWidth 32),
    ldxMem bpfW bpfReg2 bpfReg1 0,
    alu32Imm bpfAnd bpfReg2 0xFFFF,
    ldxMem bpfW bpfReg3 bpfReg1 0,
    alu32Imm bpfRsh bpfReg3 16,
    ldxMem bpfW bpfReg4 bpfReg1 4,
    ldxMem bpfW bpfReg5 bpfReg1 8]

/-- The jump a check adds to those to be patched, if there is a number to compare with. -/
def pushMismatch (program : List BpfInsn) (jumps : List Nat) (dst : BitVec 8) :
    Option (BitVec 32) → List BpfInsn × List Nat
  | none => (program, jumps)
  | some expected =>
    let (program, jump) := pushJneImm program dst expected
    (program, jumps ++ [jump])

/-- The number the kernel gives a kind of device. -/
def DeviceAccessKind.expected : DeviceAccessKind → Option (BitVec 32)
  | .all => none
  | .block => some bpfDevcgDevBlock
  | .character => some bpfDevcgDevChar

def DeviceAccessRule.insn (rule : DeviceAccessRule) : BpfInsn :=
  if rule.kind = .all then
    mov64Imm bpfReg0 (if rule.allow then allAccess.setWidth 32 else 0)
  else if rule.allow then alu32Imm bpfOr bpfReg0 (rule.access.setWidth 32)
  else alu32Imm bpfAnd bpfReg0 ((allAccess &&& ~~~rule.access).setWidth 32)

def appendOrderedRules (program : List BpfInsn) : List DeviceAccessRule → Result (List BpfInsn)
  | [] => .ok program
  | rule :: rest => do
    let (program, jumps) := pushMismatch program [] bpfReg2 rule.kind.expected
    let (program, jumps) := pushMismatch program jumps bpfReg4 rule.major
    let (program, jumps) := pushMismatch program jumps bpfReg5 rule.minor
    let program := program ++ [rule.insn]
    let program ← patchJumps program program.length jumps
    appendOrderedRules program rest

def appendInventoryIdentity (program : List BpfInsn) (identity : DeviceAccessIdentity) :
    Result (List BpfInsn) :=
  match identity.kind.expected with
  | none => .error (deviceError .permissionDenied
      "OCI device inventory contains a wildcard device type")
  | some expectedKind => do
    let (program, kindJump) := pushJneImm program bpfReg2 expectedKind
    let (program, majorJump) := pushJneImm program bpfReg4 identity.major
    let (program, jumps) :=
      pushMismatch program [kindJump, majorJump] bpfReg5 identity.minor
    let program := program ++ [alu32Imm bpfOr bpfReg0 (allAccess.setWidth 32)]
    patchJumps program program.length jumps

def appendInventory (program : List BpfInsn) : List DeviceAccessIdentity → Result (List BpfInsn)
  | [] => .ok program
  | identity :: rest => do
    let program ← appendInventoryIdentity program identity
    appendInventory program rest

/-- The devices whose access rules cannot take away. -/
def normativeDefaults : List DeviceAccessIdentity :=
  ociLinuxDefaultDeviceNodes.map (fun device => ⟨.character, device.major, some device.minor⟩) ++
    [ptmxIdentity, ptySlaveIdentity]

def appendNormativeDefaultAccess (program : List BpfInsn) : Result (List BpfInsn) :=
  appendInventory program normativeDefaults

def appendPolicy (program : List BpfInsn) : Option DeviceAccessPolicy → Result (List BpfInsn)
  | none => .ok program
  | some policy => do
    let program ← appendOrderedRules program policy.rules
    appendNormativeDefaultAccess program

def finishDeviceProgram (program : List BpfInsn) : Result (List BpfInsn) :=
  let program := program ++ [mov64Reg bpfReg1 bpfReg3, alu32Reg bpfAnd bpfReg1 bpfReg0]
  let (program, rejectJump) := pushJneReg program bpfReg1 bpfReg3
  let program := program ++ [mov64Imm bpfReg0 1, exitInsn]
  let reject := program.length
  let program := program ++ [mov64Imm bpfReg0 0, exitInsn]
  patchJump program rejectJump reject

def DeviceAccessBoundary.buildProgram (boundary : DeviceAccessBoundary) :
    Result (List BpfInsn) := do
  let program ← appendInventory (deviceProgramPrelude 0) boundary.identities
  let program := program ++ [mov64Reg bpfReg6 bpfReg0,
    mov64Imm bpfReg0 (if boundary.policy.isSome then 0 else allAccess.setWidth 32)]
  let program ← appendPolicy program boundary.policy
  finishDeviceProgram (program ++ [alu32Reg bpfAnd bpfReg0 bpfReg6])

end OciRuntime
