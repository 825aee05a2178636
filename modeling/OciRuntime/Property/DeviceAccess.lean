import OciRuntime.Agent.DeviceProgram

/-!
# `OciRuntime.Property.DeviceAccess` — what a container may do with devices

What the inventory and the rules of a container mean is said for one access at a time: a rule that
applies overrides what the rules before it said. The program computes the same on masks, except that
it finds no device whose major or minor number has its top bit set.

## Contents
- **Meaning.** `grantedBy`, `inInventory`, `isNormative` and `Admitted`.
- **Masks, one access at a time.** `has_widen`, `has_applyRule`.
- **Reading rules.** `parseRules_grants`.
- **The program.** `verdict_iff_unsigned`, and the device `supports_full_u32_fails` on which the two
  differ.
-/

namespace OciRuntime

open Durable Ebpf

variable {request : DeviceRequest} {rules : List LinuxDeviceCgroup}
  {policy : Option DeviceAccessPolicy} {nodes : List (DeviceAccessKind × BitVec 32 × BitVec 32)}
  {boundary : DeviceAccessBoundary}

/-! ## Meaning -/

def Access.letter : Access → Char
  | .read => 'r'
  | .write => 'w'
  | .mknod => 'm'

namespace LinuxDeviceCgroup

section
variable (rule : LinuxDeviceCgroup)

/-- A rule without access is skipped. -/
def isEffective : Bool := rule.access.any fun access => !access.isEmpty

/-- A rule for all devices resets everything. -/
def isReset : Bool := rule.typ == none || rule.typ == some .a

def names (a : Access) : Bool :=
  rule.access.any fun access => access.toList.contains a.letter

def coversType (type : DeviceType) : Bool :=
  match type with
  | .block => rule.typ == some .b
  | .character => rule.typ == some .c

def covers (request : DeviceRequest) : Bool :=
  rule.coversType request.type && rule.major.all (· == (request.major.toNat : Int)) &&
    rule.minor.all (· == (request.minor.toNat : Int))

end

/-- What `rule` makes of an access that the rules before it have `granted` or not. -/
def grant (request : DeviceRequest) (a : Access) (granted : Bool) (rule : LinuxDeviceCgroup) :
    Bool :=
  if rule.isReset then rule.allow
  else if rule.covers request && rule.names a then rule.allow
  else granted

end LinuxDeviceCgroup

/-- The rules in list order; where none is effective everything is granted. -/
def grantedBy (rules : List LinuxDeviceCgroup) (request : DeviceRequest) (a : Access) : Bool :=
  let effective := rules.filter (·.isEffective)
  effective.isEmpty || effective.foldl (LinuxDeviceCgroup.grant request a) false

namespace DeviceRequest

section
variable (request : DeviceRequest)

def isPtySlave : Bool :=
  request.type == .character && request.major == unix98PtySlaveMajor

def isPtmx : Bool :=
  request.type == .character && request.major == ociPtmxMajor && request.minor == ociPtmxMinor

/-- A configured device, or one of those that PTYs need. -/
def inInventory (nodes : List (DeviceAccessKind × BitVec 32 × BitVec 32)) : Bool :=
  nodes.contains (request.type.kind, request.major, request.minor) || request.isPtmx ||
    request.isPtySlave

/-- A default device or one of those that PTYs need. -/
def isNormative : Bool :=
  request.type == .character && ociLinuxDefaultDeviceNodes.any (fun device =>
    request.major == device.major && request.minor == device.minor) || request.isPtmx ||
    request.isPtySlave

/-- Every access asked for is within the inventory, and granted or to a default device. -/
def Admitted (nodes : List (DeviceAccessKind × BitVec 32 × BitVec 32))
    (rules : List LinuxDeviceCgroup) : Prop :=
  ∀ a, request.access a = true → request.inInventory nodes = true ∧
    (grantedBy rules request a = true ∨ request.isNormative = true)

/-- The major or the minor number has its top bit set; the minor number of a PTY does not count. -/
def IsSigned : Prop :=
  2 ^ 31 ≤ request.major.toNat ∨ 2 ^ 31 ≤ request.minor.toNat ∧ request.isPtySlave = false

end

end DeviceRequest

instance (request : DeviceRequest) : Decidable request.IsSigned :=
  inferInstanceAs (Decidable (_ ∨ _ ∧ _))

instance (request : DeviceRequest) (nodes : List (DeviceAccessKind × BitVec 32 × BitVec 32))
    (rules : List LinuxDeviceCgroup) : Decidable (request.Admitted nodes rules) :=
  decidable_of_iff (∀ a ∈ [Access.read, .write, .mknod], request.access a = true →
      request.inInventory nodes = true ∧
        (grantedBy rules request a = true ∨ request.isNormative = true))
    ⟨fun h a => h a (by cases a <;> simp), fun h a _ => h a⟩

/-- What the program emitted for an inventory and rules answers to a request, run with its context
    at the address in register 1. -/
def deviceVerdict (nodes : List (DeviceAccessKind × BitVec 32 × BitVec 32))
    (rules : List LinuxDeviceCgroup) (request : DeviceRequest) (registers : Registers) :
    Result (Option (BitVec 64)) := do
  let policy ← DeviceAccessPolicy.fromOci rules
  let boundary ← DeviceAccessBoundary.forOciNodes nodes policy
  let program ← boundary.buildProgram
  return run program (request.context (registers 1)) program.length ⟨0, registers⟩

/-! ## Masks, one access at a time -/

/-- Whether a mask has the bit of an access. -/
def has (mask : BitVec 8) (a : Access) : Bool := mask.getLsbD a.bit

@[simp] theorem has_zero (a : Access) : has 0#8 a = false := by cases a <;> rfl

@[simp] theorem has_allAccess (a : Access) : has allAccess a = true := by cases a <;> rfl

@[simp] theorem has_or (mask other : BitVec 8) (a : Access) :
    has (mask ||| other) a = (has mask a || has other a) := BitVec.getLsbD_or

@[simp] theorem has_and (mask other : BitVec 8) (a : Access) :
    has (mask &&& other) a = (has mask a && has other a) := BitVec.getLsbD_and

@[simp] theorem has_not (mask : BitVec 8) (a : Access) : has (~~~mask) a = !has mask a := by
  cases a <;> simp [has, Access.bit]

theorem has_accessMask (request : DeviceRequest) (a : Access) :
    has request.accessMask a = request.access a := by
  unfold DeviceRequest.accessMask
  cases a <;> cases request.access .read <;> cases request.access .write <;>
    cases request.access .mknod <;> rfl

/-- A mask of accesses is within another exactly if each of its accesses is. -/
theorem accessMask_and_eq (request : DeviceRequest) (mask : BitVec 8) :
    request.accessMask &&& mask = request.accessMask ↔
      ∀ a, request.access a = true → has mask a = true := by
  constructor
  · intro heq a hs
    have hb := congrArg (has · a) heq
    simp only [has_and, has_accessMask, hs, Bool.true_and] at hb
    exact hb
  · intro ha
    refine BitVec.eq_of_getLsbD_eq fun i hi => ?_
    rw [BitVec.getLsbD_and]
    have hb : ∀ a : Access, (has request.accessMask a && has mask a) = has request.accessMask a := by
      intro a
      rw [has_accessMask]
      cases hs : request.access a with
      | false => rfl
      | true => exact ha a hs
    match i with
    | 0 => exact hb .mknod
    | 1 => exact hb .read
    | 2 => exact hb .write
    | i + 3 =>
      have hn : ∀ (r w m : Bool) (i : Fin 5), ((if r then 2 else 0) |||
          (if w then 4 else 0) ||| (if m then 1 else 0) : BitVec 8).getLsbD (i + 3) = false := by
        decide
      rw [DeviceRequest.accessMask, hn _ _ _ ⟨i, by omega⟩]
      rfl

theorem admittedBy_iff (request : DeviceRequest) (boundary : DeviceAccessBoundary) :
    request.admittedBy boundary = true ↔ ∀ a, request.access a = true →
      has (request.policyMask boundary.policy) a = true ∧
        has (request.inventoryMask boundary) a = true := by
  rw [DeviceRequest.admittedBy, beq_iff_eq, accessMask_and_eq]
  simp only [has_and, Bool.and_eq_true]

theorem has_widen (request : DeviceRequest) (a : Access) :
    ∀ (identities : List DeviceAccessIdentity) (mask : BitVec 8),
      has (identities.foldl request.widen mask) a = (has mask a || identities.any fun identity =>
        request.seesBlock identity.kind (some identity.major) identity.minor)
  | [], mask => by simp
  | identity :: rest, mask => by
    rw [List.foldl_cons, has_widen request a rest, List.any_cons, ← Bool.or_assoc]
    congr 1
    unfold DeviceRequest.widen
    cases request.seesBlock identity.kind (some identity.major) identity.minor <;> simp

theorem has_applyRule (request : DeviceRequest) (a : Access) (mask : BitVec 8)
    (rule : DeviceAccessRule) : has (request.applyRule mask rule) a =
      if request.seesBlock rule.kind rule.major rule.minor then
        if rule.kind = .all then rule.allow
        else if has rule.access a then rule.allow else has mask a
      else has mask a := by
  unfold DeviceRequest.applyRule
  cases request.seesBlock rule.kind rule.major rule.minor with
  | false => rfl
  | true =>
    rw [if_pos rfl, if_pos rfl]
    split
    · cases rule.allow <;> simp
    · cases rule.allow <;> cases hn : has rule.access a <;> simp [hn]

/-! ## Reading rules -/

theorem parseAccessChars_has (a : Access) :
    ∀ (chars : List Char) {mask parsed : BitVec 8}, parseAccessChars field mask chars = .ok parsed →
      has parsed a = (has mask a || chars.contains a.letter)
  | [], mask, parsed, h => by
    cases h
    simp
  | char :: rest, mask, parsed, h => by
    unfold parseAccessChars at h
    split at h
    · rename_i heq; cases heq
    · rename_i heq
      cases heq
      rw [parseAccessChars_has a rest h]
      cases a <;> simp [has, Access.bit, Access.letter, bpfDevcgAccRead]
    · rename_i heq
      cases heq
      rw [parseAccessChars_has a rest h]
      cases a <;> simp [has, Access.bit, Access.letter, bpfDevcgAccWrite]
    · rename_i heq
      cases heq
      rw [parseAccessChars_has a rest h]
      cases a <;> simp [has, Access.bit, Access.letter, bpfDevcgAccMknod]
    · cases h

/-- Only a text without characters gives the empty mask. -/
theorem parseAccessChars_ne_zero (h : parseAccessChars field 0 (char :: rest) = .ok parsed) :
    parsed ≠ 0 := by
  have hl : ∃ a : Access, char = a.letter := by
    unfold parseAccessChars at h
    split at h
    · rename_i heq; cases heq
    · rename_i heq; cases heq; exact ⟨.read, rfl⟩
    · rename_i heq; cases heq; exact ⟨.write, rfl⟩
    · rename_i heq; cases heq; exact ⟨.mknod, rfl⟩
    · cases h
  obtain ⟨a, rfl⟩ := hl
  have hb := parseAccessChars_has a _ h
  rintro rfl
  simp at hb

/-- Below the sign bit a number is found exactly if it is the one written. -/
theorem parseDeviceNumber_sees (h : parseDeviceNumber field value = .ok parsed)
    (hn : number.msb = false) :
    sees number parsed = value.all (· == (number.toNat : Int)) := by
  cases value with
  | none =>
    cases h
    rfl
  | some value =>
    simp only [parseDeviceNumber] at h
    split at h
    · cases h
      have heq : number = BitVec.ofInt 32 value ↔ value = (number.toNat : Int) := by
        constructor
        · rintro rfl
          rw [BitVec.toNat_ofInt]
          omega
        · intro hv
          rw [hv, BitVec.ofInt_natCast, BitVec.ofNat_toNat, BitVec.setWidth_eq]
      by_cases hs : number = BitVec.ofInt 32 value
      · simp [sees, hn, heq.mp hs]
      · simp [sees, hs, mt heq.mpr hs]
    · cases h

/-- What a rule becomes, for requests whose numbers are below the sign bit. -/
structure Reads (request : DeviceRequest) (rule : LinuxDeviceCgroup)
    (parsed : DeviceAccessRule) : Prop where
  effective : (parsed.access != 0) = rule.isEffective
  grant : ∀ a mask, has (request.applyRule mask parsed) a = rule.grant request a (has mask a)

theorem fromOci_reads (h : DeviceAccessRule.fromOci index rule = .ok parsed)
    (hmj : request.major.msb = false) (hm : request.minor.msb = false) :
    Reads request rule parsed := by
  simp only [DeviceAccessRule.fromOci, bind_eq_ok, pure_eq_ok] at h
  obtain ⟨kind, hk, major, hps, minor, hp, access, ha, rfl⟩ := h
  have hnm : ∀ a, has access a = rule.names a := by
    intro a
    cases hr : rule.access with
    | none =>
      rw [hr] at ha
      cases ha
      simp [LinuxDeviceCgroup.names, hr]
    | some text =>
      rw [hr] at ha
      simpa [LinuxDeviceCgroup.names, hr] using parseAccessChars_has a _ ha
  refine ⟨?_, fun a mask => ?_⟩
  · cases hr : rule.access with
    | none =>
      rw [hr] at ha
      cases ha
      simp [LinuxDeviceCgroup.isEffective, hr]
    | some text =>
      rw [hr] at ha
      simp only [LinuxDeviceCgroup.isEffective, hr, Option.any_some]
      cases hc : text.toList with
      | nil =>
        rw [parseDeviceAccessMask, hc] at ha
        cases ha
        rw [String.toList_eq_nil_iff.mp hc]
        rfl
      | cons char rest =>
        rw [parseDeviceAccessMask, hc] at ha
        have hn : text.isEmpty = false := by
          rw [← Bool.not_eq_true, String.isEmpty_iff]
          rintro rfl
          cases hc
        rw [hn, bne_iff_ne.mpr (parseAccessChars_ne_zero ha)]
        rfl
  · have hs := parseDeviceNumber_sees hps hmj
    have hs' := parseDeviceNumber_sees hp hm
    have hkn : rule.isReset = (kind == .all) ∧
        (kind ≠ .all → rule.coversType request.type = request.seesKind kind) := by
      unfold LinuxDeviceCgroup.isReset LinuxDeviceCgroup.coversType DeviceRequest.seesKind
      cases ht : rule.typ with
      | none =>
        rw [ht] at hk
        cases hk
        exact ⟨rfl, fun hn => absurd rfl hn⟩
      | some type =>
        rw [ht] at hk
        cases type with
        | a => cases hk; exact ⟨rfl, fun hn => absurd rfl hn⟩
        | b => cases hk; exact ⟨rfl, fun _ => by cases request.type <;> rfl⟩
        | c => cases hk; exact ⟨rfl, fun _ => by cases request.type <;> rfl⟩
        | u => cases hk
        | p => cases hk
    rw [has_applyRule, LinuxDeviceCgroup.grant, hkn.1]
    by_cases hal : kind = .all
    · subst hal
      rfl
    · have hb : request.seesBlock kind (if kind ≠ .all then major else none)
          (if kind ≠ .all then minor else none) = rule.covers request := by
        rw [if_pos hal, if_pos hal, DeviceRequest.seesBlock, hs, hs', ← hkn.2 hal]
        rfl
      rw [hb, if_neg hal, if_neg (mt beq_iff_eq.mp hal), hnm]
      cases rule.covers request <;> cases rule.names a <;> rfl

/-- The parsed rules that have access are the effective ones, and say the same. -/
theorem parseRules_grants (hmj : request.major.msb = false) (hm : request.minor.msb = false)
    (a : Access) :
    ∀ (rules : List LinuxDeviceCgroup) {index : Nat} {parsed : List DeviceAccessRule},
      DeviceAccessPolicy.parseRules index rules = .ok parsed →
      (parsed.filter (·.access != 0)).isEmpty = (rules.filter (·.isEffective)).isEmpty ∧
      ∀ mask, has ((parsed.filter (·.access != 0)).foldl request.applyRule mask) a =
        (rules.filter (·.isEffective)).foldl (LinuxDeviceCgroup.grant request a) (has mask a)
  | [], _, _, h => by
    cases h
    exact ⟨rfl, fun _ => rfl⟩
  | rule :: rest, index, parsed, h => by
    simp only [DeviceAccessPolicy.parseRules, bind_eq_ok, pure_eq_ok] at h
    obtain ⟨first, hf, others, ho, rfl⟩ := h
    have hr := fromOci_reads hf hmj hm
    have ih := parseRules_grants hmj hm a rest ho
    rw [List.filter_cons, List.filter_cons, hr.effective]
    cases rule.isEffective with
    | false => exact ih
    | true =>
      refine ⟨rfl, fun mask => ?_⟩
      rw [if_pos rfl, if_pos rfl, List.foldl_cons, List.foldl_cons, ih.2, hr.grant]

theorem fromOci_eq_ok (h : DeviceAccessPolicy.fromOci rules = .ok policy) :
    ∃ parsed, DeviceAccessPolicy.parseRules 0 rules = .ok parsed ∧
      policy = if (parsed.filter (·.access != 0)).isEmpty then none
        else some ⟨parsed.filter (·.access != 0)⟩ := by
  unfold DeviceAccessPolicy.fromOci at h
  split at h
  · rename_i he
    cases h
    rw [List.isEmpty_iff.mp he]
    exact ⟨[], rfl, rfl⟩
  · simp only [bind_eq_ok] at h
    obtain ⟨-, -, parsed, hp, hr⟩ := h
    refine ⟨parsed, hp, ?_⟩
    split at hr
    · rename_i he
      cases hr
      rw [if_pos he]
    · rename_i he
      simp only [bind_eq_ok, pure_eq_ok] at hr
      obtain ⟨-, -, rfl⟩ := hr
      rw [if_neg he]

/-- An identity is found if it is the device of the request, and its numbers are below the sign
    bit. -/
theorem seesBlock_iff (hk : kind ≠ .all) : request.seesBlock kind (some major) minor = true ↔
      kind = request.type.kind ∧ request.major = major ∧ major.msb = false ∧
        ∀ expected, minor = some expected → request.minor = expected ∧ expected.msb = false := by
  cases minor <;> simp [DeviceRequest.seesBlock, DeviceRequest.seesKind, sees, hk, and_assoc]

theorem kind_ne_all (type : DeviceType) : type.kind ≠ .all := by cases type <;> decide

theorem kind_eq_character {type : DeviceType} :
    DeviceAccessKind.character = type.kind ↔ type = .character := by
  cases type <;> simp [DeviceType.kind]

theorem seesBlock_character (hmj : major.msb = false) (hm : minor.msb = false) :
    request.seesBlock .character (some major) (some minor) =
      (request.type == .character && request.major == major && request.minor == minor) := by
  rw [Bool.eq_iff_iff, seesBlock_iff (by decide), kind_eq_character]
  simp [hmj, hm, and_assoc]

theorem seesBlock_ptySlave (request : DeviceRequest) :
    request.seesBlock .character (some unix98PtySlaveMajor) none = request.isPtySlave := by
  rw [Bool.eq_iff_iff, seesBlock_iff (by decide), kind_eq_character]
  have hm : unix98PtySlaveMajor.msb = false := by decide
  simp [hm, DeviceRequest.isPtySlave]

/-- The numbers of the default devices are below the sign bit. -/
theorem normativeDefaults_sees (request : DeviceRequest) : (normativeDefaults.any fun i =>
      request.seesBlock i.kind (some i.major) i.minor) =
    request.isNormative := by
  have hd : ∀ device ∈ ociLinuxDefaultDeviceNodes,
      request.seesBlock .character (some device.major) (some device.minor) =
        (request.type == .character && (request.major == device.major &&
          request.minor == device.minor)) := by
    intro device hm
    have hn : ∀ device ∈ ociLinuxDefaultDeviceNodes,
        device.major.msb = false ∧ device.minor.msb = false := by decide
    rw [seesBlock_character (hn device hm).1 (hn device hm).2, Bool.and_assoc]
  have hl : ∀ devices : List OciLinuxDefaultDeviceNode, devices ⊆ ociLinuxDefaultDeviceNodes →
      (devices.any fun device => request.seesBlock .character (some device.major)
        (some device.minor)) = (request.type == .character && devices.any fun device =>
          request.major == device.major && request.minor == device.minor) := by
    intro devices hs
    induction devices with
    | nil => simp
    | cons device rest ih =>
      rw [List.any_cons, List.any_cons, hd device (hs List.mem_cons_self),
        ih fun _ hm => hs (List.mem_cons_of_mem _ hm), Bool.and_or_distrib_left]
  rw [normativeDefaults, List.any_append, List.any_map, DeviceRequest.isNormative,
    ← hl _ (List.Subset.refl _), Bool.or_assoc]
  simp only [List.any_cons, List.any_nil, Bool.or_false, ptmxIdentity, ptySlaveIdentity,
    seesBlock_ptySlave]
  rw [seesBlock_character (by decide) (by decide)]
  rfl

/-- The mask of the rules, one access at a time. -/
theorem has_policyMask (h : DeviceAccessPolicy.fromOci rules = .ok policy)
    (hmj : request.major.msb = false) (hm : request.minor.msb = false) (a : Access) :
    has (request.policyMask policy) a = true ↔
      grantedBy rules request a = true ∨ request.isNormative = true := by
  obtain ⟨parsed, hp, rfl⟩ := fromOci_eq_ok h
  obtain ⟨he, hf⟩ := parseRules_grants hmj hm a rules hp
  unfold grantedBy
  dsimp only
  rw [← he]
  cases hn : (parsed.filter (·.access != 0)).isEmpty with
  | true => simp [DeviceRequest.policyMask]
  | false =>
    rw [if_neg (by simp), DeviceRequest.policyMask, has_widen, hf,
      show has 0 a = false from has_zero a, normativeDefaults_sees, Bool.false_or,
      Bool.or_eq_true]

/-! ## The inventory -/

theorem mem_insertIdentity {i other : DeviceAccessIdentity} :
    ∀ {identities : List DeviceAccessIdentity},
      other ∈ insertIdentity i identities ↔ other = i ∨ other ∈ identities
  | [] => by simp [insertIdentity]
  | first :: rest => by
    unfold insertIdentity
    split
    · rename_i heq
      simp [heq]
    · split
      · simp
      · rw [List.mem_cons, mem_insertIdentity, List.mem_cons]
        tauto

theorem mem_foldl_insertIdentity : ∀ {nodes : List (DeviceAccessKind × BitVec 32 × BitVec 32)}
      {identities : List DeviceAccessIdentity},
      other ∈ nodes.foldl (fun identities (kind, major, minor) =>
        insertIdentity { kind, major, minor := some minor } identities) identities ↔
      (∃ node ∈ nodes, other = ⟨node.1, node.2.1, some node.2.2⟩) ∨ other ∈ identities
  | [], identities => by simp
  | node :: rest, identities => by
    rw [List.foldl_cons, mem_foldl_insertIdentity, mem_insertIdentity]
    simp only [List.mem_cons, exists_eq_or_imp]
    exact or_left_comm.trans or_assoc.symm

/-- What the identities of a boundary are, and that none is a wildcard. -/
theorem forOciNodes_eq_ok (h : DeviceAccessBoundary.forOciNodes nodes policy = .ok boundary) :
    boundary.policy = policy ∧ (∀ i ∈ boundary.identities, i.kind ≠ .all) ∧
      ∀ i, i ∈ boundary.identities ↔ i = ptySlaveIdentity ∨ i = ptmxIdentity ∨
          ∃ node ∈ nodes, i = ⟨node.1, node.2.1, some node.2.2⟩ := by
  simp only [DeviceAccessBoundary.forOciNodes, bind_eq_ok, pure_eq_ok] at h
  obtain ⟨_, hv, rfl⟩ := h
  refine ⟨rfl, ?_, fun i => ?_⟩
  · simp only [DeviceAccessBoundary.validate, bind_eq_ok, rejectIf_eq_ok] at hv
    obtain ⟨-, -, -, hk, -⟩ := hv
    intro i hm ha
    exact hk (List.any_eq_true.mpr ⟨i, hm, beq_iff_eq.mpr ha⟩)
  · rw [mem_insertIdentity, mem_insertIdentity, mem_foldl_insertIdentity]
    simp

theorem msb_eq_false_iff (number : BitVec 32) : number.msb = false ↔ number.toNat < 2 ^ 31 := by
  rw [BitVec.msb_eq_false_iff_two_mul_lt]
  omega

theorem DeviceRequest.not_isSigned (hmj : request.major.msb = false)
    (hm : request.minor.msb = false ∨ request.isPtySlave = true) : ¬ request.IsSigned := by
  rw [msb_eq_false_iff] at hmj hm
  rintro (hh | ⟨hh, hs⟩)
  · omega
  · rcases hm with hl | hp
    · omega
    · rw [hp] at hs
      cases hs

theorem DeviceRequest.low_of_not_isSigned (h : ¬ request.IsSigned) :
    request.major.msb = false ∧ (request.minor.msb = false ∨ request.isPtySlave = true) := by
  rw [msb_eq_false_iff, msb_eq_false_iff]
  refine ⟨not_le.mp fun hh => h (.inl hh), ?_⟩
  cases hs : request.isPtySlave with
  | true => exact .inr rfl
  | false => exact .inl (not_le.mp fun hh => h (.inr ⟨hh, hs⟩))

/-- The inventory finds a device exactly if it has it and its numbers are below the sign bit. -/
theorem has_inventoryMask (h : DeviceAccessBoundary.forOciNodes nodes policy = .ok boundary)
    (request : DeviceRequest) (a : Access) : has (request.inventoryMask boundary) a = true ↔
      request.inInventory nodes = true ∧ ¬ request.IsSigned := by
  obtain ⟨-, hkn, hm⟩ := forOciNodes_eq_ok h
  rw [DeviceRequest.inventoryMask, has_widen, show has 0 a = false from has_zero a, Bool.false_or,
    List.any_eq_true]
  have hp : request.seesBlock .character (some ociPtmxMajor) (some ociPtmxMinor) =
      request.isPtmx := seesBlock_character (by decide) (by decide)
  simp only [DeviceRequest.inInventory, Bool.or_eq_true, List.contains_iff_mem]
  constructor
  · rintro ⟨identity, hd, hss⟩
    rcases (hm identity).mp hd with rfl | rfl | ⟨node, hn, rfl⟩
    · have hsl : request.isPtySlave = true := (seesBlock_ptySlave request).symm.trans hss
      obtain ⟨-, hmj, hsg, -⟩ := (seesBlock_iff (by decide)).mp hss
      exact ⟨.inr hsl, request.not_isSigned (hmj ▸ hsg) (.inr hsl)⟩
    · obtain ⟨-, hmj, hsg, hmn⟩ := (seesBlock_iff (by decide)).mp hss
      obtain ⟨hmn, hsg'⟩ := hmn _ rfl
      exact ⟨.inl (.inr (hp.symm.trans hss)), request.not_isSigned (hmj ▸ hsg) (.inl (hmn ▸ hsg'))⟩
    · obtain ⟨hk, hmj, hsg, hmn⟩ :=
        (seesBlock_iff (hkn _ hd)).mp hss
      obtain ⟨hmn, hsg'⟩ := hmn _ rfl
      refine ⟨.inl (.inl ?_), request.not_isSigned (hmj ▸ hsg) (.inl (hmn ▸ hsg'))⟩
      rw [← hk, hmj, hmn]
      exact hn
  · rintro ⟨hi, hs⟩
    obtain ⟨hmj, hmn⟩ := request.low_of_not_isSigned hs
    by_cases hsl : request.isPtySlave = true
    · exact ⟨ptySlaveIdentity, (hm _).mpr (.inl rfl), (seesBlock_ptySlave request).trans hsl⟩
    have hmn := hmn.resolve_right hsl
    rcases hi with (hn | hpt) | hpy
    · refine ⟨⟨request.type.kind, request.major, some request.minor⟩,
        (hm _).mpr (.inr (.inr ⟨_, hn, rfl⟩)), ?_⟩
      refine (seesBlock_iff (kind_ne_all request.type)).mpr ⟨rfl, rfl, hmj, ?_⟩
      rintro _ ⟨⟩
      exact ⟨rfl, hmn⟩
    · exact ⟨ptmxIdentity, (hm _).mpr (.inr (.inl rfl)), hp.trans hpt⟩
    · exact absurd hpy hsl

/-! ## The program -/

/-- What stays granted whatever the rules say. -/
theorem has_policyMask_of_isNormative (h : request.isNormative = true)
    (policy : Option DeviceAccessPolicy) (a : Access) :
    has (request.policyMask policy) a = true := by
  cases policy with
  | none => exact has_allAccess a
  | some policy => rw [DeviceRequest.policyMask, has_widen, normativeDefaults_sees, h, Bool.or_true]

/-- Away from the sign bit the program admits what it should, beyond it nothing. -/
theorem admittedBy_iff_admitted (hp : DeviceAccessPolicy.fromOci rules = .ok policy)
    (hb : DeviceAccessBoundary.forOciNodes nodes policy = .ok boundary)
    (request : DeviceRequest) : request.admittedBy boundary = true ↔
      ¬ request.IsSigned ∧ request.Admitted nodes rules := by
  have hg : ¬ request.IsSigned → ∀ a, has (request.policyMask policy) a = true ↔
      grantedBy rules request a = true ∨ request.isNormative = true := by
    intro hs a
    obtain ⟨hmj, hm | hsl⟩ := request.low_of_not_isSigned hs
    · exact has_policyMask hp hmj hm a
    · have hn : request.isNormative = true := by
        rw [DeviceRequest.isNormative, hsl, Bool.or_true]
      exact iff_of_true (has_policyMask_of_isNormative hn policy a) (.inr hn)
  rw [admittedBy_iff, (forOciNodes_eq_ok hb).1]
  constructor
  · intro h
    obtain ⟨some, hso⟩ := request.nonempty
    have hs := ((has_inventoryMask hb request some).mp (h some hso).2).2
    refine ⟨hs, fun a hsk => ⟨?_, (hg hs a).mp (h a hsk).1⟩⟩
    exact ((has_inventoryMask hb request a).mp (h a hsk).2).1
  · rintro ⟨hs, ha⟩ a hsk
    obtain ⟨hi, hgr⟩ := ha a hsk
    exact ⟨(hg hs a).mpr hgr, (has_inventoryMask hb request a).mpr ⟨hi, hs⟩⟩

/-- **The emitted program.** For every inventory and rules that are accepted, wherever the context
    stands, the program answers 1 to what is admitted and 0 to everything else exactly if the
    request is not for an admitted device whose major or minor number has its top bit set. -/
theorem verdict_iff_unsigned {nodes : List (DeviceAccessKind × BitVec 32 × BitVec 32)}
    {rules : List LinuxDeviceCgroup} {policy : Option DeviceAccessPolicy}
    {boundary : DeviceAccessBoundary} (hpol : DeviceAccessPolicy.fromOci rules = .ok policy)
    (hbd : DeviceAccessBoundary.forOciNodes nodes policy = .ok boundary)
    (request : DeviceRequest) (registers : Registers) :
    deviceVerdict nodes rules request registers =
        .ok (some (if request.Admitted nodes rules then 1 else 0)) ↔
      ¬ (request.IsSigned ∧ request.Admitted nodes rules) := by
  obtain ⟨program, hp, hr⟩ := buildProgram_verdict (forOciNodes_eq_ok hbd).2.1
  have hdm := admittedBy_iff_admitted hpol hbd request
  rw [deviceVerdict, bind_of_ok hpol, bind_of_ok hbd, bind_of_ok hp, hr]
  by_cases hs : request.IsSigned
  · have hd : ¬ request.admittedBy boundary = true := fun h => (hdm.mp h).1 hs
    rw [if_neg hd]
    by_cases ha : request.Admitted nodes rules
    · rw [if_pos ha]
      simp [hs, ha, pure, Except.pure]
    · rw [if_neg ha]
      simp [ha, pure, Except.pure]
  · have hsm : (request.admittedBy boundary = true) = request.Admitted nodes rules :=
      propext (hdm.trans (and_iff_right hs))
    simp only [hsm]
    simp [hs, pure, Except.pure]

/-- Nothing is granted but to read one block device. -/
def Sample.blockRules (major minor : Int) : List LinuxDeviceCgroup :=
  [⟨false, none, none, none, some "rwm"⟩, ⟨true, some .b, some major, some minor, some "r"⟩]

def Sample.readBlock (major minor : BitVec 32) : DeviceRequest :=
  ⟨.block, major, minor, (· == .read), ⟨.read, rfl⟩⟩

def Sample.blockPolicy : DeviceAccessPolicy :=
  ⟨[⟨false, .all, none, none, 7⟩, ⟨true, .block, some 8, some 0, 2⟩]⟩

theorem verdict_iff_unsigned_block :
    deviceVerdict [(.block, 8, 0)] (Sample.blockRules 8 0) (Sample.readBlock 8 0) (fun _ => 4096) =
        .ok (some (if (Sample.readBlock 8 0).Admitted [(.block, 8, 0)] (Sample.blockRules 8 0)
          then 1 else 0)) ↔
      ¬ ((Sample.readBlock 8 0).IsSigned ∧
        (Sample.readBlock 8 0).Admitted [(.block, 8, 0)] (Sample.blockRules 8 0)) :=
  verdict_iff_unsigned
    (show DeviceAccessPolicy.fromOci (Sample.blockRules 8 0) = .ok (some Sample.blockPolicy) by
      decide +kernel)
    (show DeviceAccessBoundary.forOciNodes [(.block, 8, 0)] (some Sample.blockPolicy) =
        .ok ⟨[⟨.block, 8, some 0⟩, ptmxIdentity, ptySlaveIdentity], some Sample.blockPolicy⟩ by
      decide +kernel) _ _

/-- The device with the highest numbers is configured and may be read, but the program denies it. -/
theorem supports_full_u32_fails :
    (Sample.readBlock 0xFFFFFFFF 0xFFFFFFFF).Admitted [(.block, 0xFFFFFFFF, 0xFFFFFFFF)]
      (Sample.blockRules 4294967295 4294967295) ∧
    deviceVerdict [(.block, 0xFFFFFFFF, 0xFFFFFFFF)] (Sample.blockRules 4294967295 4294967295)
      (Sample.readBlock 0xFFFFFFFF 0xFFFFFFFF) (fun _ => 4096) = .ok (some 0) := by
  decide +kernel

end OciRuntime
