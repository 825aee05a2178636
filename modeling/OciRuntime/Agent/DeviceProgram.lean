import OciRuntime.Agent.DeviceAccess

/-!
# `OciRuntime.Agent.DeviceProgram` — what a device program computes

The emitted program is a sequence of guarded instructions on the mask in register 0. Building it
never fails for a boundary that was validated, and running it gives the mask the identities and the
rules compute, with one peculiarity: a number is compared with a sign-extended immediate, so that no
number with its top bit set is ever found equal.

## Contents
- **Layout.** `appendInventory_eq`, `appendOrderedRules_eq`: every jump leads to the end of its block.
- **Masks.** `DeviceRequest`, `sees`, `inventoryMask`, `policyMask`.
- **Execution.** `buildProgram_verdict`.
-/

namespace OciRuntime

open Durable Ebpf

/-! ## Layout -/

theorem patchJump_append (program block : List BpfInsn) (jumpIndex target : Nat) :
    patchJump (program ++ block) (program.length + jumpIndex) (program.length + target) =
      (patchJump block jumpIndex target).map (program ++ ·) := by
  have ho : ((program.length + target : Nat) : Int) - (program.length + jumpIndex : Nat) - 1 =
      target - jumpIndex - 1 := by omega
  unfold patchJump
  rw [List.getElem?_append_right (Nat.le_add_right _ _), Nat.add_sub_cancel_left]
  cases block[jumpIndex]? with
  | none => rfl
  | some jump =>
    dsimp only
    rw [ho, List.set_append_right _ _ (Nat.le_add_right _ _), Nat.add_sub_cancel_left]
    split <;> rfl

/-- Patching a block at the end of a program is patching the block. -/
theorem patchJumps_append (program : List BpfInsn) (target : Nat) :
    ∀ (jumps : List Nat) (block : List BpfInsn),
      patchJumps (program ++ block) (program.length + target) (jumps.map (program.length + ·)) =
      (patchJumps block target jumps).map (program ++ ·)
  | [], _ => rfl
  | jump :: rest, block => by
    simp only [List.map_cons, patchJumps, patchJump_append]
    cases patchJump block jump target with
    | error error => rfl
    | ok patched => exact patchJumps_append program target rest patched

/-- The comparisons of a block, by register. -/
def blockChecks (kind major minor : Option (BitVec 32)) : List (BitVec 4 × BitVec 32) :=
  (kind.map ((2 : BitVec 4), ·)).toList ++ (major.map ((4 : BitVec 4), ·)).toList ++
    (minor.map ((5 : BitVec 4), ·)).toList

def DeviceAccessRule.block (rule : DeviceAccessRule) : List BpfInsn :=
  guarded rule.insn (blockChecks rule.kind.expected rule.major rule.minor)

def DeviceAccessIdentity.block (identity : DeviceAccessIdentity) : List BpfInsn :=
  guarded (alu32Imm bpfOr bpfReg0 (allAccess.setWidth 32))
    (blockChecks identity.kind.expected (some identity.major) identity.minor)

/-- Pushing the comparisons, then the body, and patching the jumps lays out a guarded block. -/
theorem patchJumps_block (program : List BpfInsn) (kind major minor : Option (BitVec 32))
    (body : BpfInsn) :
    (let (pushed, jumps) := pushMismatch program [] bpfReg2 kind
     let (pushed, jumps) := pushMismatch pushed jumps bpfReg4 major
     let (pushed, jumps) := pushMismatch pushed jumps bpfReg5 minor
     patchJumps (pushed ++ [body]) (pushed ++ [body]).length jumps) =
      .ok (program ++ guarded body (blockChecks kind major minor)) := by
  have hp := patchJumps_append program
  cases kind <;> cases major <;> cases minor <;>
    simp only [pushMismatch, pushJneImm, List.nil_append, List.append_assoc, List.cons_append,
      List.length_append, List.length_cons, List.length_nil, Nat.zero_add, Nat.reduceAdd]
  -- by the number of comparisons
  all_goals first
    | exact (hp 1 [] _).trans rfl
    | exact (hp 2 [0] _).trans rfl
    | exact (hp 3 [0, 1] _).trans rfl
    | exact (hp 4 [0, 1, 2] _).trans rfl

theorem appendOrderedRules_eq : ∀ (rules : List DeviceAccessRule) (program : List BpfInsn),
    appendOrderedRules program rules = .ok (program ++ rules.flatMap (·.block))
  | [], program => by simp [appendOrderedRules]
  | rule :: rest, program => by
    have hb := patchJumps_block program rule.kind.expected rule.major rule.minor rule.insn
    refine (bind_of_ok hb fun program => appendOrderedRules program rest).trans ?_
    rw [appendOrderedRules_eq rest, List.flatMap_cons, List.append_assoc]
    rfl

theorem appendInventoryIdentity_eq (program : List BpfInsn) (hk : identity.kind ≠ .all) :
    appendInventoryIdentity program identity = .ok (program ++ identity.block) := by
  have hb := patchJumps_block program identity.kind.expected (some identity.major)
    identity.minor (alu32Imm bpfOr bpfReg0 (allAccess.setWidth 32))
  unfold appendInventoryIdentity
  cases hx : identity.kind.expected with
  | none =>
    cases ht : identity.kind with
    | all => exact absurd ht hk
    | block => simp [ht, DeviceAccessKind.expected] at hx
    | character => simp [ht, DeviceAccessKind.expected] at hx
  | some expected =>
    rw [hx] at hb
    rw [DeviceAccessIdentity.block, hx]
    exact hb

theorem appendInventory_eq : ∀ (identities : List DeviceAccessIdentity) (program : List BpfInsn),
    (∀ identity ∈ identities, identity.kind ≠ .all) →
    appendInventory program identities = .ok (program ++ identities.flatMap (·.block))
  | [], program, _ => by simp [appendInventory]
  | identity :: rest, program, hk => by
    rw [appendInventory,
      bind_of_ok (appendInventoryIdentity_eq program (hk identity List.mem_cons_self)),
      appendInventory_eq rest _ fun other ht => hk other (List.mem_cons_of_mem _ ht),
      List.flatMap_cons, List.append_assoc]

def rejectJump (off : BitVec 16) : BpfInsn where
  code := 0x5d
  regs := packRegs bpfReg1 bpfReg3
  off := off
  imm := 0

/-- The end of every program: admit if the mask in register 0 has every bit of register 3. -/
def verdictBlock : List BpfInsn :=
  [mov64Reg bpfReg1 bpfReg3, alu32Reg bpfAnd bpfReg1 bpfReg0, rejectJump 2,
    mov64Imm bpfReg0 1, exitInsn, mov64Imm bpfReg0 0, exitInsn]

theorem finishDeviceProgram_eq (program : List BpfInsn) :
    finishDeviceProgram program = .ok (program ++ verdictBlock) := by
  have hp := patchJump_append program [mov64Reg bpfReg1 bpfReg3,
    alu32Reg bpfAnd bpfReg1 bpfReg0, rejectJump 0, mov64Imm bpfReg0 1, exitInsn, mov64Imm bpfReg0 0,
    exitInsn] 2 5
  simp only [finishDeviceProgram, pushJneReg, List.append_assoc, List.cons_append, List.nil_append,
    List.length_append, List.length_cons, List.length_nil, Nat.zero_add, Nat.reduceAdd]
  exact hp.trans rfl

/-- The rules of a policy, and what stays granted whatever they say. -/
def policyBlock : Option DeviceAccessPolicy → List BpfInsn
  | none => []
  | some policy => policy.rules.flatMap (·.block) ++ normativeDefaults.flatMap (·.block)

def DeviceAccessBoundary.program (boundary : DeviceAccessBoundary) : List BpfInsn :=
  deviceProgramPrelude 0 ++ (boundary.identities.flatMap (·.block) ++ ([mov64Reg bpfReg6 bpfReg0,
      mov64Imm bpfReg0 (if boundary.policy.isSome then 0 else allAccess.setWidth 32)] ++
    (policyBlock boundary.policy ++ ([alu32Reg bpfAnd bpfReg0 bpfReg6] ++ verdictBlock))))

/-- A program is built for every boundary without a wildcard. -/
theorem buildProgram_eq {boundary : DeviceAccessBoundary}
    (hk : ∀ identity ∈ boundary.identities, identity.kind ≠ .all) :
    boundary.buildProgram = .ok boundary.program := by
  have hd : ∀ identity ∈ normativeDefaults, identity.kind ≠ .all := by decide
  have hp : ∀ program, appendPolicy program boundary.policy =
      .ok (program ++ policyBlock boundary.policy) := by
    intro program
    cases boundary.policy with
    | none => simp [appendPolicy, policyBlock]
    | some policy =>
      rw [appendPolicy, bind_of_ok (appendOrderedRules_eq _ _), appendNormativeDefaultAccess,
        appendInventory_eq _ _ hd, policyBlock, List.append_assoc]
  rw [DeviceAccessBoundary.buildProgram, bind_of_ok (appendInventory_eq _ _ hk)]
  rw [bind_of_ok (hp _), finishDeviceProgram_eq, DeviceAccessBoundary.program]
  simp only [List.append_assoc]

/-! ## Masks -/

inductive Access
  | read | write | mknod
  deriving DecidableEq

/-- The bit of an access in a mask. -/
def Access.bit : Access → Nat
  | .mknod => 0
  | .read => 1
  | .write => 2

inductive DeviceType
  | block | character
  deriving DecidableEq

def DeviceType.kind : DeviceType → DeviceAccessKind
  | .block => .block
  | .character => .character

/-- A request the kernel asks the program about. -/
structure DeviceRequest where
  type : DeviceType
  major : BitVec 32
  minor : BitVec 32
  access : Access → Bool
  nonempty : ∃ a, access a = true

namespace DeviceRequest

def typeCode (request : DeviceRequest) : BitVec 32 :=
  match request.type with
  | .block => bpfDevcgDevBlock
  | .character => bpfDevcgDevChar

def accessMask (request : DeviceRequest) : BitVec 8 :=
  (if request.access .read then 2 else 0) ||| (if request.access .write then 4 else 0) |||
    (if request.access .mknod then 1 else 0)

/-- `access_type` of the context: the access above the type. -/
def accessType (request : DeviceRequest) : BitVec 32 :=
  (request.accessMask.setWidth 32 <<< 16) ||| request.typeCode

/-- The context of the program (`struct bpf_cgroup_dev_ctx`), which stands at `base`. -/
def context (request : DeviceRequest) (base : BitVec 64) : Memory := fun address =>
  if address = base then some request.accessType
  else if address = base + 4 then some request.major
  else if address = base + 8 then some request.minor
  else none

end DeviceRequest

/-- Whether the comparison of `number` with an expected one succeeds: a number with its top bit set
    is never found. -/
def sees (number : BitVec 32) : Option (BitVec 32) → Bool
  | none => true
  | some expected => decide (number = expected) && !expected.msb

namespace DeviceRequest

section
variable (request : DeviceRequest)

def seesKind (kind : DeviceAccessKind) : Bool :=
  kind == .all || kind == request.type.kind

/-- Whether all comparisons of a block succeed. -/
def seesBlock (kind : DeviceAccessKind) (major minor : Option (BitVec 32)) : Bool :=
  request.seesKind kind && sees request.major major && sees request.minor minor

def widen (mask : BitVec 8) (identity : DeviceAccessIdentity) : BitVec 8 :=
  if request.seesBlock identity.kind (some identity.major) identity.minor then mask ||| allAccess
  else mask

def applyRule (mask : BitVec 8) (rule : DeviceAccessRule) : BitVec 8 :=
  if request.seesBlock rule.kind rule.major rule.minor then
    if rule.kind = .all then (if rule.allow then allAccess else 0)
    else if rule.allow then mask ||| rule.access
    else mask &&& (allAccess &&& ~~~rule.access)
  else mask

def inventoryMask (boundary : DeviceAccessBoundary) : BitVec 8 :=
  boundary.identities.foldl request.widen 0

def policyMask : Option DeviceAccessPolicy → BitVec 8
  | none => allAccess
  | some policy => normativeDefaults.foldl request.widen (policy.rules.foldl request.applyRule 0)

/-- What the program of `boundary` answers. -/
def admittedBy (boundary : DeviceAccessBoundary) : Bool :=
  request.accessMask &&& (request.policyMask boundary.policy &&& request.inventoryMask boundary) ==
    request.accessMask

end

end DeviceRequest

/-! ## Execution -/

/-- Zero extension meets sign extension only below the sign bit. -/
theorem setWidth_eq_signExtend {number expected : BitVec 32} :
    number.setWidth 64 = expected.signExtend 64 ↔ number = expected ∧ expected.msb = false := by
  cases hs : expected.msb with
  | false =>
    rw [BitVec.signExtend_eq_setWidth_of_msb_false hs]
    constructor
    · intro heq
      refine ⟨BitVec.eq_of_toNat_eq ?_, rfl⟩
      have hn := congrArg BitVec.toNat heq
      simp only [BitVec.toNat_setWidth] at hn
      omega
    · rintro ⟨rfl, -⟩
      rfl
  | true =>
    constructor
    · intro heq
      have hb := congrArg (·.getLsbD 63) heq
      simp [BitVec.getElem_signExtend, hs] at hb
    · rintro ⟨-, ⟨⟩⟩

/-- The registers hold the request. -/
structure Loaded (request : DeviceRequest) (registers : Registers) : Prop where
  type : registers 2 = request.typeCode.setWidth 64
  access : registers 3 = request.accessMask.setWidth 64
  major : registers 4 = request.major.setWidth 64
  minor : registers 5 = request.minor.setWidth 64

/-- Moreover register 0 holds `mask` and register 6 holds `kept`. -/
structure Holding (request : DeviceRequest) (mask : BitVec 8) (kept : BitVec 64)
    (registers : Registers) : Prop extends Loaded request registers where
  mask : registers 0 = mask.setWidth 64
  kept : registers 6 = kept

theorem Holding.set_mask {request : DeviceRequest} {mask : BitVec 8} {kept : BitVec 64}
    {registers : Registers} (h : Holding request mask kept registers) (other : BitVec 8) :
    Holding request other kept (registers.set 0 (other.setWidth 64)) :=
  ⟨⟨h.type, h.access, h.major, h.minor⟩, rfl, h.kept⟩

theorem signExtend_byte (byte : BitVec 8) :
    (byte.setWidth 32).signExtend 64 = byte.setWidth 64 := by
  have hs : (byte.setWidth 32).msb = false := by
    rw [BitVec.msb_setWidth]
    exact BitVec.getLsbD_of_ge _ _ (by decide)
  rw [BitVec.signExtend_eq_setWidth_of_msb_false hs]
  refine BitVec.eq_of_toNat_eq ?_
  simp only [BitVec.toNat_setWidth]
  omega

theorem passes_blockChecks {request : DeviceRequest} (h : Loaded request registers)
    (kind : DeviceAccessKind) (major minor : Option (BitVec 32)) :
    passes registers (blockChecks kind.expected major minor) =
      request.seesBlock kind major minor := by
  have hn : ∀ (reg : BitVec 4) (number : BitVec 32) (expected : Option (BitVec 32)),
      registers reg = number.setWidth 64 →
      passes registers (expected.map (reg, ·)).toList = sees number expected := by
    intro reg number expected hr
    cases expected with
    | none => rfl
    | some expected => simp [passes, sees, hr, setWidth_eq_signExtend]
  have hk : sees request.typeCode kind.expected = request.seesKind kind := by
    unfold DeviceRequest.typeCode DeviceRequest.seesKind
    cases request.type <;> cases kind <;> rfl
  rw [blockChecks, passes, List.all_append, List.all_append, ← passes, ← passes, ← passes,
    hn 2 _ _ h.type, hn 4 _ _ h.major, hn 5 _ _ h.minor, hk]
  rfl

section

variable {mask : BitVec 8} {kept : BitVec 64}

theorem blockChecks_length (kind major minor : Option (BitVec 32)) :
    (blockChecks kind major minor).length < 2 ^ 15 - 1 := by
  cases kind <;> cases major <;> cases minor <;> simp [blockChecks]

section
variable (h : Holding request mask kept registers)
include h

/-- A block whose body sets the mask. -/
theorem Holding.block (hb : body.action memory registers = some (.assign 0 (other.setWidth 64)))
    (hp : Placed program pc (guarded body (blockChecks kind.expected major minor))) :
    ∃ after, Advances program memory ⟨pc, registers⟩
        ⟨pc + (guarded body (blockChecks kind.expected major minor)).length, after⟩ ∧
      Holding request (if request.seesBlock kind major minor then other else mask) kept after := by
  have hr := advances_guarded hb _ (blockChecks_length ..) hp
  rw [passes_blockChecks h.toLoaded] at hr
  refine ⟨_, hr, ?_⟩
  split
  · exact h.set_mask other
  · exact h

theorem orMask_action (access : BitVec 8) :
    (alu32Imm bpfOr bpfReg0 (access.setWidth 32)).action memory registers =
      some (.assign 0 ((mask ||| access).setWidth 64)) := by
  show some (Action.assign 0 (alu32 (· ||| ·) (registers 0) ((access.setWidth 32).signExtend 64))) =
    _
  rw [h.mask, signExtend_byte, alu32]
  simp

theorem andMask_action (access : BitVec 8) :
    (alu32Imm bpfAnd bpfReg0 (access.setWidth 32)).action memory registers =
      some (.assign 0 ((mask &&& access).setWidth 64)) := by
  show some (Action.assign 0 (alu32 (· &&& ·) (registers 0) ((access.setWidth 32).signExtend 64))) =
    _
  rw [h.mask, signExtend_byte, alu32]
  simp

end

theorem setMask_action (access : BitVec 8) :
    (mov64Imm bpfReg0 (access.setWidth 32)).action memory registers =
      some (.assign 0 (access.setWidth 64)) := by
  show some (Action.assign 0 ((access.setWidth 32).signExtend 64)) = _
  rw [signExtend_byte]

theorem Holding.identity (h : Holding request mask kept registers)
    (identity : DeviceAccessIdentity) (hp : Placed program pc identity.block) :
    ∃ after, Advances program memory ⟨pc, registers⟩ ⟨pc + identity.block.length, after⟩ ∧
      Holding request (request.widen mask identity) kept after :=
  h.block (orMask_action h allAccess) hp

theorem Holding.rule (h : Holding request mask kept registers) (rule : DeviceAccessRule)
    (hp : Placed program pc rule.block) :
    ∃ after, Advances program memory ⟨pc, registers⟩ ⟨pc + rule.block.length, after⟩ ∧
      Holding request (request.applyRule mask rule) kept after := by
  refine h.block ?_ hp
  unfold DeviceAccessRule.insn
  by_cases ha : rule.kind = .all
  · rw [if_pos ha, if_pos ha]
    cases rule.allow with
    | true => exact setMask_action allAccess
    | false => exact setMask_action 0
  · rw [if_neg ha, if_neg ha]
    cases rule.allow with
    | true => exact orMask_action h rule.access
    | false => exact andMask_action h (allAccess &&& ~~~rule.access)

/-- Blocks one after another fold their effect on the mask. -/
theorem Holding.blocks {α : Type} {block : α → List BpfInsn} {apply : BitVec 8 → α → BitVec 8}
    (ho : ∀ (a : α) {mask : BitVec 8} {registers : Registers} {pc : Nat},
      Holding request mask kept registers → Placed program pc (block a) →
      ∃ after, Advances program memory ⟨pc, registers⟩ ⟨pc + (block a).length, after⟩ ∧
        Holding request (apply mask a) kept after) :
    ∀ (items : List α) {mask : BitVec 8} {registers : Registers} {pc : Nat},
      Holding request mask kept registers → Placed program pc (items.flatMap block) →
      ∃ after, Advances program memory ⟨pc, registers⟩ ⟨pc + (items.flatMap block).length, after⟩ ∧
        Holding request (items.foldl apply mask) kept after
  | [], _, registers, _, h, _ => ⟨registers, Advances.refl _, h⟩
  | item :: rest, _, _, _, h, hp => by
    obtain ⟨middle, hf, hm⟩ := ho item h hp.left
    obtain ⟨after, hr, ha⟩ := Holding.blocks ho rest hm hp.right
    refine ⟨after, ?_, ha⟩
    rw [List.flatMap_cons, List.length_append, ← Nat.add_assoc]
    exact hf.trans hr

theorem Holding.identities (memory : Memory) (identities : List DeviceAccessIdentity)
    (h : Holding request mask kept registers)
    (hp : Placed program pc (identities.flatMap (·.block))) :
    ∃ after, Advances program memory ⟨pc, registers⟩
        ⟨pc + (identities.flatMap (·.block)).length, after⟩ ∧
      Holding request (identities.foldl request.widen mask) kept after :=
  Holding.blocks (fun identity _ _ _ h hp => h.identity identity hp) identities h hp

theorem Holding.policy (memory : Memory) (policy : Option DeviceAccessPolicy)
    (h : Holding request (if policy.isSome then 0 else allAccess) kept registers)
    (hp : Placed program pc (policyBlock policy)) :
    ∃ after, Advances program memory ⟨pc, registers⟩ ⟨pc + (policyBlock policy).length, after⟩ ∧
      Holding request (request.policyMask policy) kept after := by
  cases policy with
  | none => exact ⟨registers, Advances.refl _, h⟩
  | some policy =>
    obtain ⟨middle, hr, hm⟩ := Holding.blocks
      (fun rule _ _ _ h hp => h.rule rule hp) policy.rules h hp.left
    obtain ⟨after, hd, ha⟩ := hm.identities memory normativeDefaults hp.right
    refine ⟨after, ?_, ha⟩
    rw [policyBlock, List.length_append, ← Nat.add_assoc]
    exact hr.trans hd

/-- The mask moves to register 6 and the mask of the rules starts afresh. -/
theorem Holding.switch (memory : Memory) (policy : Option DeviceAccessPolicy)
    (h : Holding request mask kept registers)
    (hp : Placed program pc [mov64Reg bpfReg6 bpfReg0,
      mov64Imm bpfReg0 (if policy.isSome then 0 else allAccess.setWidth 32)]) :
    ∃ after, Advances program memory ⟨pc, registers⟩ ⟨pc + 2, after⟩ ∧
      Holding request (if policy.isSome then 0 else allAccess) (mask.setWidth 64) after := by
  let initial : BitVec 8 := if policy.isSome then 0 else allAccess
  have hn : (if policy.isSome then 0 else allAccess.setWidth 32) = initial.setWidth 32 := by
    dsimp only [initial]
    split <;> rfl
  rw [hn] at hp
  refine ⟨(registers.set 6 (registers 0)).set 0 (initial.setWidth 64),
    advances_assigns hp ((assigns_cons rfl).trans (assigns_cons (setMask_action initial))), ?_⟩
  exact ⟨⟨h.type, h.access, h.major, h.minor⟩, rfl, h.mask⟩

/-- Register 6 keeps of the mask what the inventory has. -/
theorem Holding.intersect (memory : Memory)
    (h : Holding request mask (inventory.setWidth 64) registers)
    (hp : Placed program pc [alu32Reg bpfAnd bpfReg0 bpfReg6]) :
    ∃ after, Advances program memory ⟨pc, registers⟩ ⟨pc + 1, after⟩ ∧
      Holding request (mask &&& inventory) (inventory.setWidth 64) after := by
  have ha : (alu32Reg bpfAnd bpfReg0 bpfReg6).action memory registers =
      some (.assign 0 ((mask &&& inventory).setWidth 64)) := by
    show some (Action.assign 0 (alu32 (· &&& ·) (registers 0) (registers 6))) = _
    rw [h.mask, h.kept, alu32]
    simp
  exact ⟨_, advances_assign hp ha, h.set_mask _⟩

end

/-! ### The beginning and the end -/

section
variable (request : DeviceRequest)

theorem context_first (base : BitVec 64) :
    request.context base (base + (0 : BitVec 16).signExtend 64) = some request.accessType := by
  simp [DeviceRequest.context]

theorem context_second (base : BitVec 64) :
    request.context base (base + (4 : BitVec 16).signExtend 64) = some request.major := by
  show request.context base (base + 4) = _
  simp [DeviceRequest.context]

theorem context_third (base : BitVec 64) :
    request.context base (base + (8 : BitVec 16).signExtend 64) = some request.minor := by
  show request.context base (base + 8) = _
  simp [DeviceRequest.context]

theorem accessType_low :
    alu32 (· &&& ·) (request.accessType.setWidth 64) ((0xFFFF : BitVec 32).signExtend 64) =
      request.typeCode.setWidth 64 := by
  unfold DeviceRequest.accessType DeviceRequest.accessMask DeviceRequest.typeCode
  cases request.type <;> cases request.access .read <;> cases request.access .write <;>
    cases request.access .mknod <;> rfl

theorem accessType_high : alu32 (fun a b => a >>> (b.toNat % 32)) (request.accessType.setWidth 64)
      ((16 : BitVec 32).signExtend 64) = request.accessMask.setWidth 64 := by
  unfold DeviceRequest.accessType DeviceRequest.accessMask DeviceRequest.typeCode
  cases request.type <;> cases request.access .read <;> cases request.access .write <;>
    cases request.access .mknod <;> rfl

end

section

variable {request : DeviceRequest}

/-- A load of a word of the context. -/
theorem ldxMem_action (dst : BitVec 8) (hc : registers 1 = base)
    (hw : request.context base (base + off.signExtend 64) = some word) :
    (ldxMem bpfW dst bpfReg1 off).action (request.context base) registers =
      some (.assign ((packRegs dst bpfReg1).extractLsb' 0 4) (word.setWidth 64)) := by
  have hs : ∀ dst : BitVec 8, (packRegs dst bpfReg1).extractLsb' 4 4 = 1 := by decide
  show (request.context base (registers ((packRegs dst bpfReg1).extractLsb' 4 4) +
    off.signExtend 64)).map _ = _
  rw [hs, hc, hw]
  rfl

/-- The first instructions load the request and clear the mask. -/
theorem prelude_advances (request : DeviceRequest) (hc : registers 1 = base)
    (hp : Placed program pc (deviceProgramPrelude 0)) :
    ∃ after, Advances program (request.context base) ⟨pc, registers⟩
        ⟨pc + (deviceProgramPrelude 0).length, after⟩ ∧
      Holding request 0 (registers 6) after := by
  let typed := ((registers.set 0 ((0 : BitVec 8).setWidth 64)).set 2
    (request.accessType.setWidth 64)).set 2
    (alu32 (· &&& ·) (request.accessType.setWidth 64) ((0xFFFF : BitVec 32).signExtend 64))
  let asked := (typed.set 3 (request.accessType.setWidth 64)).set 3
    (alu32 (fun a b => a >>> (b.toNat % 32)) (request.accessType.setWidth 64)
      ((16 : BitVec 32).signExtend 64))
  let after := (asked.set 4 (request.major.setWidth 64)).set 5 (request.minor.setWidth 64)
  have ha : assigns (request.context base) (deviceProgramPrelude 0) registers = some after := by
    refine (assigns_cons (setMask_action 0)).trans ?_
    refine (assigns_cons (ldxMem_action bpfReg2 (by exact hc) (context_first ..))).trans ?_
    refine (assigns_cons rfl).trans ?_
    refine (assigns_cons (ldxMem_action bpfReg3 (by exact hc) (context_first ..))).trans ?_
    refine (assigns_cons rfl).trans ?_
    refine (assigns_cons (ldxMem_action bpfReg4 (by exact hc) (context_second ..))).trans ?_
    exact assigns_cons (ldxMem_action bpfReg5 (by exact hc) (context_third ..))
  refine ⟨after, advances_assigns hp ha, ?_⟩
  exact ⟨⟨accessType_low request, accessType_high request, rfl, rfl⟩, rfl, rfl⟩

/-- The last instructions compare what is asked for with what the mask has of it. -/
theorem run_verdict (hrn : Advances program memory start ⟨pc, registers⟩)
    (h : Holding request mask kept registers) (hp : Placed program pc verdictBlock)
    (hf : pc + verdictBlock.length ≤ start.pc + fuel) :
    run program memory fuel start =
      some (if request.accessMask &&& mask == request.accessMask then 1 else 0) := by
  let compared : Registers := (registers.set 1 (registers 3)).set 1
    (alu32 (· &&& ·) (registers 3) (registers 0))
  have hwh : verdictBlock.length = 7 := rfl
  have hcm : compared 1 = (request.accessMask &&& mask).setWidth 64 := by
    show alu32 (· &&& ·) (registers 3) (registers 0) = _
    rw [h.access, h.mask, alu32]
    simp
  have hw : compared 3 = request.accessMask.setWidth 64 := h.access
  have hwd : ∀ a b : BitVec 8, a.setWidth 64 = b.setWidth 64 ↔ a = b := by
    intro a b
    refine ⟨fun heq => BitVec.eq_of_toNat_eq ?_, congrArg _⟩
    have hn := congrArg BitVec.toNat heq
    simp only [BitVec.toNat_setWidth] at hn
    omega
  have hb : Placed program pc (verdictBlock.take 2 ++ verdictBlock.drop 2) := hp
  have hj : Placed program (pc + 2) (rejectJump 2 :: verdictBlock.drop 3) := hb.right
  have hs : Advances program memory start ⟨pc + 2, compared⟩ :=
    hrn.trans (advances_assigns hb.left rfl)
  have ha : (rejectJump 2).action memory compared =
      some (.jump (request.accessMask &&& mask ≠ request.accessMask)) := by
    show some (Action.jump (compared 1 ≠ compared 3)) = _
    rw [hcm, hw, decide_not, decide_not, decide_eq_decide.mpr (hwd _ _)]
  by_cases hc : request.accessMask &&& mask = request.accessMask
  · rw [decide_eq_false (not_not_intro hc)] at ha
    have hl := (hs.trans (advances_fallThrough hj ha)).trans
      (advances_assign hj.tail (setMask_action 1))
    rw [hl.exit hj.tail.tail rfl (by omega), if_pos (by simpa using hc)]
    rfl
  · rw [decide_eq_true hc] at ha
    have hr : Placed program (pc + 2 + 1 + 2) (verdictBlock.drop 5) :=
      Placed.right (show Placed program (pc + 2 + 1)
        (([mov64Imm bpfReg0 1, exitInsn] : List BpfInsn) ++ verdictBlock.drop 5) from hj.tail)
    have hd := (hs.trans (advances_jump hj ha
      (show (rejectJump 2).off.toInt = (2 : Nat) from rfl))).trans
      (advances_assign hr (setMask_action 0))
    rw [hd.exit hr.tail rfl (by omega), if_neg (by simpa using hc)]
    rfl

end

/-- **The program computes the masks.** Wherever its context stands and whatever the other registers
    hold, the program of a boundary without wildcards is built, exits within its length, and admits
    what the masks admit. -/
theorem buildProgram_verdict {boundary : DeviceAccessBoundary}
    (hk : ∀ identity ∈ boundary.identities, identity.kind ≠ .all) :
    ∃ program, boundary.buildProgram = .ok program ∧
      ∀ (request : DeviceRequest) (registers : Registers),
        run program (request.context (registers 1)) program.length ⟨0, registers⟩ =
          some (if request.admittedBy boundary then 1 else 0) := by
  refine ⟨_, buildProgram_eq hk, fun request registers => ?_⟩
  have hp : Placed boundary.program 0 (deviceProgramPrelude 0 ++
      (boundary.identities.flatMap (·.block) ++ ([mov64Reg bpfReg6 bpfReg0, mov64Imm bpfReg0
        (if boundary.policy.isSome then 0 else allAccess.setWidth 32)] ++
      (policyBlock boundary.policy ++ ([alu32Reg bpfAnd bpfReg0 bpfReg6] ++ verdictBlock))))) :=
    placed_self _
  have hl : boundary.program.length = (deviceProgramPrelude 0).length +
      ((boundary.identities.flatMap (·.block)).length + (2 +
        ((policyBlock boundary.policy).length + (1 + verdictBlock.length)))) := by
    simp only [DeviceAccessBoundary.program, List.length_append, List.length_cons, List.length_nil]
  obtain ⟨loaded, hld, hldd⟩ :=
    prelude_advances request (show registers 1 = registers 1 from rfl) hp.left
  let memory := request.context (registers 1)
  obtain ⟨counted, hcn, hc⟩ := hldd.identities memory _ hp.right.left
  obtain ⟨switched, hsw, hs⟩ :=
    hc.switch memory boundary.policy hp.right.right.left
  obtain ⟨ruled, hru, hrd⟩ :=
    hs.policy memory boundary.policy hp.right.right.right.left
  obtain ⟨final, hi, hf⟩ :=
    hrd.intersect memory hp.right.right.right.right.left
  have hr := (((hld.trans hcn).trans hsw).trans hru).trans hi
  refine run_verdict hr hf hp.right.right.right.right.right ?_
  simp only [hl, List.length_cons, List.length_nil]
  omega

end OciRuntime
