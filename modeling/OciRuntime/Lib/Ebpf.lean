import Mathlib.Data.BitVec

/-!
# `OciRuntime.Lib.Ebpf` — a machine for loop-free eBPF programs

The instructions a filter needs: loads of a word, moves, bitwise operations on 32 bits, the
conditional jump `JNE` on 64 bits, and `EXIT`. Immediates of 64-bit instructions are sign-extended,
the results of loads and of 32-bit operations are zero-extended.

## Contents
- **Machine.** `Insn`, `Insn.action`, `step`, `run`.
- **Placed code.** `Placed`: a block of instructions stands at a position of a program.
- **Progress.** `Advances`: execution gets from one state to another in no more steps than the
  program counter moves; `assigns` computes blocks without jumps.
- **Guarded instructions.** `guarded`: one instruction behind checks that jump over it.
-/

namespace Ebpf

/-! ## Machine -/

/-- An instruction as the kernel reads it; `regs` packs the destination (low) and source (high). -/
structure Insn where
  code : BitVec 8
  regs : BitVec 8
  off : BitVec 16
  imm : BitVec 32
  deriving DecidableEq

def Insn.dst (insn : Insn) : BitVec 4 := insn.regs.extractLsb' 0 4

def Insn.src (insn : Insn) : BitVec 4 := insn.regs.extractLsb' 4 4

abbrev Registers := BitVec 4 → BitVec 64

def Registers.set (registers : Registers) (dst : BitVec 4) (value : BitVec 64) : Registers :=
  fun reg => if reg = dst then value else registers reg

/-- What an instruction does in one step. -/
inductive Action
  | assign (dst : BitVec 4) (value : BitVec 64)
  | jump (taken : Bool)
  | exit

/-- The memory a program may read, by address; other loads fault. -/
abbrev Memory := BitVec 64 → Option (BitVec 32)

/-- A 32-bit operation clears the upper half of its destination. -/
def alu32 (op : BitVec 32 → BitVec 32 → BitVec 32) (dst operand : BitVec 64) : BitVec 64 :=
  (op (dst.setWidth 32) (operand.setWidth 32)).setWidth 64

/-- Decode and evaluate an instruction; an unknown one faults. -/
def Insn.action (memory : Memory) (registers : Registers) (insn : Insn) : Option Action :=
  let dst := registers insn.dst
  let src := registers insn.src
  let imm := insn.imm.signExtend 64
  match insn.code.toNat with
  | 0x61 => (memory (src + insn.off.signExtend 64)).map fun word =>
    .assign insn.dst (word.setWidth 64)
  | 0x44 => some (.assign insn.dst (alu32 (· ||| ·) dst imm))
  | 0x54 => some (.assign insn.dst (alu32 (· &&& ·) dst imm))
  | 0x5c => some (.assign insn.dst (alu32 (· &&& ·) dst src))
  | 0x74 => some (.assign insn.dst (alu32 (fun a b => a >>> (b.toNat % 32)) dst imm))
  | 0xb7 => some (.assign insn.dst imm)
  | 0xbf => some (.assign insn.dst src)
  | 0x55 => some (.jump (dst ≠ imm))
  | 0x5d => some (.jump (dst ≠ src))
  | 0x95 => some .exit
  | _ => none

structure State where
  pc : Nat
  registers : Registers

/-- One step: the next state, or the value with which the program exits. -/
def step (program : List Insn) (memory : Memory) (state : State) : Option (State ⊕ BitVec 64) :=
  match program[state.pc]? with
  | none => none
  | some insn =>
    match insn.action memory state.registers with
    | none => none
    | some (.assign dst value) =>
      some (.inl ⟨state.pc + 1, state.registers.set dst value⟩)
    | some (.jump false) => some (.inl ⟨state.pc + 1, state.registers⟩)
    | some (.jump true) =>
      let target : Int := state.pc + 1 + insn.off.toInt
      if target < 0 then none else some (.inl ⟨target.toNat, state.registers⟩)
    | some .exit => some (.inr (state.registers 0))

/-- The value with which the program exits within `fuel` steps. -/
def run (program : List Insn) (memory : Memory) : Nat → State → Option (BitVec 64)
  | 0, _ => none
  | fuel + 1, state =>
    match step program memory state with
    | none => none
    | some (.inl next) => run program memory fuel next
    | some (.inr value) => some value

variable {insn : Insn} {block : List Insn} {registers : Registers} {pc : Nat} {dst : BitVec 4}
  {value : BitVec 64}

section

variable {program : List Insn} {memory : Memory} {s t u : State}

/-! ## Placed code -/

/-- `block` stands at position `pc` of `program`. -/
def Placed (program : List Insn) (pc : Nat) (block : List Insn) : Prop := block <+: program.drop pc

theorem placed_self (program : List Insn) : Placed program 0 program := List.prefix_rfl

theorem Placed.left (h : Placed program pc (first ++ second)) : Placed program pc first :=
  (List.prefix_append first second).trans h

theorem Placed.right (h : Placed program pc (first ++ second)) :
    Placed program (pc + first.length) second := by
  have hd := List.IsPrefix.drop h first.length
  rw [List.drop_left, List.drop_drop] at hd
  exact hd

theorem Placed.tail (h : Placed program pc (insn :: block)) : Placed program (pc + 1) block :=
  Placed.right (show Placed program pc ([insn] ++ block) from h)

theorem Placed.fetch (h : Placed program pc (insn :: block)) : program[pc]? = some insn := by
  obtain ⟨rest, hr⟩ := h
  have := congrArg (·[0]?) hr
  simpa using this.symm

/-! ## Progress -/

/-- Execution gets from `s` to `t` in no more steps than the program counter moves. -/
def Advances (program : List Insn) (memory : Memory) (s t : State) : Prop :=
  ∃ n, s.pc + n ≤ t.pc ∧ ∀ fuel, run program memory (fuel + n) s = run program memory fuel t

theorem Advances.refl (s : State) : Advances program memory s s := ⟨0, le_rfl, fun _ => rfl⟩

theorem Advances.trans (h : Advances program memory s t) (h' : Advances program memory t u) :
    Advances program memory s u := by
  obtain ⟨m, hm, hr⟩ := h
  obtain ⟨n, hn, hr'⟩ := h'
  refine ⟨n + m, by omega, fun fuel => ?_⟩
  rw [← Nat.add_assoc, hr, hr']

/-- One step forward. -/
theorem Advances.step (h : step program memory s = some (.inl t)) (hp : s.pc + 1 ≤ t.pc) :
    Advances program memory s t := by
  refine ⟨1, hp, fun fuel => ?_⟩
  rw [run, h]

theorem advances_assign (hp : Placed program pc (insn :: block))
    (ha : insn.action memory registers = some (.assign dst value)) :
    Advances program memory ⟨pc, registers⟩ ⟨pc + 1, registers.set dst value⟩ := by
  refine Advances.step ?_ le_rfl
  simp only [Ebpf.step, hp.fetch, ha]

/-- The registers after a block of assignments. -/
def assigns (memory : Memory) : List Insn → Registers → Option Registers
  | [], registers => some registers
  | insn :: rest, registers =>
    match insn.action memory registers with
    | some (.assign dst value) => assigns memory rest (registers.set dst value)
    | _ => none

theorem assigns_cons (ha : insn.action memory registers = some (.assign dst value)) :
    assigns memory (insn :: rest) registers = assigns memory rest (registers.set dst value) := by
  rw [assigns, ha]

theorem advances_assigns : ∀ {block : List Insn} {pc : Nat} {registers after : Registers},
    Placed program pc block → assigns memory block registers = some after →
    Advances program memory ⟨pc, registers⟩ ⟨pc + block.length, after⟩
  | [], _, _, _, _, h => by cases h; exact Advances.refl _
  | insn :: rest, pc, registers, after, hp, h => by
    rw [assigns] at h
    split at h
    · rename_i dst value ha
      have hr := advances_assigns hp.tail h
      rw [List.length_cons, ← Nat.add_assoc, Nat.add_right_comm]
      exact (advances_assign hp ha).trans hr
    · cases h

/-- A jump that is not taken. -/
theorem advances_fallThrough (hp : Placed program pc (insn :: block))
    (ha : insn.action memory registers = some (.jump false)) :
    Advances program memory ⟨pc, registers⟩ ⟨pc + 1, registers⟩ := by
  refine Advances.step ?_ le_rfl
  simp only [Ebpf.step, hp.fetch, ha]

/-- A forward jump that is taken. -/
theorem advances_jump {distance : Nat} (hp : Placed program pc (insn :: block))
    (ha : insn.action memory registers = some (.jump true)) (ho : insn.off.toInt = distance) :
    Advances program memory ⟨pc, registers⟩ ⟨pc + 1 + distance, registers⟩ := by
  refine Advances.step ?_ (Nat.le_add_right _ _)
  simp only [Ebpf.step, hp.fetch, ha, ho]
  rfl

/-- A program that gets to an `EXIT` within its length returns the value of the first register. -/
theorem Advances.exit (h : Advances program memory s ⟨pc, registers⟩)
    (hp : Placed program pc (insn :: block))
    (ha : insn.action memory registers = some .exit) (hf : pc < s.pc + fuel) :
    run program memory fuel s = some (registers 0) := by
  obtain ⟨n, hn, hr⟩ := h
  have hn' : s.pc + n ≤ pc := hn
  obtain ⟨rest, rfl⟩ : ∃ rest, fuel = rest + 1 + n := ⟨fuel - 1 - n, by omega⟩
  rw [hr, run]
  simp only [Ebpf.step, hp.fetch, ha]

/-! ## Guarded instructions -/

/-- `JNE` of a register and an immediate. -/
def jneImm (dst : BitVec 4) (imm : BitVec 32) (off : BitVec 16) : Insn where
  code := 0x55
  regs := dst.setWidth 8
  off := off
  imm := imm

theorem jneImm_action (memory : Memory) (registers : Registers) (dst : BitVec 4)
    (imm : BitVec 32) (off : BitVec 16) : (jneImm dst imm off).action memory registers =
      some (.jump (registers dst ≠ imm.signExtend 64)) := by
  have hp : ∀ reg : BitVec 4, (reg.setWidth 8).extractLsb' 0 4 = reg := by decide
  have hd : (jneImm dst imm off).dst = dst := hp dst
  unfold Insn.action
  simp only [hd]
  rfl

/-- `body` behind checks that each register holds its immediate; a check that fails jumps to the
    end of the block. -/
def guarded (body : Insn) : List (BitVec 4 × BitVec 32) → List Insn
  | [] => [body]
  | (reg, imm) :: rest => jneImm reg imm (BitVec.ofNat 16 (rest.length + 1)) :: guarded body rest

@[simp] theorem length_guarded (body : Insn) (checks : List (BitVec 4 × BitVec 32)) :
    (guarded body checks).length = checks.length + 1 := by
  induction checks with
  | nil => rfl
  | cons check rest ih => simp [guarded, ih]

/-- Whether every check finds the immediate it compares with. -/
def passes (registers : Registers) (checks : List (BitVec 4 × BitVec 32)) : Bool :=
  checks.all fun check => registers check.1 = check.2.signExtend 64

/-- The body is executed exactly if all checks pass. -/
theorem advances_guarded {body : Insn}
    (ha : body.action memory registers = some (.assign dst value)) :
    ∀ (checks : List (BitVec 4 × BitVec 32)) {pc : Nat},
      checks.length < 2 ^ 15 - 1 → Placed program pc (guarded body checks) →
      Advances program memory ⟨pc, registers⟩ ⟨pc + (guarded body checks).length,
        if passes registers checks then registers.set dst value else registers⟩
  | [], pc, _, hp => advances_assign hp ha
  | (reg, imm) :: rest, pc, hl, hp => by
    rw [List.length_cons] at hl
    have hj := jneImm_action memory registers reg imm (BitVec.ofNat 16 (rest.length + 1))
    by_cases hc : registers reg = imm.signExtend 64
    · have hps : passes registers ((reg, imm) :: rest) = passes registers rest := by
        simp [passes, hc]
      rw [decide_eq_false (not_not_intro hc)] at hj
      have hr := advances_guarded ha rest (by omega) hp.tail
      rw [hps, guarded, List.length_cons, ← Nat.add_assoc, Nat.add_right_comm]
      exact (advances_fallThrough hp hj).trans hr
    · have hps : passes registers ((reg, imm) :: rest) = false := by simp [passes, hc]
      rw [decide_eq_true hc] at hj
      have ho : (BitVec.ofNat 16 (rest.length + 1)).toInt = (rest.length + 1 : Nat) := by
        rw [BitVec.toInt_eq_toNat_of_lt] <;> simp only [BitVec.toNat_ofNat] <;> omega
      rw [hps, guarded, List.length_cons, length_guarded, ← Nat.add_assoc, Nat.add_right_comm]
      exact advances_jump hp hj ho

end

end Ebpf
