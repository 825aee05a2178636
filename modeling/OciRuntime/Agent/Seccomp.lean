import Mathlib.Data.List.Sort
import Mathlib.Data.Prod.Lex
import Mathlib.Order.Lex
import OciRuntime.Lib.Checks
import OciRuntime.Sdk.Basic

/-!
# `OciRuntime.Agent.Seccomp` — the stacked filters of a seccomp profile

A profile becomes one list of filters for each syscall ABI, and the lists are installed one after
the other behind a gate that admits the selected ABIs (`agent/src/executor/seccomp.rs`). What the
profile says about the calls of an ABI (`planRules`), the table of system calls (`resolveSyscall`),
the size limits of the programs (`compileFilters`) and the compiler of the rules (`Seccompiler`) are
parameters. A compiled filter is its verdict on a call.
-/

namespace OciRuntime

open Durable

inductive SeccompArchitecture
  | aarch64 | arm | x86 | x86_64 | x32
  deriving DecidableEq

inductive SeccompActionPlan
  | allow | errno (value : Nat) | killThread | killProcess | log | trace (value : Nat) | trap
  deriving DecidableEq

/-- The derived order: first the variants as they are declared, then their values. -/
def SeccompActionPlan.key : SeccompActionPlan → ℕ ×ₗ ℕ
  | .allow => toLex (0, 0)
  | .errno value => toLex (1, value)
  | .killThread => toLex (2, 0)
  | .killProcess => toLex (3, 0)
  | .log => toLex (4, 0)
  | .trace value => toLex (5, value)
  | .trap => toLex (6, 0)

inductive SeccompOperatorPlan
  | equal | greaterEqual | greaterThan | lessEqual | lessThan | maskedEqual (mask : Nat) | notEqual
  deriving DecidableEq

def SeccompOperatorPlan.key : SeccompOperatorPlan → ℕ ×ₗ ℕ
  | .equal => toLex (0, 0)
  | .greaterEqual => toLex (1, 0)
  | .greaterThan => toLex (2, 0)
  | .lessEqual => toLex (3, 0)
  | .lessThan => toLex (4, 0)
  | .maskedEqual mask => toLex (5, mask)
  | .notEqual => toLex (6, 0)

structure SeccompConditionPlan where
  argumentIndex : Nat
  operator : SeccompOperatorPlan
  value : Nat
  deriving DecidableEq

def SeccompConditionPlan.key (condition : SeccompConditionPlan) : ℕ ×ₗ (ℕ ×ₗ ℕ) ×ₗ ℕ :=
  toLex (condition.argumentIndex, toLex (condition.operator.key, condition.value))

structure SeccompRulePlan where
  syscallNumber : Int
  conditions : List SeccompConditionPlan
  deriving DecidableEq

def SeccompRulePlan.key (rule : SeccompRulePlan) : ℤ ×ₗ List (ℕ ×ₗ (ℕ ×ₗ ℕ) ×ₗ ℕ) :=
  toLex (rule.syscallNumber, rule.conditions.map (·.key))

structure ActionedRule extends SeccompRulePlan where
  action : SeccompActionPlan

structure SeccompFilterPlan where
  architecture : Option SeccompArchitecture
  mismatchAction : SeccompActionPlan
  matchAction : SeccompActionPlan
  rules : List SeccompRulePlan

structure SeccompPlan where
  architecture : SeccompArchitecture
  architectures : List SeccompArchitecture
  filters : List SeccompFilterPlan

/-! ## Planning -/

/-- The native ABI and every requested one, in the order of the enumeration. -/
def planArchitectures (native : SeccompArchitecture) (requested : List SeccompArchitecture) :
    List SeccompArchitecture :=
  [.aarch64, .arm, .x86, .x86_64, .x32].filter (· ∈ native :: requested)

def installationOrder (architectures : List SeccompArchitecture) (native : SeccompArchitecture) :
    List SeccompArchitecture :=
  architectures.filter (· ≠ native) ++ [native]

/-- An unconditional rule replaces the other rules of its call. -/
def normalizeRules (rules : List ActionedRule) : List SeccompRulePlan :=
  let plans := rules.map (·.toSeccompRulePlan)
  (plans.dedup.filter fun rule => rule.conditions = [] ∨ ⟨rule.syscallNumber, []⟩ ∉ plans)
    |>.insertionSort (·.key ≤ ·.key)

variable (resolveSyscall : SeccompArchitecture → String → List Int)

def bootstrapSyscalls (architecture : SeccompArchitecture) : List Int :=
  ["prctl", "seccomp"].flatMap (resolveSyscall architecture)

/-- The last filter may restrict the installer, the others may not. -/
def validateInstallOrder (filters : List SeccompFilterPlan) (architecture : SeccompArchitecture) :
    Result Unit :=
  filters.dropLast.zipIdx.forM fun (filter, index) =>
    rejectIf (filter.matchAction ≠ .allow ∧ filter.rules.any
      (·.syscallNumber ∈ bootstrapSyscalls resolveSyscall architecture))
      (stateError .unsupported "plan-seccomp" (s!"linux.seccomp.syscalls: filter {index} " ++
        "restricts the seccomp installer before all stacked filters can be attached"))

def planFilters (defaultAction : SeccompActionPlan) (rules : List ActionedRule)
    (architecture : SeccompArchitecture) : Result (List SeccompFilterPlan) := do
  let actions := ((rules.map (·.action)).filter (· ≠ .allow)).dedup.insertionSort (·.key ≤ ·.key)
  let blocking := actions.map fun action => SeccompFilterPlan.mk (some architecture) .allow action
    (normalizeRules (rules.filter (·.action = action)))
  let defaults := if defaultAction = .allow then [] else [SeccompFilterPlan.mk (some architecture)
    defaultAction .allow (normalizeRules (rules.filter (·.action ≠ defaultAction)))]
  validateInstallOrder resolveSyscall (blocking ++ defaults) architecture
  pure (blocking ++ defaults)

def SeccompPlan.fromLinux (planRules : SeccompArchitecture → Result (List ActionedRule))
    (compileFilters : SeccompPlan → Result Unit) (native : SeccompArchitecture)
    (requested : List SeccompArchitecture) (defaultAction : SeccompActionPlan) :
    Result SeccompPlan := do
  let architectures := planArchitectures native requested
  let filters ← (installationOrder architectures native).foldlM (fun filters selected => do
    let rules ← planRules selected
    let planned ← planFilters resolveSyscall defaultAction rules selected
    pure (filters ++ planned)) []
  let plan := ⟨native, architectures, filters⟩
  compileFilters plan
  pure plan

/-! ## Verdicts -/

structure SystemCall where
  auditArchitecture : UInt32
  number : UInt32
  arguments : Nat → UInt64

/-- The programs of `architecture_scope`; the call `-1` counts as native on x86_64. -/
def SeccompArchitecture.inScope (call : SystemCall) : SeccompArchitecture → Bool
  | .aarch64 => call.auditArchitecture == 0xc00000b7
  | .arm => call.auditArchitecture == 0x40000028
  | .x86 => call.auditArchitecture == 0x40000003
  | .x86_64 => call.auditArchitecture == 0xc000003e &&
      (call.number == 0xffffffff || call.number < 0x40000000)
  | .x32 => call.auditArchitecture == 0xc000003e &&
      !(call.number == 0xffffffff || call.number < 0x40000000)

def compileArchitectureGate (architectures : List SeccompArchitecture) (call : SystemCall) :
    SeccompActionPlan :=
  if architectures.any (·.inScope call) then .allow else .killProcess

/-- What the crate `seccompiler` makes of the rules of each call, which are alternatives, and of the
    two actions: the verdict of the program that follows its test of the architecture. -/
structure Seccompiler where
  body (target : SeccompArchitecture) (rules : List (Int × List (List SeccompConditionPlan)))
    (mismatchAction matchAction : SeccompActionPlan) (call : SystemCall) : SeccompActionPlan
  /-- A call for which there are no rules gets the action for a mismatch. -/
  body_unlisted {target rules mismatchAction matchAction call} :
    (call.number.toNat : Int) ∉ rules.map Prod.fst →
      body target rules mismatchAction matchAction call = mismatchAction

def SeccompArchitecture.compilerTarget : SeccompArchitecture → SeccompArchitecture
  | .aarch64 | .arm => .aarch64
  | .x86 | .x86_64 | .x32 => .x86_64

namespace SeccompFilterPlan

/-- The alternatives of each call; none where the call is matched whatever its arguments are. -/
def grouped (filter : SeccompFilterPlan) : List (Int × List (List SeccompConditionPlan)) :=
  (filter.rules.map (·.syscallNumber)).dedup.map fun number =>
    let rules := filter.rules.filter (·.syscallNumber = number)
    (number, if rules.any (·.conditions = []) then [] else rules.map (·.conditions))

/-- A call of another ABI passes, the others are left to the compiled rules. -/
def compile (compiler : Seccompiler) (native : SeccompArchitecture) (filter : SeccompFilterPlan)
    (call : SystemCall) : SeccompActionPlan :=
  let architecture := filter.architecture.getD native
  if !architecture.inScope call then .allow
  else compiler.body architecture.compilerTarget filter.grouped filter.mismatchAction
    filter.matchAction call

end SeccompFilterPlan

def SeccompPlan.install (compiler : Seccompiler) (plan : SeccompPlan) :
    List (SystemCall → SeccompActionPlan) :=
  compileArchitectureGate plan.architectures ::
    plan.filters.map (·.compile compiler plan.architecture)

end OciRuntime
