import Mathlib.Data.List.Dedup
import OciRuntime.Agent.Seccomp

/-!
# `OciRuntime.Property.SeccompInstall` — the installer of a profile is never blocked by it

The filters of another ABI let native calls pass, and of the native filters only the last one may
restrict the calls that install filters.
-/

namespace OciRuntime

open Durable

/-- How restrictive the kernel takes an action to be. -/
def SeccompActionPlan.severity : SeccompActionPlan → Nat
  | .allow => 0
  | .log => 1
  | .trace _ => 2
  | .errno _ => 3
  | .trap => 4
  | .killThread => 5
  | .killProcess => 6

/-- The most restrictive verdict counts. -/
def combinedVerdict (verdicts : List SeccompActionPlan) : SeccompActionPlan :=
  verdicts.foldl (fun a b => if a.severity < b.severity then b else a) .allow

variable {resolveSyscall : SeccompArchitecture → String → List Int}
  {compiler : Seccompiler} {call : SystemCall} {native : SeccompArchitecture}

theorem combinedVerdict_allow (h : ∀ verdict ∈ verdicts, verdict = .allow) :
    combinedVerdict verdicts = .allow := by
  induction verdicts with
  | nil => rfl
  | cons verdict verdicts ih =>
    obtain ⟨rfl, hr⟩ := List.forall_mem_cons.mp h
    exact ih hr

theorem inScope_unique (h : native.inScope call = true) (hn : other ≠ native) :
    other.inScope call = false := by
  cases native <;> cases other <;> grind [SeccompArchitecture.inScope]

theorem planFilters_architecture
    (h : planFilters resolveSyscall defaultAction rules architecture = .ok planned) :
    ∀ filter ∈ planned, filter.architecture = some architecture := by
  obtain ⟨-, hp⟩ := unit_bind_eq_ok.mp h
  cases hp
  intro filter hm
  rcases List.mem_append.mp hm with hm | hm
  · obtain ⟨action, -, rfl⟩ := List.mem_map.mp hm
    rfl
  · split at hm
    · cases hm
    · cases List.mem_singleton.mp hm
      rfl

theorem mem_grouped {filter : SeccompFilterPlan} {number : Int} :
    number ∈ filter.grouped.map Prod.fst ↔ ∃ rule ∈ filter.rules, rule.syscallNumber = number := by
  simp [SeccompFilterPlan.grouped, List.map_map, Function.comp_def]

/-- All filters of an ABI but the last one allow what they have no rule for and restrict what they
    have one for. -/
theorem planFilters_dropLast
    (h : planFilters resolveSyscall defaultAction rules architecture = .ok planned) :
    ∀ filter ∈ planned.dropLast,
      filter.mismatchAction = .allow ∧ filter.matchAction ≠ .allow := by
  obtain ⟨-, hp⟩ := unit_bind_eq_ok.mp h
  cases hp
  intro filter hm
  -- the filter of the default action is the last one
  have hb {blocking : List SeccompFilterPlan} {last : SeccompFilterPlan}
      (hm : filter ∈ (blocking ++ if defaultAction = .allow then [] else [last]).dropLast) :
      filter ∈ blocking := by
    split at hm
    · exact List.dropLast_subset _ (List.append_nil blocking ▸ hm)
    · rwa [List.dropLast_concat] at hm
  obtain ⟨action, ha, rfl⟩ := List.mem_map.mp (hb hm)
  rw [List.mem_insertionSort, List.mem_dedup, List.mem_filter] at ha
  exact ⟨rfl, of_decide_eq_true ha.2⟩

/-- Before the last filter of an ABI no filter restricts the installer. -/
theorem planFilters_admits
    (h : planFilters resolveSyscall defaultAction rules architecture = .ok planned)
    (hc : (call.number.toNat : Int) ∈ bootstrapSyscalls resolveSyscall architecture) :
    ∀ filter ∈ planned.dropLast, filter.compile compiler native call = .allow := by
  intro filter hm
  obtain ⟨hms, hmt⟩ := planFilters_dropLast h filter hm
  obtain ⟨hv, hp⟩ := unit_bind_eq_ok.mp h
  cases hp
  obtain ⟨index, hn⟩ := List.getElem?_of_mem hm
  have hf := rejectIf_eq_ok.mp (forM_eq_ok.mp hv _ (List.mk_mem_zipIdx_iff_getElem?.mpr hn))
  have hu : (call.number.toNat : Int) ∉ filter.grouped.map Prod.fst := by
    intro hg
    obtain ⟨rule, hr, hrn⟩ := mem_grouped.mp hg
    exact hf ⟨hmt, List.any_eq_true.mpr ⟨rule, hr, by simpa [hrn] using hc⟩⟩
  unfold SeccompFilterPlan.compile
  dsimp only
  split
  · rfl
  · rw [compiler.body_unlisted hu, hms]

/-- **Installation.** Whatever the planner accepts, the filters installed so far let the native
calls through that install the next one. -/
theorem installer_is_never_blocked
    (hplan : SeccompPlan.fromLinux resolveSyscall planRules compileFilters native requested
      defaultAction = .ok plan) :
    ∀ compiler, ∀ n < (plan.install compiler).length, ∀ call, native.inScope call = true →
      (call.number.toNat : Int) ∈ bootstrapSyscalls resolveSyscall native →
      combinedVerdict (((plan.install compiler).take n).map (· call)) = .allow := by
  intro compiler n hn call hnt hcl
  simp only [SeccompPlan.fromLinux, installationOrder, List.foldlM_append, bind_eq_ok] at hplan
  obtain ⟨_, ⟨others, ho, hl⟩, _, -, hplan⟩ := hplan
  simp only [List.foldlM_cons, List.foldlM_nil, bind_eq_ok] at hl
  obtain ⟨_, ⟨rules, -, planned, hpl, hf⟩, hl⟩ := hl
  cases hf
  cases hl
  cases hplan
  -- the filters of the other ABIs do not see the call
  have hc : ∀ filter ∈ others, filter.compile compiler native call = .allow := by
    refine foldlM_invariant (P := fun filters => ∀ filter ∈ filters,
      SeccompFilterPlan.compile compiler native filter call = .allow) ?_ (by simp) ho
    intro filters selected hs filters' ih hst
    simp only [bind_eq_ok] at hst
    obtain ⟨rules, -, planned, hpl, hf⟩ := hst
    cases hf
    intro filter hm
    rcases List.mem_append.mp hm with hm | hm
    · exact ih filter hm
    · have ht := inScope_unique hnt (of_decide_eq_true (List.mem_filter.mp hs).2)
      simp [SeccompFilterPlan.compile, planFilters_architecture hpl filter hm, ht]
  have hg : compileArchitectureGate (planArchitectures native requested) call = .allow := by
    refine if_pos (List.any_eq_true.mpr ⟨native, ?_, hnt⟩)
    cases native <;> simp [planArchitectures]
  apply combinedVerdict_allow
  intro verdict hv
  obtain ⟨program, hp, rfl⟩ := List.mem_map.mp hv
  cases n with
  | zero => cases hp
  | succ n =>
    rcases List.mem_cons.mp hp with rfl | hp
    · exact hg
    · rw [← List.map_take] at hp
      obtain ⟨filter, hm, rfl⟩ := List.mem_map.mp hp
      -- not the last filter of all, so not the last one of the native ABI
      have hl : filter ∈ (others ++ planned).dropLast := by
        rw [List.dropLast_eq_take]
        refine List.take_subset_take_left _ ?_ hm
        simp only [SeccompPlan.install, List.length_cons, List.length_map] at hn
        omega
      rw [List.dropLast_append] at hl
      split at hl
      · exact hc filter (List.dropLast_subset _ hl)
      · rcases List.mem_append.mp hl with ht | hplan
        · exact hc filter ht
        · exact planFilters_admits hpl hcl filter hplan

namespace Sample

/-- The numbers of three calls on x86 and on x86_64. -/
def syscalls : SeccompArchitecture → String → List Int
  | .x86, "prctl" => [172]
  | .x86, "seccomp" => [354]
  | .x86, "mkdir" => [39]
  | .x86_64, "prctl" => [157]
  | .x86_64, "seccomp" => [317]
  | .x86_64, "mkdir" => [83]
  | _, _ => []

/-- A profile for both ABIs that kills at `prctl` and refuses `mkdir` with mode 0777. -/
def seccompPlan : Result SeccompPlan :=
  SeccompPlan.fromLinux syscalls (fun architecture => .ok
      ((syscalls architecture "prctl").map (⟨⟨·, []⟩, .killProcess⟩) ++
        (syscalls architecture "mkdir").map (⟨⟨·, [⟨1, .equal, 511⟩]⟩, .errno 1⟩)))
    (fun _ => .ok ()) .x86_64 [.x86] .allow

/-- A compiler that takes every condition for an equality. -/
def seccompiler : Seccompiler where
  body _ rules mismatchAction matchAction call :=
    if rules.any fun (number, alternatives) => number = call.number.toNat && (alternatives.isEmpty ||
        alternatives.any (·.all fun c => (call.arguments c.argumentIndex).toNat = c.value))
    then matchAction else mismatchAction
  body_unlisted h := by
    refine if_neg fun hm => h ?_
    obtain ⟨rule, hr, hmt⟩ := List.any_eq_true.mp hm
    exact List.mem_map.mpr ⟨rule, hr, by simpa using (Bool.and_eq_true_iff.mp hmt).1⟩

def prctl : SystemCall := ⟨0xc000003e, 157, fun _ => 0⟩

end Sample

/-- Of the four filters behind the gate the second one kills at `prctl` on x86 and the last one on
    x86_64; only when all are installed `prctl` is not let through. -/
theorem installer_is_never_blocked_stacked : ∃ plan, Sample.seccompPlan = .ok plan ∧
    plan.filters.map (·.matchAction) = [.errno 1, .killProcess, .errno 1, .killProcess] ∧
    (∀ n < 5, combinedVerdict
      (((plan.install Sample.seccompiler).take n).map (· Sample.prctl)) = .allow) ∧
    combinedVerdict ((plan.install Sample.seccompiler).map (· Sample.prctl)) = .killProcess := by
  have hp : Sample.seccompPlan = .ok (Sample.seccompPlan.toOption.get rfl) := rfl
  refine ⟨_, hp, rfl, fun n hn => ?_, by decide⟩
  exact installer_is_never_blocked hp _ n hn _ rfl (by decide)

end OciRuntime
