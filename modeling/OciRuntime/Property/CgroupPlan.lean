import OciRuntime.Agent.CgroupPlan

/-!
# `OciRuntime.Property.CgroupPlan` — every control file has one writer

The parts of a plan are told apart by the controller of their files. The unified entries may have any
controller but `cgroup`; they are kept away from the other parts by the conflict check.
-/

namespace OciRuntime

open Durable

/-- The controller of a control file. The files that control the cgroup itself, such as
    `cgroup.procs`, `cgroup.freeze`, `cgroup.kill` and `cgroup.subtree_control`, have `cgroup`. -/
def controllerOf (file : String) : String := String.ofList (file.toList.takeWhile (· != '.'))

inductive PlanPart
  | typed | blockIo | hugeTlb | rdma | unified
  deriving DecidableEq

/-- The files a part writes, for the weight backend and the optional files of the live cgroup. -/
def CgroupPlan.written (plan : CgroupPlan) (backend : Option WeightBackend)
    (present : String → Bool) : PlanPart → List String
  | .typed => plan.typedFiles
  | .blockIo => plan.blockIo.files backend
  | .hugeTlb => plan.hugeTlb.files present
  | .rdma => plan.rdma.ownedFiles
  | .unified => plan.unified.settings.map (·.1)

/-! ## Unified entries -/

theorem validateFileName_ok (h : validateFileName file = .ok controller) :
    controllerOf file = controller ∧ controller ≠ "cgroup" := by
  unfold validateFileName at h
  simp only [unit_bind_eq_ok, rejectIf_eq_ok] at h
  obtain ⟨-, -, h⟩ := h
  split at h
  · cases h
  · simp only [unit_bind_eq_ok, rejectIf_eq_ok, pure_eq_ok] at h
    obtain ⟨-, hc, rfl⟩ := h
    exact ⟨rfl, hc⟩

theorem UnifiedPlan.controllers_of_fromOci (h : UnifiedPlan.fromOci unified = .ok plan) :
    ∀ entry ∈ plan.settings,
      controllerOf entry.1 ∈ plan.controllers ∧ controllerOf entry.1 ≠ "cgroup" := by
  cases unified with
  | none =>
    cases h
    exact fun _ hm => nomatch hm
  | some entries =>
    simp only [UnifiedPlan.fromOci, bind_eq_ok, pure_eq_ok] at h
    obtain ⟨_, -, planned, hf, rfl⟩ := h
    refine foldlM_invariant (P := fun planned => ∀ entry ∈ planned.1.settings,
      controllerOf entry.1 ∈ planned.1.controllers ∧ controllerOf entry.1 ≠ "cgroup")
      (fun before entry _ after hb ha => ?_) (by simp) hf
    simp only [UnifiedPlan.add, bind_eq_ok, pure_eq_ok] at ha
    obtain ⟨controller, hn, _, -, _, -, rfl⟩ := ha
    obtain ⟨hc, hne⟩ := validateFileName_ok hn
    intro other hm
    rcases List.mem_append.mp hm with hm | hm
    · exact ⟨List.mem_insert_of_mem (hb other hm).1, (hb other hm).2⟩
    · rw [List.mem_singleton.mp hm, hc]
      exact ⟨List.mem_insert_self, hne⟩

/-! ## The other parts -/

/-- The part that names the files of a controller. -/
def ownerOf (file : String) : PlanPart :=
  match controllerOf file with
  | "io" => .blockIo
  | "hugetlb" => .hugeTlb
  | "rdma" => .rdma
  | _ => .typed

theorem mem_named : file ∈ named l ↔ (true, file) ∈ l := by
  simp [named]

section Parts

variable {plan : CgroupPlan} {backend : Option WeightBackend} {present : String → Bool}

namespace CgroupPlan

/-- What holds of the files that a part names itself. -/
structure Owns (plan : CgroupPlan) (part : PlanPart) (file : String) : Prop where
  owner : ownerOf file = part
  controller : controllerOf file ≠ "cgroup"
  required : controllerOf file ∈ plan.requiredControllers
  owned : file ∈ plan.typedOwnedFiles

theorem owns (hp : part ≠ .unified) (h : file ∈ plan.written backend present part) :
    plan.Owns part file := by
  cases part with
  | unified => exact absurd rfl hp
  | hugeTlb =>
    obtain ⟨⟨pageSize, limit⟩, hl, hf⟩ := List.mem_flatMap.mp h
    have hn : file ∈ [maxFile pageSize, reservationFile pageSize] := by
      simp only [List.mem_cons, List.mem_filter] at hf ⊢
      exact hf.imp_right (·.1)
    have hc : controllerOf file = "hugetlb" := by
      simp only [List.mem_cons, List.not_mem_nil, or_false] at hn
      rcases hn with rfl | rfl <;> simp [controllerOf, maxFile, reservationFile]
    have ho : file ∈ plan.hugeTlb.ownedFiles := List.mem_flatMap.mpr ⟨_, hl, hn⟩
    refine ⟨by simp [ownerOf, hc], by simp [hc], ?_, by simp [typedOwnedFiles, ho]⟩
    simp [requiredControllers, mem_named, hc, List.ne_nil_of_mem hl]
  | typed | blockIo | rdma =>
    simp only [written, typedFiles, BlockIoPlan.files, RdmaPlan.ownedFiles, mem_named,
      List.mem_cons, Prod.mk.injEq, List.not_mem_nil, or_false] at h
    casesm* _ ∨ _, _ ∧ _
    all_goals
      subst file
      refine ⟨by decide, by decide, ?_, ?_⟩
      · simp [requiredControllers, mem_named, controllerOf, BlockIoPlan.isEmpty]
        grind
      · simp [typedOwnedFiles, typedFiles, BlockIoPlan.ownedFiles, RdmaPlan.ownedFiles, mem_named]
        grind

end CgroupPlan

/-- **One writer.** In a plan whose unified entries were accepted and are free of conflicts, no two
    parts write the same file, and every file belongs to a required controller other than `cgroup`. -/
theorem control_files_have_one_writer (hu : UnifiedPlan.fromOci unified = .ok plan.unified)
    (hc : plan.unified.validateConflicts plan.typedOwnedFiles = .ok ()) :
    (∀ part other, part ≠ other → ∀ file ∈ plan.written backend present part,
      file ∉ plan.written backend present other) ∧
    ∀ part, ∀ file ∈ plan.written backend present part,
      controllerOf file ∈ plan.requiredControllers ∧ controllerOf file ≠ "cgroup" := by
  have hun : ∀ file ∈ plan.written backend present .unified, file ∉ plan.typedOwnedFiles := by
    unfold UnifiedPlan.validateConflicts at hc
    split at hc
    · cases hc
    · rename_i hf
      intro file hm
      obtain ⟨entry, he, rfl⟩ := List.mem_map.mp hm
      simpa using List.find?_eq_none.mp hf entry he
  constructor
  · intro part other hne file hp ho
    by_cases hu : part = .unified
    · subst part
      exact hun file hp (CgroupPlan.owns hne.symm ho).owned
    · by_cases hv : other = .unified
      · subst other
        exact hun file ho (CgroupPlan.owns hne hp).owned
      · exact hne ((CgroupPlan.owns hu hp).owner.symm.trans (CgroupPlan.owns hv ho).owner)
  · intro part file hm
    by_cases hp : part = .unified
    · subst part
      obtain ⟨entry, he, rfl⟩ := List.mem_map.mp hm
      obtain ⟨hr, hg⟩ := UnifiedPlan.controllers_of_fromOci hu entry he
      refine ⟨List.mem_append_right _ ?_, hg⟩
      simpa [List.ne_nil_of_mem he] using hr
    · have ho := CgroupPlan.owns hp hm
      exact ⟨ho.required, ho.controller⟩

end Parts

/-- A limit of the memory beside a unified entry for the same controller. -/
theorem control_files_have_one_writer_memory :
    let plan : CgroupPlan :=
      { memoryLimit := some 4096, unified := ⟨[("memory.high", "2048")], ["memory"]⟩ }
    UnifiedPlan.fromOci (some [("memory.high", "2048")]) = .ok plan.unified ∧
      (∀ part other, part ≠ other → ∀ file ∈ plan.written none (fun _ => true) part,
        file ∉ plan.written none (fun _ => true) other) ∧
      ∀ part, ∀ file ∈ plan.written none (fun _ => true) part,
        controllerOf file ∈ plan.requiredControllers ∧ controllerOf file ≠ "cgroup" := by
  have hu : UnifiedPlan.fromOci (some [("memory.high", "2048")]) =
      .ok ⟨[("memory.high", "2048")], ["memory"]⟩ := by rfl
  exact ⟨hu, control_files_have_one_writer hu (by rfl)⟩

end OciRuntime
