import OciRuntime.Commit.Bare
import OciRuntime.State.Query

/-!
# `OciRuntime.Commit.BareAudit` — opening, listing and reading a store skip transaction files

The scans of the startup audit filter the names of a directory themselves. Each of them gives the
same answer with and without the transaction files, so the audit as a whole is `Blind`, and so are
`list` and the calls that only read.
-/

namespace OciRuntime

open Durable Program

variable (sdk : Sdk) {s : Store}

/-! ## Directories -/

theorem auditContainerLayout_bare (d : ContainerDirectory) (id : ContainerId) :
    auditContainerLayout d.bare id = auditContainerLayout d id := by
  unfold auditContainerLayout
  simp only [ContainerDirectory.bare_strays, ContainerDirectory.bare_processes,
    ContainerDirectory.bare_record, Option.isSome_map]

section
variable (ops : OperationInventory)

theorem auditProcessEntries_bare (c : StoredContainer) (d : ContainerDirectory) (allow : Bool) :
    auditProcessEntries ops.bare c d.bare allow = auditProcessEntries ops c d allow := by
  unfold auditProcessEntries
  rw [ContainerDirectory.bare_processes]
  cases d.processes with
  | none => rfl
  | some ps => rfl

theorem auditContainerEntry_bare (gens : GenerationInventory)
    (id : ContainerId) (d : ContainerDirectory) :
    auditContainerEntry sdk ops.bare gens.bare s.bare (id, d.bare) =
      auditContainerEntry sdk ops gens s (id, d) := by
  unfold auditContainerEntry
  dsimp only
  rw [auditContainerLayout_bare, (blind_loadStoredContainer sdk id).unchanged]
  simp only [auditProcessEntries_bare]
  rfl

theorem auditQuarantineEntry_bare (tb : Tombstone) (d : ContainerDirectory) :
    auditQuarantineEntry sdk ops.bare s.bare (tb, d.bare) =
      auditQuarantineEntry sdk ops s (tb, d) := by
  have hl : ∀ op, auditNotLive sdk op s.bare = auditNotLive sdk op s := by
    intro op
    unfold auditNotLive
    rw [Store.bare_container, (blind_loadStoredContainer sdk _).unchanged]
    cases s.containers.get? op.containerId with
    | none => rfl
    | some d => rfl
  unfold auditQuarantineEntry
  simp only [auditContainerLayout_bare, auditProcessEntries_bare, hl]
  rfl

/-! ## The audit -/

theorem auditContainerEntries_bare (gens : GenerationInventory) :
    auditContainerEntries sdk ops.bare gens.bare s.bare = auditContainerEntries sdk ops gens s := by
  unfold auditContainerEntries Store.bare
  simp only [Directory.strays_bare, Directory.strays_map, Directory.entries_bare,
    Directory.entries_map, List.forM_eq_forM, List.forM_map]
  congr 1
  funext _
  exact congrArg _ (funext fun e => auditContainerEntry_bare sdk ops gens e.1 e.2)

theorem auditQuarantineEntries_bare :
    auditQuarantineEntries sdk ops.bare s.bare = auditQuarantineEntries sdk ops s := by
  unfold auditQuarantineEntries Store.bare
  simp only [Directory.strays_bare, Directory.strays_map, Directory.entries_bare,
    Directory.entries_map, List.forM_eq_forM, List.forM_map]
  congr 1
  funext _
  exact congrArg _ (funext fun e => auditQuarantineEntry_bare sdk ops e.1 e.2)

end

theorem auditOperationGenerations_bare (gens : GenerationInventory)
    (owners : List (ContainerId × Nat)) (l : List StoredOperation) :
    auditOperationGenerations gens.bare owners l = auditOperationGenerations gens owners l := by
  induction l generalizing owners with
  | nil => rfl
  | cons op rest ih =>
    unfold auditOperationGenerations
    simp only [ih]
    rfl

instance blind_auditStartupState : Blind (auditStartupState sdk) := by
  refine ⟨fun s => ?_⟩
  have hp : s.bare.operations = s.operations.bare := rfl
  have hg : s.bare.generations = s.generations.bare := rfl
  simp only [auditStartupState, auditOperationEntries, auditGenerationEntries, bind_assoc,
    pure_bind, hp, hg, auditOperationGenerations_bare,
    auditContainerEntries_bare, auditQuarantineEntries_bare]
  rfl

/-! ## Listing and reading -/

theorem loadListed_bare (l : List ContainerId) : loadListed sdk s.bare l = loadListed sdk s l := by
  induction l with
  | nil => rfl
  | cons id rest ih =>
    unfold loadListed
    rw [(blind_loadStoredContainer sdk id).unchanged, ih]

instance blind_list (request : ListRequest) : Blind (list sdk request) := by
  refine ⟨fun s => ?_⟩
  unfold list
  rw [loadListed_bare]
  simp only [Store.bare, Directory.strays_bare, Directory.strays_map, Directory.entries_bare,
    Directory.entries_map, List.map_map, Function.comp_def]

instance (target : ContainerTarget) : Blind (state sdk target) := by
  refine ⟨fun s => ?_⟩
  unfold state
  rw [(blind_loadRequested sdk target _).unchanged]

instance (o : OperationId) : Blind (operationExists sdk o) :=
  ⟨fun _ => rfl⟩

instance (target : ContainerTarget) : Blind (bundle sdk target) := by
  refine ⟨fun s => ?_⟩
  have hd : ∀ c, loadBundleFromDirectory sdk c (s.bare.directory c) =
      loadBundleFromDirectory sdk c (s.directory c) := by
    intro c
    unfold Store.directory
    rw [Store.bare_container]
    cases s.containers.get? c.id with
    | none => rfl
    | some d => rfl
  unfold bundle
  rw [(blind_loadRequested sdk target _).unchanged]
  simp only [hd]

instance (target : ContainerTarget) : Blind (attachmentContract sdk target) := by
  refine ⟨fun s => ?_⟩
  unfold attachmentContract
  rw [(blind_loadRequested sdk target _).unchanged]

instance (requested : ProcessTarget) (name : String) :
    Blind (resolveProcessTarget sdk requested name) := by
  refine ⟨fun s => ?_⟩
  unfold resolveProcessTarget
  rw [(blind_loadStoredContainer sdk _).unchanged]
  simp only [(blind_loadStoredProcess _).unchanged]

end OciRuntime
