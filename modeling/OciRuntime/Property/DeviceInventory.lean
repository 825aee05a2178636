import OciRuntime.Agent.CgroupDevices
import OciRuntime.Property.DeviceAccess

/-!
# `OciRuntime.Property.DeviceInventory` — updates never widen the inventory

The devices a container may ever use are fixed when it is created. Its filter is then activated and
its resources updated, any number of times, and every call out of the agent may fail. Whatever is
attached to the cgroup on the way was built for the nodes of the first plan, and so denies every
device outside the inventory.

## Contents
- **Meaning.** `inFixedInventory` and the runs of a handle.
- **The plan.** Its nodes are default devices and configured ones, `fromLinux_spec`.
- **Programs.** `BuiltFor`, kept by the kernel (`attachProgram_spec`) and the helper
  (`exchange_spec`).
- **Runs.** `Confined` is kept by every step (`step_keeps`).
- **Result.** `updates_stay_in_inventory`.
-/

namespace OciRuntime

open Durable Ebpf

variable {program : List BpfInsn} {next : DevicePlan}

/-! ## Meaning -/

/-- The device of the request is the one configured. -/
def LinuxDevice.isFor (device : LinuxDevice) (request : DeviceRequest) : Bool :=
  (match request.type with
    | .block => device.typ == .b
    | .character => device.typ == .c || device.typ == .u) &&
  device.major == (request.major.toNat : Int) && device.minor == (request.minor.toNat : Int)

/-- A configured device, a default device or a PTY. -/
def DeviceRequest.inFixedInventory (request : DeviceRequest) (devices : List LinuxDevice) : Bool :=
  devices.any (·.isFor request) || request.isNormative

/-- What is done with the devices of a created container. -/
inductive DeviceStep
  | activate (faults : DeviceFaults)
  | update (faults : UpdateFaults) (resources : Option (List LinuxDeviceCgroup))

namespace DeviceSystem

def step (system : DeviceSystem) : DeviceStep → Result Unit × DeviceSystem
  | .activate faults => system.activateDeviceFilter faults
  | .update faults resources => system.update faults resources

/-- The system after a sequence of steps, whatever each of them returned. -/
def after (system : DeviceSystem) (steps : List DeviceStep) : DeviceSystem :=
  steps.foldl (fun system step => (system.step step).2) system

/-- Every attached program answers 0 to the request. -/
def Denies (system : DeviceSystem) (request : DeviceRequest) : Prop :=
  ∀ program ∈ system.attached, ∀ registers : Registers,
    run program (request.context (registers 1)) program.length ⟨0, registers⟩ = some 0

end DeviceSystem

/-! ## The plan -/

theorem parseNumber_eq_ok (h : DeviceNode.parseNumber field value = .ok number) :
    value = (number.toNat : Int) := by
  unfold DeviceNode.parseNumber at h
  split at h
  · cases h
    rw [BitVec.toNat_ofInt]
    omega
  · cases h

/-- A node that the filter knows is the device it was configured as. -/
theorem fromOci_isFor (h : DeviceNode.fromOci index device = .ok node)
    (hn : node.accessNode = some (r.type.kind, r.major, r.minor)) :
    device.isFor r = true := by
  simp only [DeviceNode.fromOci, bind_eq_ok] at h
  obtain ⟨path, -, kind, hk, h⟩ := h
  obtain ⟨access, ha, hs⟩ := Option.map_eq_some_iff.mp hn
  have hf : node.kind ≠ .fifo := by
    intro heq
    rw [heq] at ha
    cases ha
  split at h
  · -- a FIFO has no kernel device
    rename_i heq
    simp only [bind_eq_ok, pure_eq_ok] at h
    obtain ⟨_, _, -, -, rfl⟩ := h
    exact absurd heq hf
  simp only [bind_eq_ok, pure_eq_ok] at h
  obtain ⟨major, hmj, minor, hm, _, hp, -, -, rfl⟩ := h
  cases hp
  obtain ⟨rfl, rfl, rfl⟩ : access = r.type.kind ∧ major = r.major ∧
      minor = r.minor := by simpa using hs
  have hty : (match r.type with
      | .block => device.typ == .b
      | .character => device.typ == .c || device.typ == .u) = true := by
    cases ht : device.typ <;> rw [ht] at hk <;> cases hk <;> cases hr : r.type <;> rw [hr] at ha <;>
      first | rfl | exact absurd rfl hf | cases ha
  rw [LinuxDevice.isFor, hty, parseNumber_eq_ok hmj, parseNumber_eq_ok hm]
  simp

namespace DevicePlan

theorem parseNodes_mem : ∀ {devices : List LinuxDevice} {index : Nat} {nodes : List DeviceNode},
    parseNodes index devices = .ok nodes → ∀ node ∈ nodes,
      ∃ device ∈ devices, ∃ index, DeviceNode.fromOci index device = .ok node
  | [], _, _, h, node, hm => by
    cases h
    cases hm
  | device :: rest, index, nodes, h, node, hm => by
    simp only [parseNodes, bind_eq_ok, pure_eq_ok] at h
    obtain ⟨first, hfs, others, ho, rfl⟩ := h
    rcases List.mem_cons.mp hm with rfl | hm
    · exact ⟨device, List.mem_cons_self, index, hfs⟩
    · obtain ⟨found, hf, hp⟩ := parseNodes_mem ho node hm
      exact ⟨found, List.mem_cons_of_mem _ hf, hp⟩

/-- Placing a node adds it and nothing else, and no kernel identity is lost. -/
theorem placeNode_spec : ∀ {nodes placed : List DeviceNode},
    placeNode explicit nodes = .ok placed → (∀ node ∈ placed, node = explicit ∨ node ∈ nodes) ∧
      ∀ node ∈ nodes, ∃ other ∈ placed, other.kernelIdentity = node.kernelIdentity
  | [], _, h => by
    cases h
    exact ⟨fun node hm => .inl (List.mem_singleton.mp hm), by simp⟩
  | first :: rest, placed, h => by
    unfold placeNode at h
    split at h
    · split at h
      · cases h
      · rename_i hdn
        cases h
        refine ⟨fun node hm => ?_, fun node hm => ?_⟩
        · exact (List.mem_cons.mp hm).imp_right (List.mem_cons_of_mem _)
        · rcases List.mem_cons.mp hm with rfl | hm
          · exact ⟨explicit, List.mem_cons_self, (not_not.mp hdn).symm⟩
          · exact ⟨node, List.mem_cons_of_mem _ hm, rfl⟩
    · simp only [bind_eq_ok, pure_eq_ok] at h
      obtain ⟨others, ho, rfl⟩ := h
      obtain ⟨hd, hk⟩ := placeNode_spec ho
      refine ⟨fun node hm => ?_, fun node hm => ?_⟩
      · rcases List.mem_cons.mp hm with rfl | hm
        · exact .inr List.mem_cons_self
        · exact (hd node hm).imp_right (List.mem_cons_of_mem _)
      · rcases List.mem_cons.mp hm with rfl | hm
        · exact ⟨_, List.mem_cons_self, rfl⟩
        · obtain ⟨other, ht, hs⟩ := hk node hm
          exact ⟨other, List.mem_cons_of_mem _ ht, hs⟩

theorem placeNodes_spec : ∀ {explicit nodes placed : List DeviceNode},
    placeNodes nodes explicit = .ok placed → (∀ node ∈ placed, node ∈ explicit ∨ node ∈ nodes) ∧
      ∀ node ∈ nodes, ∃ other ∈ placed, other.kernelIdentity = node.kernelIdentity
  | [], _, _, h => by
    cases h
    exact ⟨fun _ hm => .inr hm, fun node hm => ⟨node, hm, rfl⟩⟩
  | first :: rest, nodes, placed, h => by
    simp only [placeNodes, bind_eq_ok] at h
    obtain ⟨middle, hmd, hr⟩ := h
    obtain ⟨hd, hk⟩ := placeNode_spec hmd
    obtain ⟨hd', hk'⟩ := placeNodes_spec hr
    refine ⟨fun node hm => ?_, fun node hm => ?_⟩
    · rcases hd' node hm with hm | hm
      · exact .inl (List.mem_cons_of_mem _ hm)
      · exact (hd node hm).imp_left fun (heq : node = first) => heq ▸ List.mem_cons_self
    · obtain ⟨other, ht, hs⟩ := hk node hm
      obtain ⟨last, hl, hs'⟩ := hk' other ht
      exact ⟨last, hl, hs'.trans hs⟩

theorem hasDeviceFilter_of_identity {plan : DevicePlan} (hm : node ∈ plan.nodes)
    (hd : node.kernelIdentity ≠ none) : plan.hasDeviceFilter = true := by
  refine List.any_eq_true.mpr ⟨node, hm, ?_⟩
  cases hk : node.kind with
  | block => rfl
  | character => rfl
  | fifo =>
    rw [DeviceNode.kernelIdentity, hk] at hd
    exact absurd rfl hd

/-- The plan of a container knows its configured devices and the default ones, and always has a
    filter. -/
theorem fromLinux_spec {terminal isolated : Bool}
    (h : fromLinux devices rules mounts terminal isolated = .ok plan) :
    plan.hasDeviceFilter = true ∧
      ∀ r : DeviceRequest, r.inInventory (plan.nodes.filterMap (·.accessNode)) = true →
        r.inFixedInventory devices = true := by
  simp only [fromLinux, bind_eq_ok] at h
  obtain ⟨-, -, explicit, hp, -, -, nodes, hpl, policy, -, h⟩ := h
  have hnd : plan.nodes = nodes := by
    split at h
    · obtain ⟨-, -, h⟩ := bind_eq_ok.mp h
      cases h
      rfl
    · cases h
      rfl
  obtain ⟨hdd, hkp⟩ := placeNodes_spec hpl
  refine ⟨?_, fun r hr => ?_⟩
  · have hn : ∃ node ∈ defaultDeviceNodes, node.kernelIdentity ≠ none := by decide
    obtain ⟨null, hn, hdn⟩ := hn
    obtain ⟨node, hm, hs⟩ := hkp null hn
    exact hasDeviceFilter_of_identity (hnd ▸ hm) (hs ▸ hdn)
  · rw [DeviceRequest.inInventory, Bool.or_eq_true, Bool.or_eq_true, List.contains_iff_mem,
      List.mem_filterMap] at hr
    rw [DeviceRequest.inFixedInventory, Bool.or_eq_true]
    rcases hr with (⟨node, hm, hno⟩ | hpt) | hsl
    · rcases hdd node (hnd ▸ hm) with hx | hdf
      · obtain ⟨device, hd, index, hf⟩ := parseNodes_mem hp node hx
        exact .inl (List.any_eq_true.mpr ⟨device, hd, fromOci_isFor hf hno⟩)
      · refine .inr ?_
        obtain ⟨device, hd, rfl⟩ := List.mem_map.mp hdf
        obtain ⟨hk, hmj, hmn⟩ : DeviceAccessKind.character = r.type.kind ∧
            device.major = r.major ∧ device.minor = r.minor := by
          simpa [DeviceNode.accessNode, DeviceKind.accessKind] using hno
        have ha : ociLinuxDefaultDeviceNodes.any (fun device =>
            r.major == device.major && r.minor == device.minor) = true :=
          List.any_eq_true.mpr ⟨device, hd, by simp [hmj, hmn]⟩
        simp [DeviceRequest.isNormative, kind_eq_character.mp hk, ha]
    · simp [DeviceRequest.isNormative, hpt]
    · simp [DeviceRequest.isNormative, hsl]

end DevicePlan

/-! ## Programs -/

/-- The program was built for an inventory of these nodes, with any rules. -/
def BuiltFor (nodes : List DeviceNode) (program : List BpfInsn) : Prop :=
  ∃ policy boundary,
    DeviceAccessBoundary.forOciNodes (nodes.filterMap (·.accessNode)) policy = .ok boundary ∧
      boundary.buildProgram = .ok program

theorem BuiltFor.denies (h : BuiltFor nodes program) {r : DeviceRequest}
    (hr : r.inInventory (nodes.filterMap (·.accessNode)) ≠ true)
    (rs : Registers) :
    run program (r.context (rs 1)) program.length ⟨0, rs⟩ = some 0 := by
  obtain ⟨policy, boundary, hb, hp⟩ := h
  obtain ⟨built, hbl, hrn⟩ := buildProgram_verdict (forOciNodes_eq_ok hb).2.1
  cases hp.symm.trans hbl
  rw [hrn, if_neg]
  intro ha
  obtain ⟨a, hs⟩ := r.nonempty
  have hh := ((admittedBy_iff r boundary).mp ha a hs).2
  exact hr ((has_inventoryMask hb r a).mp hh).1

theorem load_eq_ok {bd : DeviceAccessBoundary} (h : bd.load faults = .ok program) :
    bd.buildProgram = .ok program := by
  simp only [DeviceAccessBoundary.load, bind_eq_ok, pure_eq_ok] at h
  obtain ⟨-, -, _, hp, -, -, rfl⟩ := h
  exact hp

namespace DevicePlan

variable {plan : DevicePlan} {faults : DeviceFaults}

theorem accessBoundary_eq_some (h : plan.accessBoundary = .ok (some boundary)) :
    DeviceAccessBoundary.forOciNodes (plan.nodes.filterMap (·.accessNode)) plan.accessPolicy =
      .ok boundary := by
  unfold accessBoundary at h
  split at h
  · cases h
  · obtain ⟨_, hb, hs⟩ := bind_eq_ok.mp h
    cases hs
    exact hb

theorem loadCgroupDeviceProgram_spec {loaded : Option (List BpfInsn)}
    (hf : plan.hasDeviceFilter = true) (h : plan.loadCgroupDeviceProgram faults = .ok loaded) :
    ∃ program, loaded = some program ∧ BuiltFor plan.nodes program := by
  obtain ⟨bd, hb, h⟩ := bind_eq_ok.mp h
  cases bd with
  | none =>
    rw [accessBoundary, hf, if_neg (by decide)] at hb
    obtain ⟨_, -, hn⟩ := bind_eq_ok.mp hb
    cases hn
  | some bd =>
    obtain ⟨program, hld, hl⟩ := bind_eq_ok.mp h
    cases hl
    exact ⟨program, rfl, _, bd, accessBoundary_eq_some hb, load_eq_ok hld⟩

theorem loadDeviceProgram_builtFor (h : plan.loadDeviceProgram faults = .ok program) :
    BuiltFor plan.nodes program := by
  simp only [loadDeviceProgram, bind_eq_ok] at h
  obtain ⟨-, -, bd, hb, h⟩ := h
  cases bd with
  | none => cases h
  | some bd => exact ⟨_, bd, accessBoundary_eq_some hb, load_eq_ok h⟩

end DevicePlan

theorem mem_of_mem_replace {α : Type} [BEq α] {old new other : α} :
    ∀ {list : List α}, other ∈ list.replace old new → other = new ∨ other ∈ list
  | [], h => by cases h
  | first :: rest, h => by
    rw [List.replace_cons] at h
    split at h
    · exact (List.mem_cons.mp h).imp_right (List.mem_cons_of_mem _)
    · rcases List.mem_cons.mp h with rfl | h
      · exact .inr List.mem_cons_self
      · exact (mem_of_mem_replace h).imp_right (List.mem_cons_of_mem _)

theorem attachProgram_spec {attached next : List (List BpfInsn)}
    (h : attachProgram faults program replaced attached = .ok next) :
    next ≠ [] ∧ ∀ other ∈ next, other = program ∨ other ∈ attached := by
  obtain ⟨_, -, h⟩ := bind_eq_ok.mp h
  cases replaced with
  | none =>
    cases h
    refine ⟨by simp, fun other hm => ?_⟩
    rcases List.mem_append.mp hm with hm | hm
    · exact .inr hm
    · exact .inl (List.mem_singleton.mp hm)
  | some old =>
    simp only [bind_eq_ok, rejectIf_eq_ok, pure_eq_ok] at h
    obtain ⟨_, hold, rfl⟩ := h
    refine ⟨?_, fun other hm => ?_⟩
    · intro he
      have hl := congrArg List.length he
      rw [List.length_replace, List.length_nil, List.length_eq_zero_iff] at hl
      simp [hl] at hold
    · exact mem_of_mem_replace hm

/-- What may become of the attached programs: only ones built for the nodes are added, and never
    is the last one taken away. -/
structure Serves (nodes : List DeviceNode) (attached next : List (List BpfInsn)) : Prop where
  added : ∀ program ∈ next, program ∈ attached ∨ BuiltFor nodes program
  kept : attached ≠ [] → next ≠ []

theorem Serves.refl (attached : List (List BpfInsn)) : Serves nodes attached attached :=
  ⟨fun _ hm => .inl hm, id⟩

theorem attachProgram_serves {attached next : List (List BpfInsn)}
    (h : attachProgram faults program replaced attached = .ok next)
    (hb : BuiltFor nodes program) : Serves nodes attached next ∧ next ≠ [] := by
  obtain ⟨hn, hm⟩ := attachProgram_spec h
  refine ⟨⟨fun other hth => ?_, fun _ => hn⟩, hn⟩
  rcases hm other hth with rfl | ht
  · exact .inr hb
  · exact .inl ht

/-- The helper, asked to install or replace the program of a plan that has a filter. -/
theorem applyRequest_spec (hf : plan.hasDeviceFilter = true)
    (hr : r = .install key plan ∨ r = .replace key plan)
    (h : applyRequest faults system r = .ok after) :
    after.handle = system.handle ∧ Serves plan.nodes system.attached after.attached ∧
      after.attached ≠ [] := by
  have hs : plan.requiresSetup = true := by simp [DevicePlan.requiresSetup, hf]
  rcases hr with rfl | rfl
  · simp only [applyRequest, bind_eq_ok, pure_eq_ok] at h
    obtain ⟨-, -, -, -, -, -, -, -, program, hl, attached, ha, rfl⟩ := h
    exact ⟨rfl, attachProgram_serves ha (DevicePlan.loadDeviceProgram_builtFor hl)⟩
  · simp only [applyRequest, bind_eq_ok, pure_eq_ok, hs, Bool.not_true, Bool.false_eq_true,
      if_false] at h
    obtain ⟨-, -, installed, -, program, hl, attached, ha, rfl⟩ := h
    exact ⟨rfl, attachProgram_serves ha (DevicePlan.loadDeviceProgram_builtFor hl)⟩

/-- The same across the channel to the helper, whatever is lost on it. -/
theorem exchange_spec (hf : plan.hasDeviceFilter = true)
    (hr : r = .install key plan ∨ r = .replace key plan)
    (h : exchange faults system r = (result, after)) :
    after.handle = system.handle ∧ Serves plan.nodes system.attached after.attached ∧
      (result = .ok () → after.attached ≠ []) := by
  unfold exchange at h
  split at h
  · cases h
    exact ⟨rfl, .refl _, nofun⟩
  · rename_i hp
    cases h
    obtain ⟨hh, hs, hn⟩ := applyRequest_spec hf hr hp
    exact ⟨hh, hs, fun _ => hn⟩
  · cases h
    exact ⟨rfl, .refl _, nofun⟩
  · rename_i hp
    cases h
    obtain ⟨hh, hs, -⟩ := applyRequest_spec hf hr hp
    exact ⟨hh, hs, nofun⟩
  · cases h
    exact ⟨rfl, .refl _, nofun⟩

/-! ## Runs -/

/-- **The invariant.** The nodes are those of the first plan, every attached program was built for
    them, and a handle that says it has a program attached has one. -/
structure Confined (nodes : List DeviceNode) (system : DeviceSystem) : Prop where
  nodes_eq : system.handle.devices.nodes = nodes
  filter : system.handle.devices.hasDeviceFilter = true
  built : ∀ program ∈ system.attached, BuiltFor nodes program
  enforced : system.handle.deviceFilter.isSome = true ∨
    system.handle.delegatedDeviceFilter.any (·.active) = true → system.attached ≠ []

theorem Confined.create (h : plan.hasDeviceFilter = true)
    (key : Option String) : Confined plan.nodes (.create plan key) where
  nodes_eq := rfl
  filter := h
  built := by simp [DeviceSystem.create]
  enforced := by cases key <;> simp [DeviceSystem.create]

/-- What one step keeps. -/
structure KeepsConfined (nodes : List DeviceNode) (system after : DeviceSystem) : Prop where
  confined : Confined nodes after
  kept : system.attached ≠ [] → after.attached ≠ []

section
variable {nodes : List DeviceNode} {system after : DeviceSystem}

section
variable (h : Confined nodes system)
include h

theorem Confined.keeps_self : KeepsConfined nodes system system := ⟨h, id⟩

theorem Confined.built_of_serves {next : List (List BpfInsn)}
    (hs : Serves nodes system.attached next) : ∀ program ∈ next, BuiltFor nodes program :=
  fun program hm => (hs.added program hm).elim (h.built program) id

/-- The handle stays as it was. -/
theorem Confined.keeps_of_serves (hh : after.handle = system.handle)
    (hs : Serves nodes system.attached after.attached) : KeepsConfined nodes system after where
  confined :=
    { nodes_eq := hh ▸ h.nodes_eq
      filter := hh ▸ h.filter
      built := h.built_of_serves hs
      enforced := fun hsy => hs.kept (h.enforced (hh ▸ hsy)) }
  kept := hs.kept

/-- The handle takes a plan for the same nodes, and something is attached. -/
theorem Confined.keeps_of_attached (hn : after.handle.devices.nodes = nodes)
    (hs : Serves nodes system.attached after.attached) (hne : after.attached ≠ []) :
    KeepsConfined nodes system after where
  confined :=
    { nodes_eq := hn
      filter := by
        have hf := h.filter
        rw [DevicePlan.hasDeviceFilter, h.nodes_eq] at hf
        rw [DevicePlan.hasDeviceFilter, hn]
        exact hf
      built := h.built_of_serves hs
      enforced := fun _ => hne }
  kept := hs.kept

theorem activateDeviceFilter_keeps (faults : DeviceFaults) :
    KeepsConfined nodes system (system.activateDeviceFilter faults).2 ∧
      ((system.activateDeviceFilter faults).1 = .ok () →
        (system.activateDeviceFilter faults).2.attached ≠ []) := by
  unfold DeviceSystem.activateDeviceFilter
  simp only [h.filter, Bool.not_true, Bool.false_eq_true, if_false]
  split
  · -- through the helper
    rename_i filter _ hd
    split
    · rename_i hac
      exact ⟨h.keeps_self, fun _ => h.enforced (.inr (by simp [hd, hac]))⟩
    · split
      · rename_i after hx
        obtain ⟨hh, hs, hn⟩ := exchange_spec h.filter (.inl rfl) hx
        rw [h.nodes_eq] at hs
        exact ⟨h.keeps_of_attached h.nodes_eq hs (hn rfl), fun _ => hn rfl⟩
      · rename_i after hx
        obtain ⟨hh, hs, -⟩ := exchange_spec h.filter (.inl rfl) hx
        rw [h.nodes_eq] at hs
        exact ⟨h.keeps_of_serves hh hs, nofun⟩
  · -- already attached
    rename_i hhl
    exact ⟨h.keeps_self, fun _ => h.enforced (.inl (by simp [hhl]))⟩
  · split
    · exact ⟨h.keeps_self, nofun⟩
    · rename_i hl
      obtain ⟨program, hnn, -⟩ := DevicePlan.loadCgroupDeviceProgram_spec h.filter hl
      cases hnn
    · rename_i hl
      obtain ⟨program, hso, hb⟩ := DevicePlan.loadCgroupDeviceProgram_spec h.filter hl
      cases hso
      rw [h.nodes_eq] at hb
      split
      · exact ⟨h.keeps_self, nofun⟩
      · rename_i ha
        obtain ⟨hs, hn⟩ := attachProgram_serves ha hb
        exact ⟨h.keeps_of_attached h.nodes_eq hs hn, fun _ => hn⟩

end

theorem updateFromResources_eq_some {plan : DevicePlan}
    (h : plan.updateFromResources resources = .ok (some next)) : next.nodes = plan.nodes := by
  cases resources with
  | none => cases h
  | some rules =>
    obtain ⟨policy, -, h⟩ := bind_eq_ok.mp h
    cases h
    rfl

section
variable (h : Confined nodes system)
include h

/-- An update changes to a plan for the same nodes; without the helper its program is loaded
    first. -/
theorem prepareUpdate_next {faults : UpdateFaults}
    (hp : system.prepareUpdate faults resources = .ok (some next, nextFilter)) :
    next.nodes = nodes ∧ next.hasDeviceFilter = true ∧ (system.handle.delegatedDeviceFilter = none →
        ∃ program, nextFilter = some program ∧ BuiltFor nodes program) := by
  simp only [DeviceSystem.prepareUpdate, bind_eq_ok, pure_eq_ok] at hp
  obtain ⟨-, -, nextDevices, hnx, loaded, hl, -, -, -, -, -, -, hpr⟩ := hp
  cases hpr
  have hn := (updateFromResources_eq_some hnx).trans h.nodes_eq
  have hf : next.hasDeviceFilter = true := by
    have hf := h.filter
    rw [DevicePlan.hasDeviceFilter, h.nodes_eq] at hf
    rw [DevicePlan.hasDeviceFilter, hn]
    exact hf
  refine ⟨hn, hf, fun hnn => ?_⟩
  simp only [DeviceSystem.loadNextFilter, hnn, Option.isNone_none, if_true] at hl
  rw [← hn]
  exact DevicePlan.loadCgroupDeviceProgram_spec hf hl

theorem updateDelegated_keeps (faults : UpdateFaults)
    (hn : next.nodes = nodes) (hf : next.hasDeviceFilter = true)
    (filter : DelegatedDeviceFilter) :
    KeepsConfined nodes system (system.updateDelegated faults next filter).2 := by
  have hr : ∀ {result after},
      system.requestDelegated faults.toDeviceFaults next filter = (result, after) →
      after.handle = system.handle ∧ Serves nodes system.attached after.attached ∧
        (result = .ok () → after.attached ≠ []) := by
    intro result after hr
    rw [← hn]
    unfold DeviceSystem.requestDelegated at hr
    rw [hf] at hr
    -- a plan with a filter is installed or replaced, never removed
    cases ha : filter.active with
    | false =>
      rw [ha] at hr
      exact exchange_spec hf (.inl rfl) hr
    | true =>
      rw [ha] at hr
      exact exchange_spec hf (.inr rfl) hr
  unfold DeviceSystem.updateDelegated
  split
  · rename_i hrs
    obtain ⟨hh, hs, -⟩ := hr hrs
    exact h.keeps_of_serves hh hs
  · rename_i hrs
    obtain ⟨-, hs, hne⟩ := hr hrs
    exact h.keeps_of_attached hn hs (hne rfl)

theorem updateFilter_keeps (faults : UpdateFaults)
    (hn : next.nodes = nodes) (hb : BuiltFor nodes program) :
    KeepsConfined nodes system (system.updateFilter faults next (some program)).2 := by
  unfold DeviceSystem.updateFilter
  split
  · exact h.keeps_self
  · rename_i attached hx
    have ha : ∃ replaced,
        attachProgram faults.toDeviceFaults program replaced system.attached = .ok attached := by
      unfold DeviceSystem.exchangeFilter at hx
      cases hc : system.handle.deviceFilter with
      | none => exact ⟨none, by rwa [hc] at hx⟩
      | some current => exact ⟨some current, by rwa [hc] at hx⟩
    obtain ⟨replaced, ha⟩ := ha
    obtain ⟨hs, hne⟩ := attachProgram_serves ha hb
    exact h.keeps_of_attached hn hs hne

theorem update_keeps (faults : UpdateFaults) (resources : Option (List LinuxDeviceCgroup)) :
    KeepsConfined nodes system (system.update faults resources).2 := by
  unfold DeviceSystem.update
  split
  · exact h.keeps_self
  · exact h.keeps_self
  · rename_i hp
    obtain ⟨hn, hf, hl⟩ := prepareUpdate_next h hp
    split
    · exact updateDelegated_keeps h faults hn hf _
    · rename_i hnn
      obtain ⟨program, rfl, hb⟩ := hl hnn
      exact updateFilter_keeps h faults hn hb

/-- **One step.** -/
theorem step_keeps (step : DeviceStep) : KeepsConfined nodes system (system.step step).2 := by
  cases step with
  | activate faults => exact (activateDeviceFilter_keeps h faults).1
  | update faults resources => exact update_keeps h faults resources

/-- **A whole run.** -/
theorem after_keeps (steps : List DeviceStep) :
    KeepsConfined nodes system (system.after steps) := by
  induction steps generalizing system with
  | nil => exact h.keeps_self
  | cons step rest ih =>
    have hs := step_keeps h step
    have hr := ih hs.confined
    exact ⟨hr.confined, hr.kept ∘ hs.kept⟩

end

end

/-! ## Result -/

/-- **Updates never widen the inventory.** Whatever a container is created with, however its filter
    is attached, and whatever its later updates ask for and end in: every attached program answers 0
    to every request for a device that is not configured, not a default device and no PTY. Once an
    activation has succeeded such a program always stays attached. -/
theorem updates_stay_in_inventory {devices : List LinuxDevice} {rules : List LinuxDeviceCgroup}
    {mounts : List MountPlan} {terminal isolated : Bool} {plan : DevicePlan}
    (hplan : DevicePlan.fromLinux devices rules mounts terminal isolated = .ok plan)
    (key : Option String) (steps : List DeviceStep) :
    (∀ request : DeviceRequest, request.inFixedInventory devices = false →
      ((DeviceSystem.create plan key).after steps).Denies request) ∧
    ∀ faults, (((DeviceSystem.create plan key).after steps).step (.activate faults)).1 = .ok () →
      ∀ later, ((DeviceSystem.create plan key).after
        (steps ++ .activate faults :: later)).attached ≠ [] := by
  obtain ⟨hf, hi⟩ := DevicePlan.fromLinux_spec hplan
  have hc := (after_keeps (.create hf key) steps).confined
  refine ⟨fun request hr program hm registers => ?_, fun faults ho later => ?_⟩
  · refine (hc.built program hm).denies (fun hin => ?_) registers
    rw [hi request hin] at hr
    cases hr
  · obtain ⟨hk, hn⟩ := activateDeviceFilter_keeps hc faults
    rw [DeviceSystem.after, List.foldl_append]
    exact (after_keeps hk.confined later).kept (hn ho)

def Sample.disk : LinuxDevice := ⟨"/dev/sda", .b, 8, 0, none, none, none⟩

def Sample.diskPlan : DevicePlan where
  nodes := defaultDeviceNodes ++ [⟨"/dev/sda", .block, 8, 0, 0o666, 0, 0⟩]
  accessPolicy := some Sample.blockPolicy
  terminal := false
  createNodes := true

def Sample.noFaults : DeviceFaults := ⟨none, none, none, .answered⟩

/-- Two updates that allow every device: one succeeds, one cannot attach its program. -/
def Sample.allowEverything : List DeviceStep :=
  let rules := [⟨true, some .a, none, none, some "rwm"⟩]
  [.update ⟨Sample.noFaults, none, none, none, none, []⟩ (some rules),
    .update ⟨{ Sample.noFaults with attach := some (Error.new .unavailable "try again") },
      none, none, none, none, ["memory.max: busy"]⟩ (some rules)]

/-- The other disk stays denied, by the one program that is attached. -/
theorem updates_stay_in_inventory_disk :
    (∀ request : DeviceRequest, request.inFixedInventory [Sample.disk] = false →
      ((DeviceSystem.create Sample.diskPlan none).after
        (.activate Sample.noFaults :: Sample.allowEverything)).Denies request) ∧
    (Sample.readBlock 8 1).inFixedInventory [Sample.disk] = false ∧
    ((DeviceSystem.create Sample.diskPlan none).after
      (.activate Sample.noFaults :: Sample.allowEverything)).attached.length = 1 := by
  have hp : DevicePlan.fromLinux [Sample.disk] (Sample.blockRules 8 0) [] false true =
      .ok Sample.diskPlan := by decide +kernel
  refine ⟨(updates_stay_in_inventory hp none _).1, ?_, ?_⟩ <;> decide +kernel

end OciRuntime
