import OciRuntime.State.Calls

/-!
# `OciRuntime.Commit.Bare` — stores without transaction files

A crash in the middle of an atomic write leaves a transaction file next to its target. `Store.bare`
is the store without them, so two stores hold the same files if they are equal once bare. All
queries but one give the same answer on a store and its bare form, and every change of the store is
a change of its bare form.

## Contents
- **Bare stores.** `Store.bare`, `SameFiles`.
- **Changes.** One lemma for each single-file commit.
- **Queries.** `Blind`: one lemma for each query that a program makes.
-/

namespace OciRuntime

open Durable Program

/-! ## Bare stores -/

/-- A container directory without transaction files. -/
def ContainerDirectory.bare (d : ContainerDirectory) : ContainerDirectory :=
  { d with
    processes := d.processes.map (·.bare), configTransaction := false, recordTransaction := false }

/-- The event journal without transaction files. -/
def EventJournal.bare (e : EventJournal) : EventJournal :=
  { e with cursorTransaction := false, keys := e.keys.bare, records := e.records.bare }

/-- The store without transaction files. -/
def Store.bare (s : Store) : Store where
  operations := s.operations.bare
  generations := s.generations.bare
  containers := (s.containers.map (·.bare)).bare
  quarantine := (s.quarantine.map (·.bare)).bare
  events := s.events.bare
  strays := s.strays

/-- The stores differ in transaction files only. -/
def SameFiles (s t : Store) : Prop := s.bare = t.bare

section Bare

variable (d : ContainerDirectory) (s : Store) (id : ContainerId)

@[simp] theorem ContainerDirectory.bare_config : d.bare.config = d.config := rfl

@[simp] theorem ContainerDirectory.bare_record : d.bare.record = d.record := rfl

@[simp] theorem ContainerDirectory.bare_strays : d.bare.strays = d.strays := rfl

@[simp] theorem ContainerDirectory.bare_processes :
    d.bare.processes = d.processes.map (·.bare) := rfl

@[simp] theorem Store.bare_container :
    s.bare.containers.get? id = (s.containers.get? id).map (·.bare) := by
  simp only [Store.bare, Directory.get?_bare, Directory.get?_map]

@[simp] theorem Store.bare_quarantine (tb : Tombstone) :
    s.bare.quarantine.get? tb = (s.quarantine.get? tb).map (·.bare) := by
  simp only [Store.bare, Directory.get?_bare, Directory.get?_map]

end Bare

/-! ## Changes -/

section Changes

variable {s t : Store} {id : ContainerId}

theorem sameFiles_iff : SameFiles s t ↔ s.operations.bare = t.operations.bare ∧
      s.generations.bare = t.generations.bare ∧
      (s.containers.map (·.bare)).bare = (t.containers.map (·.bare)).bare ∧
      (s.quarantine.map (·.bare)).bare = (t.quarantine.map (·.bare)).bare ∧
      s.events.bare = t.events.bare ∧ s.strays = t.strays := by
  simp only [SameFiles, Store.bare, Store.mk.injEq]

/-- Writing directories that agree once bare. -/
theorem map_bare_write_congr {κ : Type} [DecidableEq κ] {c c' : Directory κ ContainerDirectory}
    (k : κ) (h : (c.map (·.bare)).bare = (c'.map (·.bare)).bare) (hd : d.bare = d'.bare) :
    ((c.write k d).map (·.bare)).bare = ((c'.write k d').map (·.bare)).bare := by
  rw [Directory.map_write, Directory.map_write, hd]
  exact Directory.bare_write_congr k _ h

theorem map_bare_remove_congr {κ : Type} [DecidableEq κ]
    {c c' : Directory κ ContainerDirectory} (k : κ)
    (h : (c.map (·.bare)).bare = (c'.map (·.bare)).bare) :
    ((c.remove k).map (·.bare)).bare = ((c'.remove k).map (·.bare)).bare := by
  rw [Directory.map_remove, Directory.map_remove]
  exact congrArg (Directory.remove · k) h

section
variable (h : SameFiles s t)
include h

theorem SameFiles.writeOperation (op : StoredOperation) :
    SameFiles (s.writeOperation op) (t.writeOperation op) := by
  obtain ⟨hp, hr⟩ := sameFiles_iff.mp h
  exact sameFiles_iff.mpr ⟨Directory.bare_write_congr _ _ hp, hr⟩

theorem SameFiles.writeGeneration (g : StoredGeneration) :
    SameFiles (s.writeGeneration g) (t.writeGeneration g) := by
  obtain ⟨hp, hg, hr⟩ := sameFiles_iff.mp h
  exact sameFiles_iff.mpr ⟨hp, Directory.bare_write_congr _ _ hg, hr⟩

/-- The live directories of one ID agree once bare. -/
theorem SameFiles.container (id : ContainerId) :
    (s.containers.get? id).map (·.bare) = (t.containers.get? id).map (·.bare) := by
  rw [← Store.bare_container, ← Store.bare_container, show s.bare = t.bare from h]

theorem SameFiles.setContainers
    (hc : (containers.map (·.bare)).bare = (containers'.map (·.bare)).bare) :
    SameFiles { s with containers } { t with containers := containers' } := by
  obtain ⟨hp, hg, -, hr⟩ := sameFiles_iff.mp h
  exact sameFiles_iff.mpr ⟨hp, hg, hc, hr⟩

theorem SameFiles.modifyContainer {change : ContainerDirectory → ContainerDirectory}
    (hc : ∀ d d', d.bare = d'.bare → (change d).bare = (change d').bare) :
    SameFiles (s.modifyContainer id change) (t.modifyContainer id change) := by
  have hdr := h.container id
  obtain ⟨-, -, hcn, -⟩ := sameFiles_iff.mp h
  unfold Store.modifyContainer
  cases hs : s.containers.get? id with
  | none =>
    rw [hs] at hdr
    rw [Option.map_eq_none_iff.mp hdr.symm]
    exact h
  | some d =>
    rw [hs] at hdr
    obtain ⟨d', hd', hb⟩ := Option.map_eq_some_iff.mp hdr.symm
    rw [hd']
    exact h.setContainers (map_bare_write_congr id hcn (hc d d' hb.symm))

end

/-- The parts of a directory that its bare form shows. -/
theorem ContainerDirectory.bare_eq_iff {d d' : ContainerDirectory} :
    d.bare = d'.bare ↔ d.config = d'.config ∧ d.record = d'.record ∧
      d.processes.map (·.bare) = d'.processes.map (·.bare) ∧ d.strays = d'.strays := by
  simp only [ContainerDirectory.bare, ContainerDirectory.mk.injEq, true_and]

section
variable (h : SameFiles s t)
include h

theorem SameFiles.writeContainer (sc : StoredContainer) :
    SameFiles (s.writeContainer sc) (t.writeContainer sc) := by
  refine h.modifyContainer fun d d' hd => ?_
  obtain ⟨hc, -, hr⟩ := ContainerDirectory.bare_eq_iff.mp hd
  exact ContainerDirectory.bare_eq_iff.mpr ⟨hc, rfl, hr⟩

theorem SameFiles.writeConfig (configJson : String) :
    SameFiles (s.writeConfig id configJson) (t.writeConfig id configJson) := by
  refine h.modifyContainer fun d d' hd => ?_
  obtain ⟨-, hr⟩ := ContainerDirectory.bare_eq_iff.mp hd
  exact ContainerDirectory.bare_eq_iff.mpr ⟨rfl, hr⟩

theorem SameFiles.createContainerDirectory :
    SameFiles (s.createContainerDirectory id) (t.createContainerDirectory id) := by
  obtain ⟨-, -, hc, -⟩ := sameFiles_iff.mp h
  exact h.setContainers (map_bare_write_congr id hc rfl)

theorem SameFiles.createProcessDirectory :
    SameFiles (s.createProcessDirectory id) (t.createProcessDirectory id) := by
  refine h.modifyContainer fun d d' hd => ?_
  obtain ⟨hc, hr, -, hs⟩ := ContainerDirectory.bare_eq_iff.mp hd
  exact ContainerDirectory.bare_eq_iff.mpr ⟨hc, hr, rfl, hs⟩

theorem SameFiles.writeProcess (pr : StoredProcess) :
    SameFiles (s.writeProcess pr) (t.writeProcess pr) := by
  refine h.modifyContainer fun d d' hd => ?_
  obtain ⟨hc, hr, hp, hs⟩ := ContainerDirectory.bare_eq_iff.mp hd
  refine ContainerDirectory.bare_eq_iff.mpr ⟨hc, hr, ?_, hs⟩
  cases hps : d.processes with
  | none =>
    rw [hps] at hp
    rw [Option.map_eq_none_iff.mp hp.symm]
  | some ps =>
    rw [hps] at hp
    obtain ⟨ps', hps', hb⟩ := Option.map_eq_some_iff.mp hp.symm
    rw [hps']
    exact congrArg some (Directory.bare_write_congr _ _ hb.symm)

theorem SameFiles.quarantineContainer (tb : Tombstone) :
    SameFiles (s.quarantineContainer id tb) (t.quarantineContainer id tb) := by
  have hdr := h.container id
  obtain ⟨hp, hg, hc, hq, hr⟩ := sameFiles_iff.mp h
  unfold Store.quarantineContainer
  cases hs : s.containers.get? id with
  | none =>
    rw [hs] at hdr
    rw [Option.map_eq_none_iff.mp hdr.symm]
    exact h
  | some d =>
    rw [hs] at hdr
    obtain ⟨d', hd', hb⟩ := Option.map_eq_some_iff.mp hdr.symm
    rw [hd']
    exact sameFiles_iff.mpr ⟨hp, hg, map_bare_remove_congr id hc,
      map_bare_write_congr tb hq hb.symm, hr⟩

/-- Only the event journal changes. -/
theorem SameFiles.setEvents (hev : events.bare = events'.bare) :
    SameFiles { s with events } { t with events := events' } := by
  obtain ⟨hp, hg, hc, hq, -, hs⟩ := sameFiles_iff.mp h
  exact sameFiles_iff.mpr ⟨hp, hg, hc, hq, hev, hs⟩

end

/-- The parts of the event journal that its bare form shows. -/
theorem EventJournal.bare_eq_iff {e e' : EventJournal} :
    e.bare = e'.bare ↔ e.cursor = e'.cursor ∧ e.keys.bare = e'.keys.bare ∧
      e.records.bare = e'.records.bare ∧ e.strays = e'.strays := by
  simp only [EventJournal.bare, EventJournal.mk.injEq, true_and]

theorem SameFiles.events (h : SameFiles s t) : s.events.bare = t.events.bare :=
  (sameFiles_iff.mp h).2.2.2.2.1

theorem SameFiles.writeCursor (h : SameFiles s t) (last : Nat) :
    SameFiles (s.writeCursor last) (t.writeCursor last) := by
  obtain ⟨-, hr⟩ := EventJournal.bare_eq_iff.mp h.events
  exact h.setEvents (EventJournal.bare_eq_iff.mpr ⟨rfl, hr⟩)

theorem SameFiles.writeEventClaim (h : SameFiles s t) (claim : StoredEventClaim) :
    SameFiles (s.writeEventClaim claim) (t.writeEventClaim claim) := by
  obtain ⟨hc, hk, hr⟩ := EventJournal.bare_eq_iff.mp h.events
  exact h.setEvents (EventJournal.bare_eq_iff.mpr ⟨hc, Directory.bare_write_congr _ _ hk, hr⟩)

theorem SameFiles.writeEventRecord (h : SameFiles s t) (rc : StoredEventRecord) :
    SameFiles (s.writeEventRecord rc) (t.writeEventRecord rc) := by
  obtain ⟨hc, hk, hr, hs⟩ := EventJournal.bare_eq_iff.mp h.events
  exact h.setEvents (EventJournal.bare_eq_iff.mpr ⟨hc, hk, Directory.bare_write_congr _ _ hr, hs⟩)

end Changes

/-! ## Queries -/

/-- The query does not look at transaction files. -/
class Blind {α : Type} (query : Store → Result α) : Prop where
  unchanged : ∀ s, query s.bare = query s

theorem Blind.sameFiles (h : Blind query) (hs : SameFiles s t) : query s = query t := by
  rw [← h.unchanged s, ← h.unchanged t, show s.bare = t.bare from hs]

section Queries

variable (sdk : Sdk) (id : ContainerId) (sc : StoredContainer) (op : StoredOperation)
  (target : ContainerTarget) (pr : StoredProcess) (name : String)

instance (o : OperationId) : Blind (loadOperation sdk o) := ⟨fun _ => rfl⟩

instance blind_loadOperationIfPresent (o : OperationId) : Blind (loadOperationIfPresent sdk o) :=
  ⟨fun _ => rfl⟩

instance blind_loadStoredContainer : Blind (loadStoredContainer sdk id) := by
  refine ⟨fun s => ?_⟩
  unfold loadStoredContainer
  rw [Store.bare_container]
  cases s.containers.get? id with
  | none => rfl
  | some d => rfl

instance blind_loadStoredExact (g : Nat) : Blind (loadStoredExact sdk id g) := by
  refine ⟨fun s => ?_⟩
  unfold loadStoredExact
  rw [(blind_loadStoredContainer _ _).unchanged]

instance blind_loadRequested : Blind (loadRequested sdk target name) := by
  refine ⟨fun s => ?_⟩
  unfold loadRequested
  rw [(blind_loadStoredContainer _ _).unchanged]

instance : Blind (loadForReplay sdk op) := by
  refine ⟨fun s => ?_⟩
  unfold loadForReplay
  rw [(blind_loadStoredContainer _ _).unchanged]

instance : Blind (loadForCompletion sdk op name) := by
  refine ⟨fun s => ?_⟩
  unfold loadForCompletion
  rw [(blind_loadStoredContainer _ _).unchanged]

instance : Blind (loadAttestationTarget sdk target) := by
  refine ⟨fun s => ?_⟩
  unfold loadAttestationTarget
  rw [(blind_loadStoredContainer _ _).unchanged]

instance blind_loadCheckpointTarget : Blind (loadCheckpointTarget sdk target) := by
  refine ⟨fun s => ?_⟩
  unfold loadCheckpointTarget
  rw [(blind_loadStoredContainer _ _).unchanged]

instance : Blind (ensureLiveGenerationReplaced sdk op name) := by
  refine ⟨fun s => ?_⟩
  unfold ensureLiveGenerationReplaced
  rw [(blind_loadStoredContainer _ _).unchanged]

/-- The bindings of an attestation come from the record and the snapshot. -/
instance : Blind (validateAttestationSource sdk sc) := by
  refine ⟨fun s => ?_⟩
  unfold validateAttestationSource Store.directory
  rw [Store.bare_container]
  cases s.containers.get? sc.id with
  | none => rfl
  | some d => rfl

instance : Blind fun s => .ok (s.containers.get? id).isSome := by
  refine ⟨fun s => ?_⟩
  simp only [Store.bare_container, Option.isSome_map]

instance (tb : Tombstone) : Blind fun s => .ok (s.quarantine.get? tb).isSome := by
  refine ⟨fun s => ?_⟩
  simp only [Store.bare_quarantine, Option.isSome_map]

instance blind_deletePresence : Blind fun s => .ok (deletePresence op s) := by
  refine ⟨fun s => ?_⟩
  simp only [deletePresence, Store.bare_container, Store.bare_quarantine, Option.isSome_map]

instance : Blind fun s => .ok ((s.containers.get? id).bind (·.config)) := by
  refine ⟨fun s => ?_⟩
  simp only [Store.bare_container, Option.bind_map, Function.comp_def,
    ContainerDirectory.bare_config]

instance : Blind fun s => .ok ((s.containers.get? id).bind (·.record)) := by
  refine ⟨fun s => ?_⟩
  simp only [Store.bare_container, Option.bind_map, Function.comp_def,
    ContainerDirectory.bare_record]

/-- The process directory of a bare store. -/
theorem Store.bare_processes (s : Store) : (s.bare.containers.get? id).bind (·.processes) =
      ((s.containers.get? id).bind (·.processes)).map (·.bare) := by
  rw [Store.bare_container]
  cases s.containers.get? id with
  | none => rfl
  | some d => rfl

instance : Blind fun s => .ok ((s.containers.get? id).bind (·.processes)).isSome := by
  refine ⟨fun s => ?_⟩
  simp only [Store.bare_processes, Option.isSome_map]

theorem Store.bare_process? (target : ProcessTarget) (s : Store) :
    s.bare.process? target = s.process? target := by
  unfold Store.process?
  rw [Store.bare_container]
  cases s.containers.get? target.container.id with
  | none => rfl
  | some d => cases hp : d.processes <;> simp [hp]

instance (target : ProcessTarget) : Blind fun s => .ok (s.process? target) := by
  refine ⟨fun s => ?_⟩
  simp only [Store.bare_process?]

instance blind_loadStoredProcess (target : ProcessTarget) : Blind (loadStoredProcess target) := by
  refine ⟨fun s => ?_⟩
  unfold loadStoredProcess
  rw [Store.bare_process?]

instance (target : ProcessTarget) : Blind (validateSignalTarget sc target) := by
  refine ⟨fun s => ?_⟩
  unfold validateSignalTarget
  rw [(blind_loadStoredProcess _).unchanged]

instance (target : ProcessTarget) : Blind (validateProcessIoTarget sc target name) := by
  refine ⟨fun s => ?_⟩
  unfold validateProcessIoTarget
  rw [(blind_loadStoredProcess _).unchanged]

/-- A name that is not the valid name of a transaction file. -/
def isLasting (fileName : String) : Bool :=
  (stripTransaction fileName).all fun value => !(ProcessId.new value).isOk

theorem isLasting_transaction (p : ProcessId) : isLasting (processTransactionName p) = false := by
  have hs : stripTransaction (processTransactionName p) = some p.value := by
    have hn : (processTransactionName p).toList = '.' :: (p.value ++ ".json.next").toList := by
      simp [processTransactionName]
    rw [stripTransaction, hn]
    exact stripSuffix_eq_some.mpr String.ofList_toList
  rw [isLasting, hs, Option.all_some, ProcessId.new_value]
  rfl

theorem processListing_bare (ps : Directory ProcessId StoredProcess) :
    (processListing sdk ps.bare).filter isLasting = (processListing sdk ps).filter isLasting := by
  have ht : (ps.transactions.map processTransactionName).filter isLasting = [] := by
    simp [List.filter_eq_nil_iff, isLasting_transaction]
  refine sdk.listing.filter_sort ?_
  simp [List.filter_append, ht, Directory.bare, Directory.entries]

/-- Recovery of executed processes passes over transaction files. -/
theorem liveProcesses_lasting (names : List String) :
    liveProcesses sc s (names.filter isLasting) = liveProcesses sc s names := by
  induction names with
  | nil => rfl
  | cons fileName rest ih =>
    rw [List.filter_cons]
    split
    · rw [liveProcesses, liveProcesses, ih]
    · rename_i hl
      rw [liveProcesses, ih]
      unfold isLasting at hl
      cases hs : stripTransaction fileName with
      | none => simp [hs] at hl
      | some value =>
        cases hn : ProcessId.new value with
        | error e => simp [hs, hn, Except.isOk, Except.toBool] at hl
        | ok p => simp [hn, Except.mapError, bind, Except.bind]

theorem liveProcesses_bare (names : List String) :
    liveProcesses sc s.bare names = liveProcesses sc s names := by
  induction names with
  | nil => rfl
  | cons fileName rest ih =>
    rw [liveProcesses, liveProcesses, ih]
    simp only [(blind_loadStoredProcess _).unchanged]

instance : Blind (loadLiveProcesses sdk sc) := by
  refine ⟨fun s => ?_⟩
  unfold loadLiveProcesses
  rw [Store.bare_processes]
  cases (s.containers.get? sc.id).bind (·.processes) with
  | none => rfl
  | some ps =>
    dsimp only [Option.map_some]
    rw [liveProcesses_bare, ← liveProcesses_lasting, processListing_bare, liveProcesses_lasting]

instance (mutation : ClaimMutation) :
    Blind (vacateLifecycleClaim sdk sc mutation name) := ⟨fun _ => rfl⟩

instance : Blind (vacateProcessClaim sdk pr name) := ⟨fun _ => rfl⟩

instance : Blind (observedActive sdk sc) := ⟨fun _ => rfl⟩

instance (allowed : StoredOperationKind → Bool) :
    Blind (activeAllowsRebind sdk sc allowed) := ⟨fun _ => rfl⟩

instance : Blind (ensureInitIoLifecycleCompatible sdk sc name) := ⟨fun _ => rfl⟩

instance : Blind (ensureProcessIoLifecycleCompatible sdk sc name) := ⟨fun _ => rfl⟩

instance : Blind loadEventCursor := ⟨fun _ => rfl⟩

instance (i : EventIdentity) (claim : StoredEventClaim) :
    Blind (loadEventClaim i claim) := ⟨fun _ => rfl⟩

instance (label : String) : Blind fun s => listEvents label s.events.keys :=
  ⟨fun _ => rfl⟩

instance (label : String) : Blind fun s => listEvents label s.events.records :=
  ⟨fun _ => rfl⟩

instance (i : EventIdentity) : Blind fun s => .ok (s.events.keys.get? i) := ⟨fun _ => rfl⟩

instance (sequence : Nat) : Blind fun s => .ok (s.events.records.get? sequence) := ⟨fun _ => rfl⟩

end Queries

end OciRuntime
