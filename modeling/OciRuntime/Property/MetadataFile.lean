import OciRuntime.State.Calls
import OciRuntime.Shim.Validity

/-!
# `OciRuntime.Property.MetadataFile` — what the shim writes and what it reads back

A load refuses a metadata file of more than a megabyte; a store writes a file of any length. The
indented document takes at least thirteen bytes for every byte of a pending stdin write of an exec,
so two execs with full buffers make a file that no shim reads again. The other state that is not
read back is a restored task whose exit was observed before its Start barrier: there the store
itself refuses the value.

## Contents
- **Sizes.** `ShimMetadata.pendingBytes_le`.
- **Round trip.** `task_reads_back_iff`.
- **Full buffers.** `full_buffers_unreadable`.
-/

namespace OciRuntime

open Durable Program

/-! ## Sizes -/

/-- The bytes of stdin that wait for the runtime. -/
def ProcessJournal.pendingBytes (journal : ProcessJournal) : Nat :=
  (journal.pendingStdinWrite.map (·.data.length)).getD 0

/-- Every byte of an array of bytes stands on a line of its own. -/
theorem length_bytes_le (depth : Nat) (data : List UInt8) : data.length * (2 * depth + 5) ≤
      (Json.array (data.map fun byte => .number byte.toNat)).prettySize depth := by
  have hd : ∀ byte : UInt8, 1 ≤ Json.digitCount byte.toNat := by
    intro byte
    rw [Json.digitCount, Nat.succ_le_iff, List.length_pos_iff]
    exact Nat.toDigits_ne_nil
  have hl := Json.sum_le_prettySize_array depth (data.map fun byte => .number byte.toNat)
  refine le_trans ?_ hl
  rw [List.map_map]
  have hc := List.card_nsmul_le_sum (data.map
    ((fun item : Json => item.prettySize (depth + 1) + 2 * depth + 4) ∘
      fun byte => .number byte.toNat)) (2 * depth + 5) (by
    intro size hs
    obtain ⟨byte, -, rfl⟩ := List.mem_map.mp hs
    have := hd byte
    simp only [Function.comp_apply, Json.prettySize]
    omega)
  rw [List.length_map] at hc
  exact hc

variable (documents : String → Json)

/-- The payload of an exec lies at depth four. -/
theorem ExecMetadata.pendingBytes_le (exec : ExecMetadata) :
    exec.pendingBytes * 13 ≤ (exec.document documents).prettySize 2 := by
  unfold ProcessJournal.pendingBytes
  cases hp : exec.pendingStdinWrite with
  | none => simp
  | some write =>
    have hd := length_bytes_le 4 write.data
    have hw : (Json.array (write.data.map fun byte => .number byte.toNat)).prettySize 4 ≤
        write.document.prettySize 3 :=
      Json.prettySize_field_le 3 "data" (by simp)
    have hexe : write.document.prettySize 3 ≤ (exec.document documents).prettySize 2 := by
      refine Json.prettySize_field_le 2 "pending_stdin_write" ?_
      simp [ProcessJournal.journalFields, Json.optionalField, hp]
    simp only [Option.map_some, Option.getD_some]
    omega

/-- A file is at least thirteen times as long as the stdin its execs wait with. -/
theorem ShimMetadata.pendingBytes_le (md : ShimMetadata) :
    (md.execs.map (·.pendingBytes)).sum * 13 ≤ (md.document documents).prettySize 0 := by
  have hx : (Json.array (md.execs.map (·.document documents))).prettySize 1 ≤
      (md.document documents).prettySize 0 :=
    Json.prettySize_field_le 0 "execs" (by simp)
  have ht := Json.sum_le_prettySize_array 1 (md.execs.map (·.document documents))
  refine le_trans ?_ (ht.trans hx)
  induction md.execs with
  | nil => simp
  | cons exec rest ih =>
    have hexe : exec.pendingBytes * 13 ≤ (exec.document documents).prettySize (1 + 1) :=
      exec.pendingBytes_le documents
    simp only [List.map_cons, List.sum_cons] at ih ⊢
    omega

/-! ## Round trip -/

variable {documents}

/-- **What is read back.** Of every task that a shim can have in memory, the store writes a value that
    the load accepts and returns, unless the task is a restored one whose exit was observed before
    its Start barrier, or its document is longer than a megabyte. -/
theorem task_reads_back_iff {ids : ShimIdentities} {namespace_ taskId directory : String}
    {guard : Shim → ShimAction → Prop} {start shim : Shim} {task : TaskState}
    {decode : List UInt8 → Result ShimMetadata}
    (hrun : Shim.Runs ids documents namespace_ taskId directory guard start shim)
    (hstart : start.task = none) (htask : shim.task = some task)
    (hdec : decode ((metadataFromTask task).encoded documents) = .ok (metadataFromTask task)) :
    ((metadataFromTask task).store documents ids >>= fun bytes =>
        ShimMetadata.load ids decode task.bundle (some bytes)) =
        .ok (some (metadataFromTask task)) ↔
      ¬(task.restoreState = .pendingStart ∧ task.exit.isSome = true) ∧
      ((metadataFromTask task).document documents).prettySize 0 ≤ maxMetadataBytes := by
  have hv : task.Valid ids := by
    refine hrun.valid (fun other ht => ?_) task htask
    rw [hstart] at ht
    cases ht
  have hl : ((metadataFromTask task).encoded documents).length =
      ((metadataFromTask task).document documents).prettySize 0 := Json.length_pretty _
  rw [← hv.validate_eq_ok_iff, ← hl]
  simp only [ShimMetadata.store, ShimMetadata.load, bind_eq_ok, rejectIf_eq_ok, not_lt,
    Except.ok.injEq]
  constructor
  · rintro ⟨bytes, ⟨_, hr, rfl⟩, _, hs, -⟩
    exact ⟨hr, hs⟩
  · rintro ⟨hr, hs⟩
    exact ⟨_, ⟨(), hr, rfl⟩, (), hs, _, hdec, (), hr, rfl⟩

namespace Sample

/-- Every digest of the shim is a constant. -/
def shimIds : ShimIdentities where
  containerId _ _ := web
  processId _ _ _ _ := ⟨⟨"p", by decide⟩⟩
  operationId _ _ _ _ _ := opA
  updateRequestDigest _ := ""

def shimDocuments : String → Json := .string

/-- The task `web` of the namespace `ns`, with a stdin FIFO. -/
def newTask (restored : Bool) : NewTask where
  identity := ⟨"ns", "web", none, web⟩
  bundle := "/b"
  stdin := "in"
  stdout := "out"
  stderr := "err"
  terminal := false
  restored := restored
  rootfsMounted := false

/-- The runtime's record of `web` in its first generation. -/
def taskRecord (status : ContainerState) : ContainerRecord where
  state := ⟨"1.3.0", "web", status, some 7, "/b", none⟩
  generation := 1
  driver := .nativeLinux
  isolation := .sharedHostKernel
  guestSession := none
  networkEnforcement := none
  configDigest := "config"
  attachmentsDigest := none

/-- The shim of `web` from an empty bundle on. -/
abbrev ShimRuns (shim : Shim) : Prop :=
  Shim.Runs shimIds shimDocuments "ns" "web" "/b" (fun _ _ => True) .empty shim

def shimAfter (actions : List ShimAction) : Shim :=
  Shim.empty.run shimIds shimDocuments "ns" "web" "/b" actions

theorem newTask_admitted (restored : Bool) (status : ContainerState) :
    (newTask restored).Admitted shimIds (taskRecord status) 0 :=
  ⟨Nat.zero_lt_one, show "/b".startsWith "/" = true by decide +kernel, rfl⟩

theorem shimRuns_created (restored : Bool) :
    ShimRuns (shimAfter [.create (newTask restored) (taskRecord .running) .written]) :=
  .step (.create (newTask restored) (taskRecord .running) .written) .init
    (newTask_admitted restored .running) trivial

end Sample

/-! ## Full buffers -/

namespace Sample

def base : TaskState := .created (newTask false) (taskRecord .running)

/-- An exec that waits with its first chunk of stdin. -/
def waiting (task : TaskState) (execId : String) (data : List UInt8) : ExecMetadata :=
  { task.newExec execId "" "in" "" "" false with pendingStdinWrite := some ⟨1, data⟩ }

/-- `web` after its execs `a` and `b` were added and have read a chunk each. -/
def oneWaiting (data : List UInt8) : TaskState :=
  { base with execSequence := 1, execs := [waiting base "a" data] }

def twoWaiting (data : List UInt8) : TaskState :=
  { base with execSequence := 2, execs := [waiting base "a" data, waiting (oneWaiting data) "b" data] }

end Sample

section Buffers

open Sample

variable {data : List UInt8}

theorem Sample.addFirst : ShimCall.apply shimIds base (.addExec "a" "" "in" "" "" false) =
    .ok (some { base with
      execSequence := 1, execs := [base.newExec "a" "" "in" "" "" false] }) := rfl

theorem Sample.fillFirst (hd : PendingStdinWrite.validate ⟨1, data⟩ = .ok ()) :
    ShimCall.apply shimIds
      { base with execSequence := 1, execs := [base.newExec "a" "" "in" "" "" false] }
      (.prepareStdin (some "a") 1 data) = .ok (some (oneWaiting data)) := by
  simp [ShimCall.apply, TaskState.withJournal, TaskState.journal, TaskState.exec,
    ProcessJournal.prepareStdin, PendingStdinWrite.new, hd]
  rfl

theorem Sample.addSecond : ShimCall.apply shimIds (oneWaiting data)
    (.addExec "b" "" "in" "" "" false) = .ok (some { base with
      execSequence := 2
      execs := [waiting base "a" data, (oneWaiting data).newExec "b" "" "in" "" "" false] }) := by
  have hr : ¬("b" < "a") := by decide
  have hl : TaskState.insertExec ((oneWaiting data).newExec "b" "" "in" "" "" false)
      (oneWaiting data).execs =
      [waiting base "a" data, (oneWaiting data).newExec "b" "" "in" "" "" false] := if_neg hr
  have ha : (oneWaiting data).exec "b" = none := by
    simp [TaskState.exec, oneWaiting, waiting, TaskState.newExec]
  simp only [ShimCall.apply, TaskState.addExec, ha, hl]
  rfl

theorem Sample.fillSecond (hd : PendingStdinWrite.validate ⟨1, data⟩ = .ok ()) :
    ShimCall.apply shimIds { base with
      execSequence := 2
      execs := [waiting base "a" data, (oneWaiting data).newExec "b" "" "in" "" "" false] }
      (.prepareStdin (some "b") 1 data) = .ok (some (twoWaiting data)) := by
  have ht : ¬("a" = "b") := by decide
  simp [ShimCall.apply, TaskState.withJournal, TaskState.journal, TaskState.exec, waiting,
    TaskState.newExec, ProcessJournal.prepareStdin, PendingStdinWrite.new, hd, ht]
  rfl

/-- A section of a run whose store succeeds. -/
theorem Sample.shimRuns_call (h : ShimRuns shim) (ht : shim.task = some task)
    {r : ShimCall} (ha : r.Admitted task)
    (hp : r.apply shimIds task = .ok (some ch))
    (hpl : ch.restoreState = .none) :
    ShimRuns { shim with file := some (metadataFromTask ch), task := some ch } := by
  have hv : task.Valid shimIds := h.valid (by rintro _ ⟨⟩) task ht
  have hs : shim.step shimIds shimDocuments "ns" "web" "/b" (.call r .written) =
      { shim with file := some (metadataFromTask ch), task := some ch } := by
    simp only [Shim.step, ht]
    refine Shim.call_written hv ha hp fun hx => ?_
    rw [hpl] at hx
    cases hx.1
  rw [← hs]
  refine .step (.call r .written) h (fun other hth => ?_) trivial
  rw [ht] at hth
  cases hth
  exact ha

theorem Sample.shimRuns_twoWaiting (hd : PendingStdinWrite.validate ⟨1, data⟩ = .ok ()) :
    ∃ shim, ShimRuns shim ∧ shim.task = some (twoWaiting data) ∧
      shim.file = some (metadataFromTask (twoWaiting data)) := by
  have ht : (shimAfter [.create (newTask false) (taskRecord .running) .written]).task =
      some base := by decide +kernel
  have ha : ∀ task : TaskState, (∀ exec ∈ task.execs, exec.stdin = "in") →
      ∀ execId sq, (ShimCall.prepareStdin (some execId) sq data).Admitted task := by
    intro task hx execId sq journal hj
    obtain ⟨exec, hexe, rfl⟩ := Option.map_eq_some_iff.mp hj
    rw [hx exec (TaskState.exec_eq_some hexe).1]
    decide
  have hf := shimRuns_call (shimRuns_created false) ht (by trivial) addFirst rfl
  have hfr := shimRuns_call hf rfl
    (ha _ (by simp [TaskState.newExec, ProcessJournal.new]) _ _) (fillFirst hd) rfl
  have hs := shimRuns_call hfr rfl (by trivial) addSecond rfl
  have hsc := shimRuns_call hs rfl
    (ha _ (by simp [TaskState.newExec, waiting, ProcessJournal.new]) _ _)
    (fillSecond hd) rfl
  exact ⟨_, hsc, rfl, rfl⟩

/-- An exit that is observed before the Start barrier of a restored task. -/
def Sample.exitedEarly : Shim :=
  shimAfter [.create (newTask true) (taskRecord .running) .written,
    .recordExit none ⟨some 0, none, false⟩ 7 5 .written]

theorem Sample.shimRuns_exitedEarly : ShimRuns exitedEarly :=
  .step (.recordExit none ⟨some 0, none, false⟩ 7 5 .written) (shimRuns_created true) trivial
    trivial

/-- Two execs that wait with full buffers make a file that is written and then never read; and a
    restored task that exits early is a task that is never written. -/
theorem full_buffers_unreadable : (∃ data shim, data.length = maxPendingStdinBytes ∧ ShimRuns shim ∧
      shim.task = some (twoWaiting data) ∧
      shim.file = some (metadataFromTask (twoWaiting data)) ∧
      (metadataFromTask (twoWaiting data)).store shimDocuments shimIds =
        .ok ((metadataFromTask (twoWaiting data)).encoded shimDocuments) ∧
      ∀ decode, ShimMetadata.load shimIds decode "/b"
          (some ((metadataFromTask (twoWaiting data)).encoded shimDocuments)) =
        .error (metadataError
          "shim metadata /b/a3s-oci-shim-v1.json exceeds the 1048576-byte limit")) ∧
    ShimRuns exitedEarly ∧ ∃ task, exitedEarly.task = some task ∧
      (metadataFromTask task).store shimDocuments shimIds = .error (metadataError
        ("a pending containerd checkpoint restore cannot retain control, exit, or exec state")) := by
  refine ⟨?_, shimRuns_exitedEarly, ?_⟩
  · obtain ⟨data, hl⟩ : ∃ data : List UInt8, data.length = maxPendingStdinBytes :=
      ⟨List.replicate maxPendingStdinBytes 0, List.length_replicate⟩
    have hd : PendingStdinWrite.validate ⟨1, data⟩ = .ok () := by
      have hn : data ≠ [] := by
        rintro rfl
        cases hl
      simp [PendingStdinWrite.validate, unit_bind_eq_ok, hl, hn]
    obtain ⟨shim, hr, ht, hf⟩ := shimRuns_twoWaiting hd
    have hv : (twoWaiting data).Valid shimIds :=
      hr.valid (by rintro _ ⟨⟩) _ ht
    have hrl := hv.validate_eq_ok_iff.mpr (fun hx => by cases hx.1)
    -- the two payloads alone are longer than the limit
    have hs : maxMetadataBytes <
        ((metadataFromTask (twoWaiting data)).encoded shimDocuments).length := by
      have hp : ((metadataFromTask (twoWaiting data)).execs.map (·.pendingBytes)).sum =
          data.length + (data.length + 0) := rfl
      have hle := (metadataFromTask (twoWaiting data)).pendingBytes_le shimDocuments
      rw [hp, hl] at hle
      rw [ShimMetadata.encoded, Json.length_pretty]
      refine lt_of_lt_of_le ?_ hle
      decide
    refine ⟨data, shim, hl, hr, ht, hf, ?_, fun decode => ?_⟩
    · rw [ShimMetadata.store, unit_bind_eq_ok]
      exact ⟨hrl, rfl⟩
    · rw [ShimMetadata.load, bind_eq_error]
      exact .inl (rejectIf_eq_error.mpr ⟨hs, by decide⟩)
  · refine ⟨{ TaskState.created (newTask true) (taskRecord .running) with
      exit := some ⟨some 0, none, false⟩, exitedAt := some 5 }, by decide +kernel, ?_⟩
    decide +kernel

/-- Two execs that wait with short chunks. -/
theorem waiting_execs_read_back : ∃ shim, ShimRuns shim ∧
    shim.task = some (twoWaiting [104, 105]) ∧
    ((metadataFromTask (twoWaiting [104, 105])).store shimDocuments shimIds >>= fun bytes =>
      ShimMetadata.load shimIds (fun _ => .ok (metadataFromTask (twoWaiting [104, 105]))) "/b"
        (some bytes)) = .ok (some (metadataFromTask (twoWaiting [104, 105]))) := by
  have hd : PendingStdinWrite.validate ⟨1, [104, 105]⟩ = .ok () := by decide
  obtain ⟨shim, hr, ht, -⟩ := shimRuns_twoWaiting hd
  exact ⟨shim, hr, ht, (task_reads_back_iff hr rfl ht rfl).mpr (by decide +kernel)⟩

end Buffers

end OciRuntime
