import OciRuntime.Property.MetadataFile
import OciRuntime.Shim.Identity

/-!
# `OciRuntime.Property.OperationIds` — what the names of the shim's operations tell apart

The components of an operation can be read back from what is hashed, and an action is a sequence of
words without a dash, so an operation can be read back from its name. The exception is an exec's
signal: the number in its action is a journal sequence on one path and the signal itself on the
other.

## Contents
- **Actions.** `ShimOperation.words`, `ShimOperation.words_eq_of_action`.
- **Components.** `execComponents_injective`.
- **Names.** `IssuedOperation`, `operation_ids_tell_apart`.
- **The exception.** `cleanup_signal_takes_a_journaled_id`.
-/

namespace OciRuntime

open Durable Framing

variable {sha256 : List UInt8 → HexDigest} {a b : ShimOperation}

/-- No two of the inputs have one digest. -/
def CollisionFree (sha256 : List UInt8 → HexDigest) (inputs : List (List UInt8)) : Prop :=
  ∀ x ∈ inputs, ∀ y ∈ inputs, sha256 x = sha256 y → x = y

/-! ## Actions -/

namespace ShimOperation

/-- The words of an action. -/
def words (sha256 : List UInt8 → HexDigest) : ShimOperation → List (List Char)
  | .create => ["create".toList]
  | .restore => ["restore".toList]
  | .start => ["start".toList]
  | .kill signal all => ["kill".toList, Nat.toDigits 10 signal, (toString all).toList]
  | .killWithSequence sequence => ["kill".toList, Nat.toDigits 10 sequence]
  | .delete force => "delete".toList :: if force then ["force".toList] else []
  | .exec _ => ["exec".toList]
  | .signalProcess _ signal => ["signal".toList, Nat.toDigits 10 signal]
  | .signalProcessWithSequence _ sequence => ["signal".toList, Nat.toDigits 10 sequence]
  | .pause sequence => ["pause".toList, Nat.toDigits 10 sequence]
  | .resume sequence => ["resume".toList, Nat.toDigits 10 sequence]
  | .startRestored => ["start".toList, "restored".toList]
  | .checkpoint artifactPath => ["checkpoint".toList, (sha256 (utf8Bytes artifactPath)).digits]
  | .update sequence => ["update".toList, Nat.toDigits 10 sequence]
  | .closeStdin _ => ["close".toList, "stdin".toList]
  | .resize _ sequence => ["resize".toList, Nat.toDigits 10 sequence]
  | .writeStdin _ sequence => ["write".toList, "stdin".toList, Nat.toDigits 10 sequence]

theorem toList_action : (a.action sha256).toList = ['-'].intercalate (a.words sha256) := by
  cases a with
  | delete force => cases force <;> simp [action, words]
  | _ => simp [action, words, HexDigest.text, toString, List.intercalate_cons_cons]

theorem dash_notMem_digits (n : Nat) : '-' ∉ Nat.toDigits 10 n := fun hm =>
  absurd (Nat.isDigit_of_mem_toDigits (by decide) (by decide) hm) (by decide)

theorem digits_inj : Nat.toDigits 10 m = Nat.toDigits 10 n ↔ m = n := by
  rw [← Nat.toList_repr, ← Nat.toList_repr, String.toList_inj]
  exact ⟨fun h => eq_of_repr_eq h, congrArg _⟩

theorem dash_notMem_words : ∀ word ∈ a.words sha256, '-' ∉ word := by
  cases a with
  | kill signal all => cases all <;> simp [words, dash_notMem_digits, toString]
  | delete force => cases force <;> simp [words]
  | checkpoint artifactPath =>
    have hh : '-' ∉ (sha256 (utf8Bytes artifactPath)).digits :=
      fun hm => absurd ((sha256 _).hex _ hm) (by decide)
    simp [words, hh]
  | _ => simp [words, dash_notMem_digits]

/-- The words of an action can be read back. -/
theorem words_eq_of_action (h : a.action sha256 = b.action sha256) :
    a.words sha256 = b.words sha256 := by
  have hs : ∀ opn : ShimOperation, (opn.action sha256).toList.splitOn '-' = opn.words sha256 := by
    intro opn
    rw [toList_action]
    refine List.splitOn_intercalate '-' dash_notMem_words ?_
    cases opn <;> simp [words]
  rw [← hs a, h, hs b]

/-- One of two operations of an exec sends a signal by its number, the other one under that number
    as its sequence. -/
def Clashes : ShimOperation → ShimOperation → Prop
  | .signalProcess identity signal, .signalProcessWithSequence other sequence =>
    identity = other ∧ signal = sequence
  | .signalProcessWithSequence identity sequence, .signalProcess other signal =>
    identity = other ∧ signal = sequence
  | _, _ => False

/-- The inputs that an action hashes. -/
def hashedPaths : ShimOperation → List (List UInt8)
  | .checkpoint artifactPath => [utf8Bytes artifactPath]
  | _ => []

theorem eq_or_clashes (hw : a.words sha256 = b.words sha256) (hx : a.exec? = b.exec?)
    (hs : CollisionFree sha256 (a.hashedPaths ++ b.hashedPaths)) : a = b ∨ Clashes a b := by
  cases a <;> cases b <;> simp [words, exec?, digits_inj, Clashes] at hw hx ⊢
  case kill.kill signal all signal' all' =>
    refine ⟨hw.1, ?_⟩
    have ht := String.toList_inj.mp hw.2
    cases all <;> cases all' <;> first | rfl | exact absurd ht (by decide)
  case delete.delete force force' => cases force <;> cases force' <;> simp at hw ⊢
  case checkpoint.checkpoint path path' =>
    refine utf8Bytes_injective (hs _ (by simp [hashedPaths]) _ (by simp [hashedPaths]) ?_)
    exact HexDigest.ext hw
  all_goals first
    | exact hw
    | exact hx
    | exact ⟨hx, hw⟩
    | exact ⟨hx, hw.symm⟩

/-- Operations that clash have one action and one exec. -/
theorem Clashes.same (h : Clashes a b) : a.action sha256 = b.action sha256 ∧ a.exec? = b.exec? := by
  unfold Clashes at h
  split at h
  · obtain ⟨rfl, rfl⟩ := h
    exact ⟨rfl, rfl⟩
  · obtain ⟨rfl, rfl⟩ := h
    exact ⟨rfl, rfl⟩
  · cases h

end ShimOperation

/-! ## Components -/

theorem execComponents_injective (hb : incarnation < 2 ^ 64) (hb' : incarnation' < 2 ^ 64)
    (h : execComponents execId incarnation = execComponents execId' incarnation') :
    execId = execId' ∧ incarnation = incarnation' := by
  obtain ⟨hi, hr⟩ := List.cons.inj h
  refine ⟨utf8Bytes_injective hi, ?_⟩
  split at hr <;> split at hr
  · exact beBytes64_injective hb hb' (List.cons.inj hr).1
  · cases hr
  · cases hr
  · rename_i hz hz'
    rw [not_not.mp hz, not_not.mp hz']

/-- A prefix keeps digests apart. -/
theorem HexDigest.prefixed_injective {first second : HexDigest}
    (h : start ++ first.text = start ++ second.text) : first = second := by
  have hc := congrArg String.toList h
  simp only [String.toList_append, HexDigest.text, String.toList_ofList] at hc
  exact HexDigest.ext (List.append_cancel_left hc)

theorem ExecIdentity.ext {first second : ExecIdentity} (hid : first.execId = second.execId)
    (hi : first.incarnation = second.incarnation) : first = second := by
  cases first
  cases second
  cases hid
  cases hi
  rfl

/-! ## Names -/

/-- An operation of a task that carries an incarnation. -/
structure IssuedOperation where
  namespace_ : String
  taskId : String
  incarnation : IncarnationId
  operation : ShimOperation

namespace IssuedOperation

def task (ids : ShimIdentities) (issued : IssuedOperation) : TaskIdentity :=
  ⟨issued.namespace_, issued.taskId, some issued.incarnation,
    ids.containerId issued.namespace_ issued.taskId⟩

def id (sha256 : List UInt8 → HexDigest) (ids : ShimIdentities) (issued : IssuedOperation) :
    OperationId :=
  (issued.task ids).operation sha256 ids issued.operation

def components (sha256 : List UInt8 → HexDigest) (issued : IssuedOperation) : List (List UInt8) :=
  operationComponents issued.namespace_ issued.taskId (some issued.incarnation.value)
    (issued.operation.exec?.map fun exec => (exec.execId, exec.incarnation))
    (issued.operation.action sha256)

/-- Lengths and exec incarnations are `u64`. -/
structure Representable (sha256 : List UInt8 → HexDigest) (issued : IssuedOperation) : Prop where
  lengths : ∀ component ∈ issued.components sha256, component.length < 2 ^ 64
  incarnation : ∀ exec, issued.operation.exec? = some exec → exec.incarnation < 2 ^ 64

/-- Everything that is hashed for an operation's name. -/
def hashed (sha256 : List UInt8 → HexDigest) (issued : IssuedOperation) : List (List UInt8) :=
  componentBytes (issued.components sha256) :: issued.operation.hashedPaths

/-- Operations of one task that clash. -/
def Clashes (first second : IssuedOperation) : Prop :=
  first.namespace_ = second.namespace_ ∧ first.taskId = second.taskId ∧
    first.incarnation = second.incarnation ∧ first.operation.Clashes second.operation

variable {first second : IssuedOperation}

/-- The fields of an operation can be read back from its components. -/
theorem components_eq (hf : first.Representable sha256) (hs : second.Representable sha256)
    (h : first.components sha256 = second.components sha256) :
    first.namespace_ = second.namespace_ ∧ first.taskId = second.taskId ∧
      first.incarnation = second.incarnation ∧
      first.operation.exec? = second.operation.exec? ∧
      first.operation.action sha256 = second.operation.action sha256 := by
  simp only [components, operationComponents, Option.map_some, Option.toList_some, List.cons_append,
    List.nil_append, List.cons.injEq] at h
  obtain ⟨hns, hts, hi, hr⟩ := h
  obtain ⟨hx, ha⟩ := List.append_inj' hr rfl
  refine ⟨utf8Bytes_injective hns, utf8Bytes_injective hts, ?_, ?_,
    utf8Bytes_injective (List.cons.inj ha).1⟩
  · exact IncarnationId.value_injective (utf8Bytes_injective hi)
  · cases ho : first.operation.exec? with
    | none =>
      cases ht : second.operation.exec? with
      | none => rfl
      | some exec' =>
        rw [ho, ht] at hx
        cases hx
    | some exec =>
      cases ht : second.operation.exec? with
      | none =>
        rw [ho, ht] at hx
        cases hx
      | some exec' =>
        rw [ho, ht] at hx
        obtain ⟨hid, hn⟩ := execComponents_injective (hf.incarnation exec ho)
          (hs.incarnation exec' ht) hx
        exact congrArg some (ExecIdentity.ext hid hn)

/-- **A name is read back.** Operations with one name are the same, or clash. -/
theorem id_eq_iff {updateRequestDigest : String → String} (hf : first.Representable sha256)
    (hs : second.Representable sha256)
    (hsh : CollisionFree sha256 (first.hashed sha256 ++ second.hashed sha256)) :
    first.id sha256 (shimIdentities sha256 updateRequestDigest) =
      second.id sha256 (shimIdentities sha256 updateRequestDigest) ↔
        first = second ∨ first.Clashes second := by
  constructor
  · intro h
    have hd : sha256 (componentBytes (first.components sha256)) =
        sha256 (componentBytes (second.components sha256)) :=
      HexDigest.prefixed_injective (congrArg (fun id => id.value) h)
    have hb := hsh _ (by simp [hashed]) _ (by simp [hashed]) hd
    obtain ⟨hn, ht, hi, hxc, ha⟩ := components_eq hf hs
      (componentBytes_injective hf.lengths hs.lengths hb)
    have hp : CollisionFree sha256
        (first.operation.hashedPaths ++ second.operation.hashedPaths) := by
      intro x hx y hy
      refine hsh x ?_ y ?_
      · simp only [hashed, List.cons_append, List.mem_cons, List.mem_append] at hx ⊢
        tauto
      · simp only [hashed, List.cons_append, List.mem_cons, List.mem_append] at hy ⊢
        tauto
    rcases ShimOperation.eq_or_clashes (ShimOperation.words_eq_of_action ha) hxc hp with
      hsm | hc
    · refine .inl ?_
      cases first
      cases second
      cases hn
      cases ht
      cases hi
      cases hsm
      rfl
    · exact .inr ⟨hn, ht, hi, hc⟩
  · rintro (rfl | ⟨hn, ht, hi, hc⟩)
    · rfl
    · obtain ⟨ha, hxc⟩ := @ShimOperation.Clashes.same sha256 _ _ hc
      simp only [id, task, TaskIdentity.operation, hn, ht, hi, ha, hxc]

end IssuedOperation

def ExecIdentity.components (task : TaskIdentity) (exec : ExecIdentity) : List (List UInt8) :=
  processComponents task.namespace_ task.taskId exec.execId exec.incarnation

structure ExecIdentity.Representable (task : TaskIdentity) (exec : ExecIdentity) : Prop where
  lengths : ∀ component ∈ exec.components task, component.length < 2 ^ 64
  incarnation : exec.incarnation < 2 ^ 64

/-- The names of a task's execs. -/
theorem processId_injective {task : TaskIdentity} (hx : exec.Representable task)
    (hx' : exec'.Representable task)
    (hs : CollisionFree sha256 ([exec, exec'].map fun exec => componentBytes
      (exec.components task)))
    (h : task.processId (shimIdentities sha256 updateRequestDigest) exec =
      task.processId (shimIdentities sha256 updateRequestDigest) exec') : exec = exec' := by
  have hd : sha256 (componentBytes (exec.components task)) =
      sha256 (componentBytes (exec'.components task)) :=
    HexDigest.prefixed_injective (congrArg (fun id => id.value) h)
  have hc := componentBytes_injective hx.lengths hx'.lengths (hs _ (by simp) _ (by simp) hd)
  obtain ⟨hid, hi⟩ := execComponents_injective hx.incarnation hx'.incarnation
    (List.append_cancel_left hc)
  exact ExecIdentity.ext hid hi

/-- A task that is rebuilt from its own file keeps its identity and what it has to issue. -/
theorem rehydrateTask_replays
    (h : rehydrateTask ids answers namespace_ taskId (metadataFromTask task) = .ok rebuilt) :
    rebuilt.identity = task.identity ∧ rebuilt.pendingOperations = task.pendingOperations := by
  simp only [rehydrateTask, bind_eq_ok, rejectIf_eq_ok] at h
  obtain ⟨identity, hd, -, -, record, -, -, -, restoreState, -, h⟩ := h
  cases h
  obtain ⟨hi, hn, ht, hc, -⟩ := ShimMetadata.identity_eq_ok.mp hd
  refine ⟨?_, rfl⟩
  have hi := Option.map_injective IncarnationId.value_injective hi
  cases identity
  cases hi
  cases hn
  cases ht
  cases hc
  rfl

/-- **What the names tell apart.** Different operations of tasks with an incarnation have different
    names exactly when they do not clash, the names of a task's execs differ, and a task that is
    rebuilt after a restart issues what it had to issue under the same names. -/
theorem operation_ids_tell_apart (sha256 : List UInt8 → HexDigest)
    (updateRequestDigest : String → String) (first second : IssuedOperation)
    (hfst : first.Representable sha256) (hsnd : second.Representable sha256)
    (hsha : CollisionFree sha256 (first.hashed sha256 ++ second.hashed sha256)) :
    (first ≠ second → (first.id sha256 (shimIdentities sha256 updateRequestDigest) ≠
        second.id sha256 (shimIdentities sha256 updateRequestDigest) ↔ ¬ first.Clashes second)) ∧
    (∀ (task : TaskIdentity) (exec exec' : ExecIdentity), exec.Representable task →
      exec'.Representable task →
      CollisionFree sha256 ([exec, exec'].map fun exec => componentBytes (exec.components task)) →
      exec ≠ exec' →
      task.processId (shimIdentities sha256 updateRequestDigest) exec ≠
        task.processId (shimIdentities sha256 updateRequestDigest) exec') ∧
    (∀ answers namespace_ taskId task rebuilt,
      rehydrateTask (shimIdentities sha256 updateRequestDigest) answers namespace_ taskId
        (metadataFromTask task) = .ok rebuilt →
      rebuilt.pendingOperations = task.pendingOperations ∧ ∀ operation,
        rebuilt.identity.operation sha256 (shimIdentities sha256 updateRequestDigest) operation =
          task.identity.operation sha256 (shimIdentities sha256 updateRequestDigest) operation) := by
  refine ⟨fun hn => ?_, ?_, ?_⟩
  · rw [ne_eq, IssuedOperation.id_eq_iff hfst hsnd hsha]
    simp [hn]
  · intro task exec exec' hx hx' hf hn hs
    exact hn (processId_injective hx hx' hf hs)
  · intro answers namespace_ taskId task rebuilt h
    obtain ⟨hd, hp⟩ := rehydrateTask_replays h
    exact ⟨hp, fun operation => by rw [hd]⟩

namespace Sample

/-- The digest of one digit. -/
def digest (digit : Char) (h : lowercaseHex digit = true) : HexDigest :=
  ⟨List.replicate 64 digit, List.length_replicate, fun _ hc => List.eq_of_mem_replicate hc ▸ h⟩

/-- An operation of the task `web` of the namespace `ns` in its incarnation `00…0`. -/
def issued (operation : ShimOperation) : IssuedOperation where
  namespace_ := "ns"
  taskId := "web"
  incarnation := ⟨String.ofList (List.replicate 64 '0'), by decide +kernel⟩
  operation := operation

/-- A digest of the length of the input. -/
def lengthDigest (input : List UInt8) : HexDigest :=
  if input.length % 2 = 0 then digest '0' rfl else digest '1' rfl

def lengthIds : ShimIdentities := shimIdentities lengthDigest fun _ => ""

end Sample

theorem create_and_start_have_two_ids :
    (Sample.issued .create).id Sample.lengthDigest Sample.lengthIds ≠
      (Sample.issued .start).id Sample.lengthDigest Sample.lengthIds := by
  have hcr : (Sample.issued .create).Representable Sample.lengthDigest :=
    ⟨by decide +kernel, nofun⟩
  have hs : (Sample.issued .start).Representable Sample.lengthDigest :=
    ⟨by decide +kernel, nofun⟩
  have hf : CollisionFree Sample.lengthDigest ((Sample.issued .create).hashed Sample.lengthDigest ++
      (Sample.issued .start).hashed Sample.lengthDigest) := by
    unfold CollisionFree
    decide +kernel
  have hn : Sample.issued .create ≠ Sample.issued .start := nofun
  exact ((operation_ids_tell_apart _ _ _ _ hcr hs hf).1 hn).mpr fun hc => hc.2.2.2

/-! ## The exception -/

namespace Sample

/-- Nine signals 15 to the exec `shell`, which is still being started. -/
def nineSignals : List ShimCall :=
  .addExec "shell" "" "" "" "" false :: ((List.range' 1 8).flatMap fun sequence =>
      [.prepareSignal (some "shell") 15 false,
        .completeSignal (some "shell") ⟨sequence, 15, false⟩ none]) ++
    [.prepareSignal (some "shell") 15 false]

/-- The task after some sections that all change it. -/
def afterCalls (calls : List ShimCall) : Option TaskState :=
  calls.foldlM (fun task call => (ShimCall.apply lengthIds task call).toOption.join)
    (.created { newTask false with identity := (issued .create).task lengthIds }
      (taskRecord .running))

def shellExec : ExecIdentity := ⟨"shell", 1⟩

end Sample

/-- The exec's ninth signal is journaled and sent, and the exec may be deleted before its Start has
    ended. The Start then sends signal 9 to clean up, under the name of the ninth signal. -/
theorem cleanup_signal_takes_a_journaled_id :
    (Sample.afterCalls Sample.nineSignals).map (·.pendingOperations) =
        some [.signalProcessWithSequence Sample.shellExec 9] ∧
      (Sample.afterCalls (Sample.nineSignals ++ [.deleteExec "shell"])).isSome = true ∧
      Sample.issued (.signalProcess Sample.shellExec 9) ≠
        Sample.issued (.signalProcessWithSequence Sample.shellExec 9) ∧
      (Sample.issued (.signalProcess Sample.shellExec 9)).id Sample.lengthDigest Sample.lengthIds =
        (Sample.issued (.signalProcessWithSequence Sample.shellExec 9)).id Sample.lengthDigest
          Sample.lengthIds :=
  ⟨by decide +kernel, by decide +kernel, nofun, rfl⟩

end OciRuntime
