import Mathlib.Data.List.TakeWhile
import OciRuntime.Lib.Framing
import OciRuntime.Shim.Restore

/-!
# `OciRuntime.Shim.Identity` — the names under which the shim asks the runtime

The shim names a container, a process and an operation by the SHA-256 of a list of components
(`containerd-shim/src/identity.rs`). The operations themselves are issued by the adapter, one method
for each kind, and the action among the components is a text of that method
(`containerd-shim/src/adapter.rs`).

## Contents
- **Digests.** `HexDigest`, `digestComponents`, `HexDigest.identifier`.
- **Identities.** `shimIdentities`: the three functions of `identity.rs`.
- **Operations.** `ShimOperation`, `ShimOperation.action`, `TaskIdentity.operation`.
- **Replays.** `TaskState.pendingOperations`: what a task still has to issue.
-/

namespace OciRuntime

open Durable Framing

/-! ## Digests -/

/-- A SHA-256 in lowercase hexadecimal. -/
structure HexDigest where
  digits : List Char
  length : digits.length = 64
  hex : ∀ c ∈ digits, lowercaseHex c = true
  deriving DecidableEq

theorem HexDigest.ext {first second : HexDigest} (h : first.digits = second.digits) :
    first = second := by
  cases first
  cases second
  cases h
  rfl

def HexDigest.text (digest : HexDigest) : String := String.ofList digest.digits

/-- The bytes of a text. -/
def utf8Bytes (text : String) : List UInt8 := text.toUTF8.data.toList

theorem utf8Bytes_injective : Function.Injective utf8Bytes := by
  intro first second h
  have hd := Array.toList_inj.mp h
  exact String.toByteArray_inj.mp (ByteArray.ext hd)

theorem lowercaseHex_identifierChar (h : lowercaseHex c = true) : identifierChar c = true := by
  rw [lowercaseHex_iff] at h
  have hd : c.isAlphanum = true := isAlphanum_iff.mpr (by omega)
  simp [identifierChar, hd]

/-- A digit takes one byte. -/
theorem utf8Len_hex (h : ∀ c ∈ digits, lowercaseHex c = true) :
    String.utf8Len digits = digits.length := by
  induction digits with
  | nil => rfl
  | cons c digits ih =>
    obtain ⟨hc, hd⟩ := List.forall_mem_cons.mp h
    have ho : c.utf8Size = 1 := by
      rw [Char.utf8Size_eq_one_iff, UInt32.le_iff_toNat_le]
      have := lowercaseHex_iff.mp hc
      change c.toNat ≤ 127
      omega
    rw [String.utf8Len_cons, ih hd, ho, List.length_cons]

/-- A long text of allowed characters without a dot is an identifier. -/
theorem identifierFault_eq_none (hch : value.toList = first :: rest)
    (hb : value.utf8ByteSize ≤ maxIdentifierBytes) (hf : first.isAlphanum = true)
    (hrs : ∀ c ∈ rest, identifierChar c = true ∧ c ≠ '.') (hln : 4 ≤ rest.length) :
    identifierFault value = none := by
  have hd : ∀ c ∈ first :: rest, c ≠ '.' := by
    refine List.forall_mem_cons.mpr ⟨?_, fun c hc => (hrs c hc).2⟩
    rintro rfl
    exact absurd hf (by decide)
  -- without a dot the whole text is the base name, which is too long to be reserved
  have hr : isWindowsReservedName value = false := by
    have hbs : (first :: rest).takeWhile (· != '.') = first :: rest := by
      rw [List.takeWhile_eq_self_iff]
      intro c hc
      simpa using hd c hc
    have hn : ∀ name ∈ ["CON", "PRN", "AUX", "NUL"],
        eqIgnoreAsciiCase (first :: rest) name = false := by
      intro name hn
      refine beq_eq_false_iff_ne.mpr fun h => ?_
      have hl := congrArg List.length h
      rw [List.length_map, List.length_cons] at hl
      have ht : ∀ name ∈ ["CON", "PRN", "AUX", "NUL"], name.toList.length = 3 := by decide
      have := ht name hn
      omega
    have hfr : rest.length ≠ 3 := by omega
    simp only [isWindowsReservedName, hch, hbs, List.length_cons]
    simp [hfr, hn]
  have hls : (first :: rest).getLast? ≠ some '.' := fun h => hd _ (List.mem_of_getLast? h) rfl
  have ha : rest.all identifierChar = true := by
    rw [List.all_eq_true]
    exact fun c hc => (hrs c hc).1
  unfold identifierFault
  rw [hch]
  simp only [Nat.not_lt.mpr hb, hf, ha, hr, beq_eq_false_iff_ne.mpr hls]
  rfl

/-- Every digest behind one of the shim's prefixes is a valid identifier. -/
theorem HexDigest.identifier (digest : HexDigest) (first : Char) (rest : List Char)
    (hst : start.toList = first :: rest) (hf : first.isAlphanum = true)
    (hr : rest.all (fun c => identifierChar c && c != '.') = true)
    (hs : start.utf8ByteSize ≤ 64) : identifierFault (start ++ digest.text) = none := by
  have hch : (start ++ digest.text).toList = first :: (rest ++ digest.digits) := by
    rw [String.toList_append, hst, HexDigest.text, String.toList_ofList, List.cons_append]
  refine identifierFault_eq_none hch ?_ hf ?_ ?_
  · rw [String.utf8ByteSize_append, HexDigest.text, String.utf8ByteSize_ofList,
      utf8Len_hex digest.hex, digest.length]
    exact Nat.add_le_add_right hs 64
  · intro c hc
    rcases List.mem_append.mp hc with hc | hc
    · simpa using List.all_eq_true.mp hr c hc
    · have hh := digest.hex c hc
      refine ⟨lowercaseHex_identifierChar hh, ?_⟩
      rintro rfl
      exact absurd hh (by decide)
  · rw [List.length_append, digest.length]
    omega

/-! ## Identities -/

section Identities

variable (sha256 : List UInt8 → HexDigest)

def digestComponents (components : List (List UInt8)) : HexDigest :=
  sha256 (componentBytes components)

/-- The components of an exec; an incarnation of zero is left out. -/
def execComponents (execId : String) (incarnation : Nat) : List (List UInt8) :=
  utf8Bytes execId :: if incarnation ≠ 0 then [beBytes64 incarnation] else []

def processComponents (namespace_ taskId execId : String) (execIncarnation : Nat) :
    List (List UInt8) :=
  [utf8Bytes namespace_, utf8Bytes taskId] ++ execComponents execId execIncarnation

def operationComponents (namespace_ taskId : String) (incarnation : Option String)
    (exec : Option (String × Nat)) (action : String) : List (List UInt8) :=
  [utf8Bytes namespace_, utf8Bytes taskId] ++ (incarnation.map utf8Bytes).toList ++
    (exec.elim [] fun (execId, incarnation) => execComponents execId incarnation) ++
    [utf8Bytes action]

/-- What `identity.rs` computes. The digest of an Update's resources is made elsewhere. -/
def shimIdentities (updateRequestDigest : String → String) : ShimIdentities where
  containerId namespace_ taskId :=
    let digest := digestComponents sha256 [utf8Bytes namespace_, utf8Bytes taskId]
    ⟨⟨"ctrd-" ++ digest.text, digest.identifier 'c' "trd-".toList rfl rfl rfl (by decide)⟩⟩
  processId namespace_ taskId execId execIncarnation :=
    let digest := digestComponents sha256
      (processComponents namespace_ taskId execId execIncarnation)
    ⟨⟨"exec-" ++ digest.text, digest.identifier 'e' "xec-".toList rfl rfl rfl (by decide)⟩⟩
  operationId namespace_ taskId incarnation exec action :=
    let digest := digestComponents sha256
      (operationComponents namespace_ taskId incarnation exec action)
    ⟨⟨"ctrd-op-" ++ digest.text, digest.identifier 'c' "trd-op-".toList rfl rfl rfl (by decide)⟩⟩
  updateRequestDigest := updateRequestDigest

end Identities

/-! ## Operations -/

/-- The operations that the adapter issues, with what tells two of one kind apart. The signal of a
    sequenced signal, the size of a resize and the like are no part of an operation's name. -/
inductive ShimOperation
  | create
  | restore
  | start
  | kill (signal : Nat) (all : Bool)
  | killWithSequence (sequence : Nat)
  | delete (force : Bool)
  | exec (exec : ExecIdentity)
  | signalProcess (exec : ExecIdentity) (signal : Nat)
  | signalProcessWithSequence (exec : ExecIdentity) (sequence : Nat)
  | pause (sequence : Nat)
  | resume (sequence : Nat)
  | startRestored
  | checkpoint (artifactPath : String)
  | update (sequence : Nat)
  | closeStdin (exec : Option ExecIdentity)
  | resize (exec : Option ExecIdentity) (sequence : Nat)
  | writeStdin (exec : Option ExecIdentity) (sequence : Nat)
  deriving DecidableEq

namespace ShimOperation

/-- The exec that an operation is scoped to. -/
def exec? : ShimOperation → Option ExecIdentity
  | .exec identity | .signalProcess identity _ | .signalProcessWithSequence identity _ =>
    some identity
  | .closeStdin identity | .resize identity _ | .writeStdin identity _ => identity
  | _ => none

def action (sha256 : List UInt8 → HexDigest) : ShimOperation → String
  | .create => "create"
  | .restore => "restore"
  | .start => "start"
  | .kill signal all => s!"kill-{signal}-{all}"
  | .killWithSequence sequence => s!"kill-{sequence}"
  | .delete force => if force then "delete-force" else "delete"
  | .exec _ => "exec"
  | .signalProcess _ signal => s!"signal-{signal}"
  | .signalProcessWithSequence _ sequence => s!"signal-{sequence}"
  | .pause sequence => s!"pause-{sequence}"
  | .resume sequence => s!"resume-{sequence}"
  | .startRestored => "start-restored"
  | .checkpoint artifactPath => s!"checkpoint-{(sha256 (utf8Bytes artifactPath)).text}"
  | .update sequence => s!"update-{sequence}"
  | .closeStdin _ => "close-stdin"
  | .resize _ sequence => s!"resize-{sequence}"
  | .writeStdin _ sequence => s!"write-stdin-{sequence}"

end ShimOperation

/-- `TaskIdentity::operation`, for the operation of one of the adapter's methods. -/
def TaskIdentity.operation (sha256 : List UInt8 → HexDigest) (ids : ShimIdentities)
    (task : TaskIdentity) (operation : ShimOperation) : OperationId :=
  ids.operationId task.namespace_ task.taskId (task.incarnation.map (·.value))
    (operation.exec?.map fun exec => (exec.execId, exec.incarnation)) (operation.action sha256)

/-- `TaskIdentity::process_id`. -/
def TaskIdentity.processId (ids : ShimIdentities) (task : TaskIdentity) (exec : ExecIdentity) :
    ProcessId :=
  ids.processId task.namespace_ task.taskId exec.execId exec.incarnation

/-! ## Replays -/

/-- What the journal of a process still has to issue, to the init process or to an exec. -/
def ProcessJournal.pendingOperations (journal : ProcessJournal) (exec : Option ExecIdentity) :
    List ShimOperation :=
  (journal.pendingSignal.map fun pending =>
      match exec with
      | none => .killWithSequence pending.sequence
      | some exec => .signalProcessWithSequence exec pending.sequence).toList ++
    (journal.pendingResize.map fun pending => .resize exec pending.sequence).toList ++
    (journal.pendingStdinWrite.map fun pending => .writeStdin exec pending.sequence).toList ++
    if journal.stdinCloseState = .closing then [.closeStdin exec] else []

def PendingControlOperation.issued (pending : PendingControlOperation) : ShimOperation :=
  match pending.kind with
  | .pause => .pause pending.sequence
  | .resume => .resume pending.sequence
  | .update => .update pending.sequence

/-- What a task still has to issue. -/
def TaskState.pendingOperations (task : TaskState) : List ShimOperation :=
  (task.pendingControl.map (·.issued)).toList ++ task.toProcessJournal.pendingOperations none ++
    task.execs.flatMap fun exec =>
      (if exec.stage = .starting then [.exec exec.identity] else []) ++
        exec.toProcessJournal.pendingOperations (some exec.identity)

end OciRuntime
