import Mathlib.Data.String.Basic

/-!
# `OciRuntime.Sdk.Basic` — errors and validated identifiers

The error value every layer of the runtime returns (`sdk/src/error.rs`) and the identifiers that
name containers, processes and operations (`sdk/src/id.rs`). An identifier is a structure that
carries the proof of its own validity, so a path component built from one is always portable.
-/

namespace OciRuntime

/-! ## Errors -/

/-- Stable machine-readable error class. -/
inductive ErrorCode
  | invalidArgument | notFound | alreadyExists | failedPrecondition | unsupported
  | permissionDenied | resourceExhausted | deadlineExceeded | conflict | unavailable | internal
  deriving DecidableEq

/-- Contextual runtime error suitable for crossing a process boundary. -/
structure Error where
  code : ErrorCode
  operation : Option String
  message : String
  isRetryable : Bool
  deriving DecidableEq

/-- A non-retryable error. -/
def Error.new (code : ErrorCode) (message : String) : Error :=
  { code, operation := none, message, isRetryable := false }

def Error.forOperation (e : Error) (operation : String) : Error :=
  { e with operation := some operation }

def Error.retryable (e : Error) (retryable : Bool) : Error :=
  { e with isRetryable := retryable }

@[simp] theorem Error.retryable_code (e : Error) (b : Bool) : (e.retryable b).code = e.code := rfl

@[simp] theorem Error.retryable_isRetryable (e : Error) (b : Bool) :
    (e.retryable b).isRetryable = b := rfl

/-- The error constructor of the durable state store (`state/filesystem.rs`). -/
def stateError (code : ErrorCode) (operation message : String) : Error :=
  (Error.new code message).forOperation operation

@[simp] theorem stateError_code (code : ErrorCode) (operation message : String) :
    (stateError code operation message).code = code := rfl

@[simp] theorem stateError_isRetryable (code : ErrorCode) (operation message : String) :
    (stateError code operation message).isRetryable = false := rfl

/-- Results of the runtime. -/
abbrev Result (α : Type) := Except Error α

def u64Max : Nat := 2 ^ 64 - 1

/-- A number in a name can be read back. -/
theorem eq_of_repr_eq {first second : Nat} (h : first.repr = second.repr) : first = second := by
  have hd := congrArg (fun text : String => Nat.ofDigitChars 10 text.toList 0) h
  simpa [Nat.repr_eq_ofList_toDigits, Nat.ofDigitChars_ten_toDigits] using hd

/-! ## Identifiers -/

def maxIdentifierBytes : Nat := 128

/-- Characters allowed after the first one. -/
def identifierChar (c : Char) : Bool :=
  c.isAlphanum || c == '_' || c == '.' || c == '+' || c == '-'

theorem isAlphanum_iff {c : Char} : c.isAlphanum = true ↔
    (65 ≤ c.toNat ∧ c.toNat ≤ 90 ∨ 97 ≤ c.toNat ∧ c.toNat ≤ 122) ∨ 48 ≤ c.toNat ∧ c.toNat ≤ 57 := by
  delta Char.isAlphanum Char.isAlpha Char.isUpper Char.isLower Char.isDigit
  simp only [Bool.or_eq_true, Bool.and_eq_true, decide_eq_true_eq, UInt32.le_iff_toNat_le, ge_iff_le]
  rfl

def eqIgnoreAsciiCase (cs : List Char) (name : String) : Bool :=
  cs.map Char.toUpper == name.toList

/-- Device names a Windows host reserves, with or without an extension. -/
def isWindowsReservedName (value : String) : Bool :=
  let basename := value.toList.takeWhile (· != '.')
  ["CON", "PRN", "AUX", "NUL"].any (eqIgnoreAsciiCase basename) ||
    (basename.length == 4 && basename.getLast?.any (fun c => '1' ≤ c && c ≤ '9') &&
      ["COM", "LPT"].any (eqIgnoreAsciiCase (basename.take 3)))

/-- The first rule `value` breaks, as the text that follows the kind of identifier. -/
def identifierFault (value : String) : Option String :=
  match value.toList with
  | [] => some "must not be empty"
  | first :: rest =>
    if value.utf8ByteSize > maxIdentifierBytes then
      some s!"must be at most {maxIdentifierBytes} bytes"
    else if !first.isAlphanum then
      some "must start with an ASCII letter or digit"
    else if !rest.all identifierChar then
      some "contains a character that is unsafe in a runtime path"
    else if (first :: rest).getLast? == some '.' || isWindowsReservedName value then
      some "is not a portable runtime path component"
    else none

/-- A portable identifier. -/
structure Identifier where
  value : String
  valid : identifierFault value = none
  deriving DecidableEq

/-- Reject a value that is not a portable identifier of the given kind. -/
def validateIdentifier (kind value : String) : Result Identifier :=
  match h : identifierFault value with
  | some fault => .error (Error.new .invalidArgument s!"{kind} {fault}")
  | none => .ok ⟨value, h⟩

theorem validateIdentifier_value (kind : String) (identifier : Identifier) :
    validateIdentifier kind identifier.value = .ok identifier := by
  unfold validateIdentifier
  split
  · rename_i fault hf
    rw [identifier.valid] at hf
    cases hf
  · rfl

/-- What the rules say about the characters and the length of an identifier. -/
theorem Identifier.rules (identifier : Identifier) :
    (∀ c ∈ identifier.value.toList, identifierChar c = true) ∧
      identifier.value.utf8ByteSize ≤ maxIdentifierBytes := by
  have hv := identifier.valid
  unfold identifierFault at hv
  split at hv
  · cases hv
  · rename_i first rest hch
    simp only [ite_eq_iff, reduceCtorEq, and_false, false_or] at hv
    obtain ⟨hl, hf, hr, -⟩ := hv
    simp only [Bool.not_eq_true, Bool.not_eq_false', List.all_eq_true] at hf hr
    refine ⟨fun c hc => ?_, by omega⟩
    rw [hch] at hc
    rcases List.mem_cons.mp hc with rfl | hc
    · simp [identifierChar, hf]
    · exact hr c hc

structure ContainerId extends Identifier
  deriving DecidableEq

structure ProcessId extends Identifier
  deriving DecidableEq

structure OperationId extends Identifier
  deriving DecidableEq

def ContainerId.new (value : String) : Result ContainerId :=
  ContainerId.mk <$> validateIdentifier "container ID" value

def ProcessId.new (value : String) : Result ProcessId :=
  ProcessId.mk <$> validateIdentifier "process ID" value

theorem ProcessId.new_value (id : ProcessId) : ProcessId.new id.value = .ok id := by
  rw [ProcessId.new, validateIdentifier_value]
  rfl

theorem ContainerId.ext_value {a b : ContainerId} (h : a.value = b.value) : a = b := by
  obtain ⟨⟨v, _⟩⟩ := a
  obtain ⟨⟨w, _⟩⟩ := b
  simp_all

theorem ProcessId.ext_value {a b : ProcessId} (h : a.value = b.value) : a = b := by
  obtain ⟨⟨v, _⟩⟩ := a
  obtain ⟨⟨w, _⟩⟩ := b
  simp_all

theorem OperationId.ext_value {a b : OperationId} (h : a.value = b.value) : a = b := by
  obtain ⟨⟨v, _⟩⟩ := a
  obtain ⟨⟨w, _⟩⟩ := b
  simp_all

/-- The process ID of the container's configured process. -/
def ProcessId.init : ProcessId := ⟨⟨"init", by decide⟩⟩

def ProcessId.isInit (p : ProcessId) : Bool := p.value == "init"

theorem ProcessId.isInit_iff {p : ProcessId} : p.isInit = true ↔ p = .init := by
  obtain ⟨⟨v, _⟩⟩ := p
  simp [isInit, init]

end OciRuntime
