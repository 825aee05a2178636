import OciRuntime.Transport.Messages

/-!
# `OciRuntime.Transport.FrameSize` — how long the payload-carrying frames are

The length of every document of `OciRuntime.Transport.Messages` in terms of the values in it: a
number takes its digits, an identifier its characters, a byte of a payload up to three digits and
a comma.

## Contents
- **Parts.** Identifiers, targets, contexts and byte arrays.
- **Requests.** `ClientMessage.size_writeStdin` and bounds for reads and uploads.
- **Responses.** `ServerMessage.size_readOutput` and bounds for the others.
-/

namespace OciRuntime

open Durable Json

/-! ## Parts -/

/-- The names that occur in the documents. -/
theorem textSize_names : textSize "id" = 2 ∧ textSize "generation" = 10 ∧ textSize "container" = 9 ∧
    textSize "process_id" = 10 ∧ textSize "operation_id" = 12 ∧ textSize "deadline_unix_ms" = 16 ∧
    textSize "process" = 7 ∧ textSize "after_sequence" = 14 ∧ textSize "max_bytes" = 9 ∧
    textSize "wait_timeout_ms" = 15 ∧ textSize "context" = 7 ∧ textSize "data" = 4 ∧
    textSize "target" = 6 ∧ textSize "op" = 2 ∧ textSize "path" = 4 ∧ textSize "user" = 4 ∧
    textSize "operation" = 9 ∧ textSize "request" = 7 ∧ textSize "type" = 4 ∧
    textSize "protocol" = 8 ∧ textSize "request_id" = 10 ∧ textSize "sequence" = 8 ∧
    textSize "stream" = 6 ∧ textSize "eof" = 3 ∧ textSize "size" = 4 ∧ textSize "response" = 8 ∧
    textSize "result" = 6 ∧ textSize "status" = 6 ∧ textSize "ok" = 2 ∧
    textSize "read-output" = 11 ∧ textSize "write-stdin" = 11 ∧ textSize "file" = 4 ∧
    textSize "upload" = 6 ∧ textSize "download" = 8 := by decide

theorem OutputStream.textSize_name (stream : OutputStream) : textSize stream.name = 6 := by
  cases stream <;> decide

theorem plain_of_isAlphanum (h : c.isAlphanum = true) : Plain c := by
  rw [isAlphanum_iff] at h
  have hr : 48 ≤ c.toNat ∧ c.toNat ≤ 122 ∧ c.toNat ≠ 92 := by omega
  refine ⟨by omega, by omega, ?_, ?_⟩
  · rintro rfl
    exact absurd hr (by decide)
  · rintro rfl
    exact absurd hr (by decide)

theorem plain_of_identifierChar (h : identifierChar c = true) : Plain c := by
  simp only [identifierChar, Bool.or_eq_true, beq_iff_eq] at h
  rcases h with (((h | rfl) | rfl) | rfl) | rfl
  · exact plain_of_isAlphanum h
  all_goals exact ⟨by decide, by decide, by decide, by decide⟩

theorem plain_of_base64Char (h : base64Char c = true) : Plain c := by
  simp only [base64Char, Bool.or_eq_true, beq_iff_eq] at h
  rcases h with ((h | rfl) | rfl) | rfl
  · exact plain_of_isAlphanum h
  all_goals exact ⟨by decide, by decide, by decide, by decide⟩

/-- An identifier needs no escapes. -/
theorem Identifier.textSize_value (id : Identifier) : textSize id.value = id.value.length :=
  textSize_plain fun c hc => plain_of_identifierChar (id.rules.1 c hc)

theorem Identifier.length_le (id : Identifier) : id.value.length ≤ 128 :=
  (length_le_utf8ByteSize id.value).trans id.rules.2

/-- What an optional numeric field takes besides its comma: its quoted name, a colon and the
    digits. -/
def numberField (overhead : Nat) : Option Nat → Nat
  | none => 0
  | some n => overhead + digitCount n

theorem numberField_le (overhead : Nat) (h : ∀ n ∈ value, n ≤ u64Max) :
    numberField overhead value ≤ overhead + 20 := by
  cases value with
  | none => exact Nat.zero_le _
  | some n =>
    have hn := h n rfl
    have hd : digitCount n ≤ 20 := digitCount_le (by decide) (by unfold u64Max at hn; omega)
    exact Nat.add_le_add_left hd _

theorem ContainerTarget.size_json (target : ContainerTarget) : target.json.size =
    target.id.value.length + 9 + numberField 14 target.generation := by
  rw [← target.id.textSize_value]
  unfold ContainerTarget.json optionalField
  cases target.generation <;> simp [textSize_names, numberField] <;> omega

theorem ProcessTarget.size_json (target : ProcessTarget) : target.json.size =
    target.processId.value.length + target.container.json.size + 30 := by
  rw [← target.processId.textSize_value]
  simp [ProcessTarget.json, textSize_names]
  omega

theorem OperationContext.size_json (context : OperationContext) : context.json.size =
    context.operationId.value.length + 19 + numberField 20 context.deadlineUnixMs := by
  rw [← context.operationId.textSize_value]
  unfold OperationContext.json optionalField
  cases context.deadlineUnixMs <;> simp [textSize_names, numberField] <;> omega

/-- The digits of a byte string with a comma after every byte. -/
def byteText (data : List UInt8) : Nat := (data.map fun byte => digitCount byte.toNat + 1).sum

theorem size_bytesJson (data : List UInt8) : (bytesJson data).size = byteText data - 1 + 2 := by
  simp [bytesJson, byteText, Function.comp_def]

/-! ## Requests -/

/-- The length of a request around its document. -/
theorem ClientMessage.size_json (message : ClientMessage) : message.json.size =
    digitCount message.protocol + digitCount message.requestId + message.request.json.size + 55 := by
  simp [ClientMessage.json, textSize_names]
  omega

/-- What a stdin write takes besides its payload: the protocol, the request number, the operation
    with its deadline, the process and its container with its generation. -/
def stdinOverhead (protocol requestId : Nat) (request : WriteStdinRequest) : Nat :=
  digitCount protocol + digitCount requestId + request.context.operationId.value.length +
    numberField 20 request.context.deadlineUnixMs + request.process.processId.value.length +
    request.process.container.id.value.length +
    numberField 14 request.process.container.generation + 184

theorem ClientMessage.size_writeStdin (protocol requestId : Nat) (request : WriteStdinRequest) :
    (ClientMessage.mk protocol requestId (.writeStdin request)).json.size =
      stdinOverhead protocol requestId request + (byteText request.data - 1) := by
  rw [ClientMessage.size_json]
  simp only [WireRequest.json, WriteStdinRequest.json, size_object, size_string, size_bytesJson,
    textSize_names, OperationContext.size_json, ProcessTarget.size_json,
    ContainerTarget.size_json, List.map_cons, List.map_nil, List.sum_cons, List.sum_nil,
    stdinOverhead]
  omega

/-! ## Bounds for the parts -/

def ContainerTarget.Representable (target : ContainerTarget) : Prop :=
  ∀ n ∈ target.generation, n ≤ u64Max

def OperationContext.Representable (context : OperationContext) : Prop :=
  ∀ n ∈ context.deadlineUnixMs, n ≤ u64Max

/-- The numbers of a request fit their machine types. -/
def WireRequest.Representable : WireRequest → Prop
  | .readOutput request => request.process.container.Representable ∧
      request.afterSequence ≤ u64Max ∧ ∀ n ∈ request.waitTimeoutMs, n ≤ u64Max
  | .writeStdin request =>
    request.context.Representable ∧ request.process.container.Representable
  | .file request =>
    request.target.Representable ∧ ∀ context ∈ request.context, context.Representable

theorem digitCount_le_twenty (h : n ≤ u64Max) : digitCount n ≤ 20 :=
  digitCount_le (by decide) (by unfold u64Max at h; omega)

theorem ContainerTarget.size_json_le {target : ContainerTarget} (h : target.Representable) :
    target.json.size ≤ 171 := by
  have hi := target.id.length_le
  have hg := numberField_le 14 h
  rw [size_json]
  omega

theorem ProcessTarget.size_json_le {target : ProcessTarget} (h : target.container.Representable) :
    target.json.size ≤ 329 := by
  have hi := target.processId.length_le
  have ht := ContainerTarget.size_json_le h
  rw [size_json]
  omega

theorem OperationContext.size_json_le {context : OperationContext} (h : context.Representable) :
    context.json.size ≤ 187 := by
  have hi := context.operationId.length_le
  have hd := numberField_le 20 h
  rw [size_json]
  omega

/-- An optional field takes at most what it would take with its value. -/
theorem optionalField_le (name : String) (value : Option Json) (bound : Nat)
    (h : ∀ json ∈ value, json.size ≤ bound) :
    ((optionalField name value).map fun field => textSize field.1 + field.2.size + 4).sum ≤
      textSize name + bound + 4 := by
  cases value with
  | none => exact Nat.zero_le _
  | some json =>
    have hj := h json rfl
    simp [optionalField]
    omega

theorem ReadOutputRequest.size_json_le {request : ReadOutputRequest}
    (ht : request.process.container.Representable) (ha : request.afterSequence ≤ u64Max)
    (hm : request.maxBytes ≤ u64Max) (hw : ∀ n ∈ request.waitTimeoutMs, n ≤ u64Max) :
    request.json.size ≤ 500 := by
  have hp := ProcessTarget.size_json_le ht
  have ha := digitCount_le_twenty ha
  have hm := digitCount_le_twenty hm
  have hw := optionalField_le "wait_timeout_ms" (request.waitTimeoutMs.map .number) 20 (by
      intro json hj
      obtain ⟨n, hn, rfl⟩ := Option.map_eq_some_iff.mp hj
      exact (size_number n).trans_le (digitCount_le_twenty (hw n hn)))
  simp only [ReadOutputRequest.json, size_object, List.map_append, List.map_cons, List.map_nil,
    List.sum_append, List.sum_cons, List.sum_nil, size_number, textSize_names] at hw ⊢
  omega

/-- What validation says about the texts of an upload. -/
theorem FileRequest.validate_upload {request : FileRequest}
    (hv : request.validate base64 = .ok ()) (hu : request.op = .upload) :
    request.path.utf8ByteSize ≤ maxFilesystemPathBytes ∧
      (∀ user ∈ request.user, user.utf8ByteSize ≤ maxFilesystemUserBytes) ∧
      ∀ data ∈ request.data, textSize data ≤ maximumEncoded := by
  simp only [FileRequest.validate, hu, bind_eq_ok, validateContainerPath, validateUpload,
    rejectIf_eq_ok, okOr_eq_ok, mapError_eq_ok] at hv
  obtain ⟨_, ⟨_, _, _, hp, _⟩, _, hsr, _, _, encoded, hdt, _, hl, decoded, hd, _⟩ :=
    hv
  refine ⟨by omega, ?_, ?_⟩
  · intro user hs
    rw [hs] at hsr
    simp only [validateFileUser, rejectIf_eq_ok] at hsr
    omega
  · intro data hs
    obtain rfl : data = encoded := Option.some.inj (hs.symm.trans hdt)
    rw [textSize_plain fun c hc => plain_of_base64Char (base64.alphabet hd c hc)]
    exact (length_le_utf8ByteSize data).trans (by omega)

theorem FileRequest.size_json_le {request : FileRequest}
    (hv : request.validate base64 = .ok ()) (hu : request.op = .upload)
    (ht : request.target.Representable)
    (hc : ∀ context ∈ request.context, context.Representable) :
    request.json.size ≤ 45000000 := by
  obtain ⟨hp, hsr, hd⟩ := validate_upload hv hu
  have ht := ContainerTarget.size_json_le ht
  have hp := (textSize_le request.path).trans (Nat.mul_le_mul_left 6 hp)
  have hd := optionalField_le "data" (request.data.map .string) (maximumEncoded + 2) (by
      intro json hj
      obtain ⟨data, hs, rfl⟩ := Option.map_eq_some_iff.mp hj
      exact (size_string data).trans_le (Nat.add_le_add_right (hd data hs) 2))
  have hsr := optionalField_le "user" (request.user.map .string)
    (6 * maxFilesystemUserBytes + 2) (by
      intro json hj
      obtain ⟨user, hs, rfl⟩ := Option.map_eq_some_iff.mp hj
      exact (size_string user).trans_le (Nat.add_le_add_right
        ((textSize_le user).trans (Nat.mul_le_mul_left 6 (hsr user hs))) 2))
  have hc := optionalField_le "context" (request.context.map OperationContext.json) 187 (by
      intro json hj
      obtain ⟨context, hs, rfl⟩ := Option.map_eq_some_iff.mp hj
      exact OperationContext.size_json_le (hc context hs))
  simp only [FileRequest.json, hu, FileOp.name, size_object, List.map_append, List.map_cons,
    List.map_nil, List.sum_append, List.sum_cons, List.sum_nil, size_string, textSize_names,
    maximumEncoded, maxFileTransferBytes, maxFilesystemPathBytes, maxFilesystemUserBytes]
    at hd hsr hc hp ⊢
  omega

/-! ## Responses -/

/-- What a response takes besides its own document. -/
theorem ServerMessage.size_json (message : ServerMessage) : message.json.size =
    digitCount message.protocol + digitCount message.requestId + message.response.json.size + 82 := by
  simp [ServerMessage.json, textSize_names]
  omega

/-- What a read's response takes besides its chunks. -/
def outputOverhead (protocol requestId : Nat) : Nat :=
  digitCount protocol + digitCount requestId + 123

/-- The chunks of a response with a comma after each. -/
def chunkText (chunks : List OutputChunk) : Nat :=
  (chunks.map fun chunk => chunk.json.size + 1).sum

theorem ServerMessage.size_readOutput (protocol requestId : Nat) (chunks : List OutputChunk) :
    (ServerMessage.mk protocol requestId (.readOutput chunks)).json.size =
      outputOverhead protocol requestId + (chunkText chunks - 1) := by
  rw [ServerMessage.size_json]
  simp only [WireResponse.json, size_object, size_string, size_array, textSize_names,
    List.map_cons, List.map_nil, List.sum_cons, List.sum_nil, List.map_map, Function.comp_def,
    outputOverhead, chunkText]
  omega

theorem OutputChunk.size_json (chunk : OutputChunk) : chunk.json.size =
    digitCount chunk.sequence + (byteText chunk.data - 1) + (if chunk.eof then 52 else 53) := by
  have hs := chunk.stream.textSize_name
  cases hef : chunk.eof <;>
    simp [OutputChunk.json, hef, size_bytesJson, textSize_names, hs] <;> omega

theorem FileResponse.size_json_le {response : FileResponse} (hd : response.data = none)
    (ht : response.target.Representable) (hs : response.size ≤ u64Max) :
    response.json.size ≤ 300 := by
  have ht := ContainerTarget.size_json_le ht
  have hs := digitCount_le_twenty hs
  simp [FileResponse.json, hd, optionalField, textSize_names]
  omega

end OciRuntime
