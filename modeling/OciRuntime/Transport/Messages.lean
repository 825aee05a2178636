import OciRuntime.Lib.Json
import OciRuntime.Sdk.Validation
import OciRuntime.Service.Output
import OciRuntime.Transport.Wire

/-!
# `OciRuntime.Transport.Messages` — the payload-carrying SDK messages

The requests and responses that carry process input, process output and files, their validation
(`sdk/src/validation.rs`) and the JSON document each is sent as (`sdk/src/transport/wire.rs`).
Byte payloads are arrays of numbers, file payloads base64 text.

## Contents
- **Requests.** `ReadOutputRequest`, `FileRequest.validate`, `WireRequest.validate`.
- **Documents.** `ClientMessage.json`, `ServerMessage.json`.
- **Sending.** `ClientMessage.send`, `ServerMessage.send`.
- **Responses.** `WireRequest.Answers`.
-/

namespace OciRuntime

open Durable
open Json (optionalField)

/-! ## Requests -/

structure ReadOutputRequest where
  process : ProcessTarget
  afterSequence : Nat
  maxBytes : Nat
  waitTimeoutMs : Option Nat

def maxOutputReadBytes : Nat := 16 * 1024 * 1024

def maxFileTransferBytes : Nat := 32 * 1024 * 1024

def maxFilesystemPathBytes : Nat := 4096

def maxFilesystemUserBytes : Nat := 256

def validatePositiveBounded (value maximum : Nat) (field : String) : Result Unit :=
  rejectIf (value = 0 ∨ maximum < value)
    (invalidRequest s!"{field} must be between 1 and {maximum}; received {value}")

def ReadOutputRequest.validate (request : ReadOutputRequest) : Result Unit :=
  validatePositiveBounded request.maxBytes maxOutputReadBytes "read_output.max_bytes"

def validateContainerPath (path field : String) : Result Unit := do
  rejectIf (path = "") (invalidRequest s!"{field} must not be empty")
  rejectIf (maxFilesystemPathBytes < path.utf8ByteSize)
    (invalidRequest s!"{field} is {path.utf8ByteSize} bytes; maximum is {maxFilesystemPathBytes}")
  rejectIf ('\x00' ∈ path.toList) (invalidRequest s!"{field} must not contain a NUL byte")
  rejectIf (path.toList.take 1 = ['~'] ∧ path ≠ "~" ∧ path.toList.take 2 ≠ ['~', '/'])
    (invalidRequest s!"{field} supports only the selected user's ~/ expansion")

def validateFileUser : Option String → Result Unit
  | none => .ok ()
  | some user =>
    rejectIf (user = "" ∨ maxFilesystemUserBytes < user.utf8ByteSize ∨ '\x00' ∈ user.toList)
      (invalidRequest s!"file user must contain 1 through {maxFilesystemUserBytes} non-NUL bytes")

def base64Char (c : Char) : Bool := c.isAlphanum || c == '+' || c == '/' || c == '='

/-- The standard base64 decoder: it accepts no character outside of its alphabet. -/
structure Base64 where
  decode : String → Except String (List UInt8)
  alphabet : ∀ {text data}, decode text = .ok data → ∀ c ∈ text.toList, base64Char c = true

/-- `MAX_FILE_TRANSFER_BYTES.div_ceil(3) * 4`. -/
def maximumEncoded : Nat := (maxFileTransferBytes + 2) / 3 * 4

def validateUpload (base64 : Base64) (request : FileRequest) : Result Unit := do
  rejectIf (request.context = none)
    (invalidRequest "file upload requires an idempotency operation context")
  let encoded ← okOr request.data (invalidRequest "file upload requires base64 data")
  rejectIf (maximumEncoded < encoded.utf8ByteSize)
    (invalidRequest s!"file upload payload exceeds {maxFileTransferBytes} decoded bytes")
  let decoded ← (base64.decode encoded).mapError fun error =>
    invalidRequest s!"file upload data is not valid base64: {error}"
  rejectIf (maxFileTransferBytes < decoded.length) (invalidRequest
      s!"file upload payload is {decoded.length} bytes; maximum is {maxFileTransferBytes}")

def validateDownload (request : FileRequest) : Result Unit := do
  rejectIf (request.data ≠ none) (invalidRequest "file download must not carry an upload payload")
  rejectIf (request.context ≠ none)
    (invalidRequest "file download must not carry a mutation context")

def FileRequest.validate (base64 : Base64) (request : FileRequest) : Result Unit := do
  validateContainerPath request.path "file.path"
  validateFileUser request.user
  match request.op with
  | .upload => validateUpload base64 request
  | .download => validateDownload request

/-- The requests whose frames grow with a payload. -/
inductive WireRequest
  | readOutput (request : ReadOutputRequest)
  | writeStdin (request : WriteStdinRequest)
  | file (request : FileRequest)

def WireRequest.validate (base64 : Base64) : WireRequest → Result Unit
  | .readOutput request => request.validate
  | .writeStdin request => request.validate
  | .file request => request.validate base64

/-! ## Documents -/

def bytesJson (data : List UInt8) : Json := .array (data.map fun byte => .number byte.toNat)

def ContainerTarget.json (target : ContainerTarget) : Json :=
  .object (("id", .string target.id.value) ::
    optionalField "generation" (target.generation.map .number))

def ProcessTarget.json (target : ProcessTarget) : Json :=
  .object [("container", target.container.json), ("process_id", .string target.processId.value)]

def OperationContext.json (context : OperationContext) : Json :=
  .object (("operation_id", .string context.operationId.value) ::
    optionalField "deadline_unix_ms" (context.deadlineUnixMs.map .number))

def ReadOutputRequest.json (request : ReadOutputRequest) : Json :=
  .object ([("process", request.process.json), ("after_sequence", .number request.afterSequence),
    ("max_bytes", .number request.maxBytes)] ++
    optionalField "wait_timeout_ms" (request.waitTimeoutMs.map .number))

def WriteStdinRequest.json (request : WriteStdinRequest) : Json :=
  .object [("context", request.context.json), ("process", request.process.json),
    ("data", bytesJson request.data)]

def FileOp.name : FileOp → String
  | .upload => "upload"
  | .download => "download"

def FileRequest.json (request : FileRequest) : Json :=
  .object ([("target", request.target.json), ("op", .string request.op.name),
    ("path", .string request.path)] ++
    optionalField "data" (request.data.map .string) ++
    optionalField "user" (request.user.map .string) ++
    optionalField "context" (request.context.map OperationContext.json))

def WireRequest.json : WireRequest → Json
  | .readOutput request =>
    .object [("operation", .string "read-output"), ("request", request.json)]
  | .writeStdin request =>
    .object [("operation", .string "write-stdin"), ("request", request.json)]
  | .file request => .object [("operation", .string "file"), ("request", request.json)]

/-- A request with the protocol and the number the client sends it under. -/
structure ClientMessage where
  protocol : Nat
  requestId : Nat
  request : WireRequest

def ClientMessage.json (message : ClientMessage) : Json :=
  .object [("type", .string "request"), ("protocol", .number message.protocol),
    ("request_id", .number message.requestId), ("request", message.request.json)]

def OutputStream.name : OutputStream → String
  | .stdout => "stdout"
  | .stderr => "stderr"

def OutputChunk.json (chunk : OutputChunk) : Json :=
  .object [("sequence", .number chunk.sequence), ("stream", .string chunk.stream.name),
    ("data", bytesJson chunk.data), ("eof", .bool chunk.eof)]

def FileResponse.json (response : FileResponse) : Json :=
  .object (("target", response.target.json) ::
    optionalField "data" (response.data.map .string) ++ [("size", .number response.size)])

inductive WireResponse
  | readOutput (chunks : List OutputChunk)
  | writeStdin
  | file (response : FileResponse)

def WireResponse.json : WireResponse → Json
  | .readOutput chunks =>
    .object [("operation", .string "read-output"),
      ("response", .array (chunks.map OutputChunk.json))]
  | .writeStdin => .object [("operation", .string "write-stdin")]
  | .file response => .object [("operation", .string "file"), ("response", response.json)]

/-- A successful response under the protocol and number of its request. -/
structure ServerMessage where
  protocol : Nat
  requestId : Nat
  response : WireResponse

def ServerMessage.json (message : ServerMessage) : Json :=
  .object [("type", .string "response"), ("protocol", .number message.protocol),
    ("request_id", .number message.requestId),
    ("result", .object [("status", .string "ok"), ("response", message.response.json)])]

/-! ## Sending -/

/-- The frame of a request, or the error `write_frame` returns for it. -/
def ClientMessage.send (message : ClientMessage) : Result (List UInt8) :=
  SdkWire.format.frame message.json.render

def ServerMessage.send (message : ServerMessage) : Result (List UInt8) :=
  SdkWire.format.frame message.json.render

/-- A document is sent if its text is within the limit. -/
theorem frame_isOk_iff {value : Json} (h : 0 < value.size) :
    (∃ frame, SdkWire.format.frame value.render = .ok frame) ↔
      value.size ≤ SdkWire.maxFrameBytes := by
  simp only [Framing.Format.frame_eq_ok_iff]
  constructor
  · rintro ⟨_, _, hl, _⟩
    exact hl
  · intro hl
    exact ⟨_, h, hl, rfl⟩

/-! ## Responses -/

/-- The end of a stream is the last that is said of it. -/
def EofIsLast : List OutputChunk → Prop
  | [] => True
  | chunk :: chunks =>
    (chunk.eof = true → ∀ later ∈ chunks, later.stream ≠ chunk.stream) ∧ EofIsLast chunks

/-- The successful responses to a request within its byte limit: output the host accepts for the
    read, in which a stream ends once; the unit response of a write; a file response without
    payload for an upload. -/
inductive WireRequest.Answers : WireRequest → WireResponse → Prop
  | readOutput {request : ReadOutputRequest} {chunks : List OutputChunk}
      (accepted : validateOutputChunks chunks request.afterSequence request.maxBytes = .ok ())
      (eofIsLast : EofIsLast chunks) : Answers (.readOutput request) (.readOutput chunks)
  | writeStdin {request : WriteStdinRequest} : Answers (.writeStdin request) .writeStdin
  | upload {request : FileRequest} {response : FileResponse} (upload : request.op = .upload)
      (payload : response.data = none)
      (generation : ∀ n ∈ response.target.generation, n ≤ u64Max) (size : response.size ≤ u64Max) :
      Answers (.file request) (.file response)

end OciRuntime
