import OciRuntime.Lib.Framing
import OciRuntime.Sdk.Basic

/-!
# `OciRuntime.Transport.Wire` — the two framings of the runtime

Hosts and guest agents talk over `agent-protocol/src/wire.rs`, SDK clients and the runtime over
`sdk/src/transport/wire.rs`. Both are a JSON document behind its length; they differ in the errors
they report. JSON itself is a parameter.
-/

namespace OciRuntime

open Framing

/-! ## Agent frames (`agent-protocol/src/wire.rs`) -/

namespace AgentWire

def agentMaxFrameBytes : Nat := 64 * 1024 * 1024

def protocolWireError (code : ErrorCode) (operation message : String) : Error :=
  (Error.new code message).forOperation operation

def ioError (operation error : String) : Error :=
  (protocolWireError .unavailable operation s!"agent transport I/O failed: {error}").retryable true

def frameTooLarge (actual maximum : Nat) : Error :=
  protocolWireError .resourceExhausted "encode-agent-frame"
    s!"agent frame is {actual} bytes; maximum is {maximum}"

def format : Format Error where
  limit := agentMaxFrameBytes
  limit_lt := by decide
  encodeFailed error :=
    protocolWireError .internal "encode-agent-frame" s!"failed to encode agent frame: {error}"
  unrepresentable actual := frameTooLarge actual (2 ^ 32 - 1)
  tooLarge actual := frameTooLarge actual agentMaxFrameBytes
  headerFailed := ioError "read-agent-frame-header"
  headerTruncated := ioError "read-agent-frame-header"
  badLength length :=
    protocolWireError .resourceExhausted "read-agent-frame"
      s!"agent frame length {length} is outside 1..={agentMaxFrameBytes} bytes"
  payloadTruncated := ioError "read-agent-frame-payload"
  decodeFailed error :=
    protocolWireError .invalidArgument "decode-agent-frame" s!"invalid agent frame JSON: {error}"

end AgentWire

/-! ## SDK frames (`sdk/src/transport/wire.rs`) -/

namespace SdkWire

def maxFrameBytes : Nat := 64 * 1024 * 1024

def transportError (operation message : String) : Error :=
  ((Error.new .unavailable message).forOperation operation).retryable true

def protocolError (message : String) : Error :=
  (Error.new .internal message).forOperation "sdk-transport"

def frameTooLarge (operation : String) (length : Nat) : Error :=
  (Error.new .resourceExhausted
    s!"SDK transport frame is {length} bytes; maximum is {maxFrameBytes}").forOperation operation

def format : Format Error where
  limit := maxFrameBytes
  limit_lt := by decide
  encodeFailed error := protocolError s!"failed to encode SDK transport frame: {error}"
  unrepresentable := frameTooLarge "sdk-transport-write"
  tooLarge := frameTooLarge "sdk-transport-write"
  headerFailed error :=
    transportError "sdk-transport-read" s!"failed to read SDK frame length: {error}"
  headerTruncated error :=
    transportError "sdk-transport-read" s!"truncated SDK frame length: {error}"
  badLength length :=
    if length = 0 then protocolError "SDK transport frame must not be empty"
    else frameTooLarge "sdk-transport-read" length
  payloadTruncated error :=
    transportError "sdk-transport-read" s!"truncated SDK frame payload: {error}"
  decodeFailed error := protocolError s!"invalid SDK transport frame: {error}"

end SdkWire

/-! ## Both -/

/-- Which of the two connections a frame travels on. -/
inductive Transport
  | agent | sdk

namespace Transport

def format : Transport → Format Error
  | .agent => AgentWire.format
  | .sdk => SdkWire.format

variable {α : Type}

/-- The bytes `write_frame` hands to the writer. -/
def writeFrame (transport : Transport) (json : Codec α) (value : α) : Result (List UInt8) :=
  transport.format.writeFrame json value

/-- One call of `read_frame`. -/
def readFrame (transport : Transport) (json : Codec α) (source : Source) :
    Result (Option α × Source) :=
  transport.format.readFrame json source

/-- Calls of `read_frame` in a row, up to the first that returns no message. -/
def readFrames (transport : Transport) (json : Codec α) (calls : Nat) (source : Source) :
    List (Result (Option α)) :=
  transport.format.readFrames json calls source

end Transport

end OciRuntime
