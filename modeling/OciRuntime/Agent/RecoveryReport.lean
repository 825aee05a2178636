import OciRuntime.Sdk.Validation

/-!
# `OciRuntime.Agent.RecoveryReport` — the evidence a guest hands over at its shutdown

A guest agent lists the containers that ended, under a tag that only a holder of the session token
can compute (`agent-protocol/src/recovery.rs`). SHA-256 and the JSON encoding of a report are
parameters.
-/

namespace OciRuntime

open Durable

structure AgentRecoveryRecord where
  target : ContainerTarget
  configDigest : String
  initExitStatus : ExitStatus
  deriving DecidableEq

structure AgentRecoveryReport where
  schemaVersion : Nat
  records : List AgentRecoveryRecord
  deriving DecidableEq

structure AuthenticatedAgentRecoveryReport where
  report : AgentRecoveryReport
  authenticationTag : String

def reportError (code : ErrorCode) (message : String) : Error :=
  stateError code "authenticate-agent-recovery" message

/-! ## Reports -/

def sha256Hex (digits : List Char) : Bool := digits.length == 64 && digits.all lowercaseHex

def validateConfigDigest (digest : String) : Result Unit :=
  rejectIf (¬(digest.toList.take 7 = "sha256:".toList ∧ sha256Hex (digest.toList.drop 7)))
    (reportError .invalidArgument
      "recovery config digest must be canonical sha256:<64 lowercase hexadecimal bytes>")

namespace AgentRecoveryRecord

def validate (record : AgentRecoveryRecord) : Result Unit := do
  let generation ← okOr record.target.generation
    (reportError .invalidArgument "recovery evidence requires an exact container generation")
  rejectIf (generation = 0)
    (reportError .invalidArgument "recovery evidence requires a positive container generation")
  validateConfigDigest record.configDigest
  record.initExitStatus.validate.mapError fun error => reportError error.code
    s!"recovery evidence contains an invalid init exit status: {error.message}"

def key (record : AgentRecoveryRecord) : String × Nat :=
  (record.target.id.value, record.target.generation.getD 0)

def keyLt (left right : AgentRecoveryRecord) : Bool :=
  left.key.1 < right.key.1 || (left.key.1 == right.key.1 && left.key.2 < right.key.2)

end AgentRecoveryRecord

def AgentRecoveryReport.validate (report : AgentRecoveryReport) : Result Unit := do
  rejectIf (report.schemaVersion ≠ 1) (reportError .failedPrecondition
    s!"unsupported recovery report schema {report.schemaVersion}; expected 1")
  rejectIf (1024 < report.records.length) (reportError .resourceExhausted
    s!"recovery report contains {report.records.length} records; maximum is 1024")
  report.records.forM AgentRecoveryRecord.validate
  rejectIf (¬report.records.IsChain (AgentRecoveryRecord.keyLt · ·)) (reportError .invalidArgument
      "recovery records must be sorted and unique by exact container generation")

/-- `AgentRecoveryReport::new` -/
def buildReport (records : List AgentRecoveryRecord) : Result AgentRecoveryReport := do
  let report := ⟨1, records.mergeSort fun left right => !right.keyLt left⟩
  AgentRecoveryReport.validate report
  pure report

/-! ## Tags -/

def encodeHex (bytes : List UInt8) : String :=
  String.ofList (bytes.flatMap fun byte =>
    [Nat.digitChar (byte.toNat / 16), Nat.digitChar (byte.toNat % 16)])

def hexValue (c : Char) : Nat := if c.toNat < 58 then c.toNat - 48 else c.toNat - 87

def decodeHex : List Char → List UInt8
  | high :: low :: rest => UInt8.ofNat (16 * hexValue high + hexValue low) :: decodeHex rest
  | _ => []

def decodeAuthenticationTag (encoded : String) : Result (List UInt8) := do
  rejectIf (¬sha256Hex encoded.toList) (reportError .invalidArgument
    "recovery authentication tag must contain 64 lowercase hexadecimal characters")
  pure (decodeHex encoded.toList)

def constantTimeEq (left right : List UInt8) : Bool :=
  left.length == right.length &&
    (left.zip right).foldl (fun difference pair => difference ||| (pair.1 ^^^ pair.2)) 0 == 0

variable (sha256 : List UInt8 → Vector UInt8 32)

def hmacPad (fill : UInt8) (key : List UInt8) : List UInt8 :=
  key.map (fill ^^^ ·) ++ List.replicate (64 - key.length) fill

def authenticationDomain : List UInt8 := "a3s-oci-agent-recovery-v1\x00".toUTF8.data.toList

def hmacInner (key message : List UInt8) : List UInt8 :=
  hmacPad 0x36 key ++ (authenticationDomain ++ message)

def hmacOuter (key message : List UInt8) : List UInt8 :=
  hmacPad 0x5c key ++ (sha256 (hmacInner key message)).toList

def hmacSha256 (key message : List UInt8) : List UInt8 :=
  (sha256 (hmacOuter sha256 key message)).toList

variable (toVec : AgentRecoveryReport → List UInt8) (token : Vector UInt8 32)

def AgentRecoveryReport.authenticate (report : AgentRecoveryReport) :
    Result AuthenticatedAgentRecoveryReport := do
  report.validate
  pure ⟨report, encodeHex (hmacSha256 sha256 token.toList (toVec report))⟩

def AuthenticatedAgentRecoveryReport.verify (authenticated : AuthenticatedAgentRecoveryReport) :
    Result AgentRecoveryReport := do
  authenticated.report.validate
  let received ← decodeAuthenticationTag authenticated.authenticationTag
  let expected := hmacSha256 sha256 token.toList (toVec authenticated.report)
  rejectIf (¬constantTimeEq received expected)
    (reportError .permissionDenied "recovery report authentication failed")
  pure authenticated.report

end OciRuntime
