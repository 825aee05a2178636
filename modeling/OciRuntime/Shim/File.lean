import OciRuntime.Lib.PrettyJson
import OciRuntime.Shim.Task

/-!
# `OciRuntime.Shim.File` — the metadata file

The file holds the indented JSON document of the metadata. A store checks the value and replaces the
file; a load refuses a file of more than a megabyte before it decodes and checks it
(`ShimMetadata::store` and `load`).

## Contents
- **The document.** `ShimMetadata.document`, `ShimMetadata.encoded`.
- **Writing and reading.** `ShimMetadata.store`, `ShimMetadata.load`.
-/

namespace OciRuntime

open Durable
open Json (optionalField)

/-! ## The document -/

def ofInt : Int → Json
  | .ofNat n => .number n
  | .negSucc n => .negative (n + 1)

/-- A counter that is left out when it is zero. -/
def counterField (name : String) (value : Nat) : List (String × Json) :=
  if value = 0 then [] else [(name, .number value)]

def PendingStdinWrite.document (write : PendingStdinWrite) : Json :=
  .object [("sequence", .number write.sequence),
    ("data", .array (write.data.map fun byte => .number byte.toNat))]

def TerminalSize.document (size : TerminalSize) : Json :=
  .object [("width", .number size.width.toNat), ("height", .number size.height.toNat)]

def PendingResize.document (resize : PendingResize) : Json :=
  .object [("sequence", .number resize.sequence), ("size", resize.size.document)]

def PendingSignal.document (signal : PendingSignal) : Json :=
  .object [("sequence", .number signal.sequence), ("signal", ofInt signal.signal),
    ("all", .bool signal.all)]

def ExitStatus.document (status : ExitStatus) : Json :=
  .object (optionalField "exit_code" (status.exitCode.map ofInt) ++
    optionalField "signal" (status.signal.map ofInt) ++ [("oom_killed", .bool status.oomKilled)])

def ContainerTarget.document (target : ContainerTarget) : Json :=
  .object ([("id", .string target.id.value)] ++
    optionalField "generation" (target.generation.map .number))

def ProcessRecord.document (record : ProcessRecord) : Json :=
  .object ([("target", .object [("container", record.target.container.document),
      ("process_id", .string record.target.processId.value)])] ++
    optionalField "pid" (record.pid.map .number) ++ [("terminal", .bool record.terminal)])

def ControlOperationKind.name : ControlOperationKind → String
  | .pause => "pause"
  | .resume => "resume"
  | .update => "update"

def ExecStage.name : ExecStage → String
  | .added => "added"
  | .starting => "starting"
  | .started => "started"
  | .exited => "exited"

def RestoreState.field : RestoreState → List (String × Json)
  | .none => []
  | .pendingStart => [("restore_state", .string "pending-start")]
  | .started => [("restore_state", .string "started")]

def StdinCloseState.field : StdinCloseState → List (String × Json)
  | .opened => []
  | .closing => [("stdin_close_state", .string "closing")]
  | .closed => [("stdin_close_state", .string "closed")]

def DriverKind.name : DriverKind → String
  | .nativeLinux => "native-linux"
  | .libkrunKvm => "libkrun-kvm"
  | .libkrunHvf => "libkrun-hvf"
  | .libkrunWhpx => "libkrun-whpx"

def IsolationClass.name : IsolationClass → String
  | .dedicatedVm => "dedicated-vm"
  | .sharedGuestKernel => "shared-guest-kernel"
  | .sharedHostKernel => "shared-host-kernel"

namespace ProcessJournal

/-- The names of the streams, from `stdin` to `terminal`. -/
def streamFields (journal : ProcessJournal) : List (String × Json) :=
  [("stdin", .string journal.stdin), ("stdout", .string journal.stdout),
    ("stderr", .string journal.stderr), ("terminal", .bool journal.terminal)]

/-- The journals, from `stdin_sequence` to `output_cursor`. -/
def journalFields (journal : ProcessJournal) : List (String × Json) :=
  counterField "stdin_sequence" journal.stdinSequence ++
    optionalField "pending_stdin_write" (journal.pendingStdinWrite.map (·.document)) ++
    journal.stdinCloseState.field ++
    counterField "resize_sequence" journal.resizeSequence ++
    optionalField "pending_resize" (journal.pendingResize.map (·.document)) ++
    optionalField "terminal_size" (journal.terminalSize.map (·.document)) ++
    counterField "signal_sequence" journal.signalSequence ++
    optionalField "pending_signal" (journal.pendingSignal.map (·.document)) ++
    counterField "output_cursor" journal.outputCursor

def exitFields (journal : ProcessJournal) : List (String × Json) :=
  optionalField "exit" (journal.exit.map (·.document)) ++
    optionalField "exited_at_unix_nanos" (journal.exitedAt.map .number)

end ProcessJournal

section Documents

/- `documents` reads the text of an OCI process or of resources as a JSON value. -/
variable (documents : String → Json)

def PendingControlOperation.document (operation : PendingControlOperation) : Json :=
  .object ([("sequence", .number operation.sequence), ("kind", .string operation.kind.name)] ++
    optionalField "request_digest" (operation.requestDigest.map .string) ++
    optionalField "resources" (operation.resources.map documents))

def ExecMetadata.document (exec : ExecMetadata) : Json :=
  .object ([("exec_id", .string exec.execId)] ++ counterField "incarnation" exec.incarnation ++
    [("stage", .string exec.stage.name), ("process", documents exec.process)] ++
    exec.streamFields ++ exec.journalFields ++
    optionalField "record" (exec.record.map (·.document)) ++ exec.exitFields)

namespace ShimMetadata

def document (metadata : ShimMetadata) : Json :=
  .object ([("schema_version", .number metadata.schemaVersion),
      ("namespace", .string metadata.namespace_), ("task_id", .string metadata.taskId)] ++
    optionalField "incarnation" (metadata.incarnation.map .string) ++
    [("container_id", .string metadata.containerId.value),
      ("generation", .number metadata.generation), ("driver", .string metadata.driver.name),
      ("isolation", .string metadata.isolation.name), ("bundle", .string metadata.bundle)] ++
    metadata.streamFields ++ metadata.restoreState.field ++ metadata.journalFields ++
    counterField "control_sequence" metadata.controlSequence ++
    optionalField "pending_control" (metadata.pendingControl.map (·.document documents)) ++
    optionalField "last_update_digest" (metadata.lastUpdateDigest.map .string) ++
    [("rootfs_mounted", .bool metadata.rootfsMounted)] ++ metadata.exitFields ++
    counterField "exec_sequence" metadata.execSequence ++
    [("execs", .array (metadata.execs.map (·.document documents)))])

/-- `serde_json::to_vec_pretty`. -/
def encoded (metadata : ShimMetadata) : List UInt8 := (metadata.document documents).pretty

/-! ## Writing and reading -/

/-- The bytes that a store writes. It checks the value, but not how long its document is. -/
def store (ids : ShimIdentities) (metadata : ShimMetadata) : Result (List UInt8) := do
  metadata.validate ids metadata.bundle
  .ok (metadata.encoded documents)

end ShimMetadata

end Documents

/-- The value of the file in `directory`; there may be no file. -/
def ShimMetadata.load (ids : ShimIdentities) (decode : List UInt8 → Result ShimMetadata)
    (directory : String) : Option (List UInt8) → Result (Option ShimMetadata)
  | none => .ok none
  | some bytes => do
    rejectIf (maxMetadataBytes < bytes.length) (metadataError
      (s!"shim metadata {ShimMetadata.path directory} exceeds the " ++
        s!"{maxMetadataBytes}-byte limit"))
    let metadata ← decode bytes
    metadata.validate ids directory
    .ok (some metadata)

end OciRuntime
