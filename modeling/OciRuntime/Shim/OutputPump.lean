import OciRuntime.Service.Output
import OciRuntime.Shim.Task

/-!
# `OciRuntime.Shim.OutputPump` — how the output of a process reaches its FIFOs

The pump of a process reads the output of the runtime from its cursor on, writes the data of each
chunk to the FIFO of its stream, as much as the kernel takes at a time, and commits its cursor to
the metadata after every write (`io/output.rs`, `DurableOutputCursor`). A replacement shim starts a
new pump at the committed cursor, unless an exit of the process is recorded
(`start_restored_pumps`).

A shim is taken to run one pump for the process. The Start of an exec looks for a pump and inserts its
own in two critical sections, so that two Starts at once may run two; these runs are not modelled.

## Contents
- **The pump.** `OutputEndpoints`, `OutputPump`, `OutputPump.take`.
- **Its steps.** `PumpEffect`, `PumpStep`.
- **Delivery.** `OutputDelivery`: the runtime's output, the metadata, the pump and the FIFOs;
  `DeliveryAction`, `OutputDelivery.Step`, `OutputDelivery.Runs`.
-/

namespace OciRuntime

open Durable

/-! ## The pump -/

/-- Which FIFOs the process has. A terminal has no separate stderr. -/
structure OutputEndpoints where
  stdout : Bool
  stderr : Bool
  terminal : Bool

namespace OutputEndpoints

/-- A FIFO is open for the stream. -/
def fifo (endpoints : OutputEndpoints) : OutputStream → Bool
  | .stdout => endpoints.stdout
  | .stderr => !endpoints.terminal && endpoints.stderr

/-- The streams whose end the pump waits for. -/
def awaits (endpoints : OutputEndpoints) : OutputStream → Bool
  | .stdout => endpoints.terminal || endpoints.stdout
  | .stderr => !endpoints.terminal && endpoints.stderr

/-- The condition under which `start_process_pumps` starts an output pump. -/
def hasOutput (endpoints : OutputEndpoints) : Bool :=
  endpoints.stdout || (!endpoints.terminal && endpoints.stderr)

end OutputEndpoints

def ProcessJournal.outputEndpoints (journal : ProcessJournal) : OutputEndpoints :=
  ⟨journal.stdout ≠ "", journal.stderr ≠ "", journal.terminal⟩

/-- Where the pump is: at the head of its loop, before a chunk, before a write to a FIFO, before the
    commit of the cursor `next`, or at its end. -/
inductive PumpPhase
  | reading
  | chunks (rest : List OutputChunk)
  | writing (stream : OutputStream) (bytes : List UInt8) (rest : List OutputChunk)
  | committing (next : Nat) (stream : OutputStream) (bytes : List UInt8) (rest : List OutputChunk)
  | finished
  | failed (error : Error)
  deriving DecidableEq

structure OutputPump where
  cursor : Nat
  stdoutDone : Bool
  stderrDone : Bool
  phase : PumpPhase
  deriving DecidableEq

def stdioError (code : ErrorCode) (message : String) : Error :=
  (Error.new code message).forOperation "containerd-stdio"

/-- `validate_output_chunk`: the cursor after the chunk. -/
def validateOutputChunk (chunk : OutputChunk) (cursor : Nat) : Result Nat := do
  rejectIf (chunk.eof = false ∧ chunk.data = [])
    (stdioError .internal "runtime returned an empty output data chunk")
  rejectIf (chunk.eof = true ∧ chunk.data ≠ [])
    (stdioError .internal "runtime returned output data in an EOF chunk")
  rejectIf (u64Max < cursor + chunk.width)
    (stdioError .resourceExhausted "containerd output cursor space is exhausted")
  rejectIf (chunk.sequence ≠ cursor + chunk.width) (stdioError .internal
    (s!"runtime output cursor is not contiguous: received {chunk.sequence}, " ++
      s!"expected {cursor + chunk.width}"))
  .ok (cursor + chunk.width)

/-- `validate_output_stream_state`. -/
def validateOutputStreamState (chunk : OutputChunk) (terminal stdoutDone stderrDone : Bool) :
    Result Unit :=
  match chunk.stream with
  | .stdout => rejectIf (stdoutDone = true)
      (stdioError .internal "runtime returned stdout after its EOF cursor")
  | .stderr => do
    rejectIf (terminal = true)
      (stdioError .internal "runtime returned a separate stderr stream for terminal I/O")
    rejectIf (stderrDone = true)
      (stdioError .internal "runtime returned stderr after its EOF cursor")

namespace OutputPump

/-- Whether the end of the stream was seen. -/
def done (pump : OutputPump) : OutputStream → Bool
  | .stdout => pump.stdoutDone
  | .stderr => pump.stderrDone

def finishStream (pump : OutputPump) : OutputStream → OutputPump
  | .stdout => { pump with stdoutDone := true }
  | .stderr => { pump with stderrDone := true }

/-- The head of the loop. -/
def loop (pump : OutputPump) : OutputPump :=
  { pump with phase := if pump.stdoutDone && pump.stderrDone then .finished else .reading }

/-- A pump starts with the streams done that it does not wait for. -/
def start (endpoints : OutputEndpoints) (cursor : Nat) : OutputPump :=
  loop { cursor
         stdoutDone := !endpoints.awaits .stdout
         stderrDone := !endpoints.awaits .stderr
         phase := .reading }

/-- The output pump that `start_process_pumps` starts, if any. -/
def spawn (endpoints : OutputEndpoints) (cursor : Nat) : Option OutputPump :=
  if endpoints.hasOutput then some (start endpoints cursor) else none

theorem eq_start {cursor : Nat} (h : spawn endpoints cursor = some pump) :
    pump = start endpoints cursor := by
  unfold spawn at h
  split at h
  · exact (Option.some.inj h).symm
  · cases h

theorem spawn_of_hasOutput (h : endpoints.hasOutput = true) (cursor : Nat) :
    spawn endpoints cursor = some (start endpoints cursor) := if_pos h

def missingFifo (stream : OutputStream) : Error :=
  match stream with
  | .stdout => stdioError .internal
      "runtime returned stdout for a process configured without stdout capture"
  | .stderr => stdioError .internal
      "runtime returned stderr for a process configured without stderr capture"

/-- What the pump does with one chunk, up to the write or the commit that follows. -/
def take (endpoints : OutputEndpoints) (pump : OutputPump) (chunk : OutputChunk)
    (rest : List OutputChunk) : OutputPump :=
  match (do
    let next ← validateOutputChunk chunk pump.cursor
    validateOutputStreamState chunk endpoints.terminal pump.stdoutDone pump.stderrDone
    (.ok next : Result Nat)) with
  | .error error => { pump with phase := .failed error }
  | .ok next =>
    if chunk.data ≠ [] then
      if endpoints.fifo chunk.stream then
        { pump with phase := .writing chunk.stream chunk.data rest }
      else if endpoints.terminal ∧ chunk.stream = .stdout then
        { pump with phase := .committing next chunk.stream [] rest }
      else { pump with phase := .failed (missingFifo chunk.stream) }
    else
      { (if chunk.eof then pump.finishStream chunk.stream else pump) with
        phase := .committing next chunk.stream [] rest }

end OutputPump

/-! ## Its steps -/

/-- What a step of the pump does beside moving the pump: the output it goes over, what the FIFOs take
    of it, and the cursor it commits. -/
structure PumpEffect where
  passed : List OutputEntry := []
  written : List OutputEntry := []
  committed : Option Nat := none

/-- One step of the pump.
    - A read is answered with contiguous chunks of the output after the pump's cursor, and not with
      nothing when there is some.
    - The kernel takes at least one byte of a write. -/
inductive PumpStep (endpoints : OutputEndpoints) (log : List OutputEntry) (pump : OutputPump) :
    PumpEffect → OutputPump → Prop
  | read (chunks : List OutputChunk) (phase : pump.phase = .reading)
      (contiguous : Contiguous pump.cursor chunks)
      (answer : chunks.flatMap (·.entries) <+: log.drop pump.cursor)
      (answered : pump.cursor < log.length → chunks ≠ []) :
      PumpStep endpoints log pump {} { pump with phase := .chunks chunks }
  | loop (phase : pump.phase = .chunks []) : PumpStep endpoints log pump {} pump.loop
  | take (chunk : OutputChunk) (rest : List OutputChunk) (phase : pump.phase = .chunks (chunk :: rest)) :
      PumpStep endpoints log pump
        { passed := if (pump.take endpoints chunk rest).phase matches .committing .. then
            chunk.entries else [] }
        (pump.take endpoints chunk rest)
  | write (stream : OutputStream) (bytes : List UInt8) (rest : List OutputChunk) (count : Nat)
      (phase : pump.phase = .writing stream bytes rest) (positive : 0 < count)
      (atMost : count ≤ bytes.length) :
      PumpStep endpoints log pump
        { passed := (bytes.take count).map (.byte stream)
          written := (bytes.take count).map (.byte stream) }
        { pump with phase := .committing (pump.cursor + count) stream (bytes.drop count) rest }
  | commit (next : Nat) (stream : OutputStream) (bytes : List UInt8) (rest : List OutputChunk)
      (phase : pump.phase = .committing next stream bytes rest) :
      PumpStep endpoints log pump { committed := some next }
        { pump with
          cursor := next
          phase := if bytes = [] then .chunks rest else .writing stream bytes rest }

/-! ## Delivery -/

/-- One lifetime of a pump: the cursor it started at, and what it went over. -/
structure Lifetime where
  start : Nat
  passed : List OutputEntry

def Lifetime.reached (lifetime : Lifetime) : Nat := lifetime.start + lifetime.passed.length

/-- The output of one process on its way.
    - `log`: what the runtime has produced, `written`: what the FIFOs have taken, oldest first.
    - `journal`: the journal of the process in the metadata file, and in the shim if one is running.
    - `lifetimes`: those of the pumps so far, the last one first. -/
structure OutputDelivery where
  log : List OutputEntry
  journal : ProcessJournal
  running : Bool
  pump : Option OutputPump
  written : List OutputEntry
  lifetimes : List Lifetime

inductive DeliveryAction
  /-- The runtime produces a byte, or the end of a stream. -/
  | produce (entry : OutputEntry)
  | pump
  /-- The exit of the process is recorded. -/
  | exit
  | crash
  /-- A replacement shim, which may have learned the exit of the process from the runtime. -/
  | restart (learned : Option (ExitStatus × Nat))

/-- The journal after the pump has committed a cursor. -/
def ProcessJournal.committed (journal : ProcessJournal) (cursor : Option Nat) : ProcessJournal :=
  match cursor with
  | none => journal
  | some cursor =>
    match journal.commitOutput cursor with
    | .ok (some changed) => changed
    | _ => journal

/-- The journal of the process in a replacement shim. -/
def ProcessJournal.restored (journal : ProcessJournal) (learned : Option (ExitStatus × Nat)) :
    ProcessJournal :=
  match journal.exit, learned with
  | none, some (exit, now) => { journal with exit := some exit, exitedAt := some now }
  | _, _ => journal

namespace OutputDelivery

/-- A process that was just created. -/
def new (journal : ProcessJournal) : OutputDelivery where
  log := []
  journal
  running := true
  pump := OutputPump.spawn journal.outputEndpoints journal.outputCursor
  written := []
  lifetimes := [⟨journal.outputCursor, []⟩]

/-- The last pump has gone over `entries`. -/
def pass (entries : List OutputEntry) : List Lifetime → List Lifetime
  | [] => []
  | lifetime :: rest => { lifetime with passed := lifetime.passed ++ entries } :: rest

/-- A replacement shim: it starts a pump at the committed cursor, unless it knows an exit. -/
def restart (endpoints : OutputEndpoints) (delivery : OutputDelivery)
    (learned : Option (ExitStatus × Nat)) : OutputDelivery :=
  let journal := delivery.journal.restored learned
  if journal.exit.isSome then { delivery with journal, running := true }
  else { delivery with
    journal
    running := true
    pump := OutputPump.spawn endpoints journal.outputCursor
    lifetimes := ⟨journal.outputCursor, []⟩ :: delivery.lifetimes }

/-- One action. The runtime produces output of captured streams, and nothing of a stream after its
    end. -/
inductive Step (endpoints : OutputEndpoints) (delivery : OutputDelivery) :
    DeliveryAction → OutputDelivery → Prop
  | produce (entry : OutputEntry) (room : delivery.log.length < u64Max)
      (captured : endpoints.awaits entry.stream = true)
      (unended : .finished entry.stream ∉ delivery.log) :
      Step endpoints delivery (.produce entry) { delivery with log := delivery.log ++ [entry] }
  | pump {pump next : OutputPump} {effect : PumpEffect} (runs : delivery.pump = some pump)
      (step : PumpStep endpoints delivery.log pump effect next) :
      Step endpoints delivery .pump { delivery with
        journal := delivery.journal.committed effect.committed
        pump := some next
        written := delivery.written ++ effect.written
        lifetimes := pass effect.passed delivery.lifetimes }
  | exit {exit : ExitStatus} {now : Nat} {error : Error} {changed : ProcessJournal}
      (runs : delivery.running = true)
      (recorded : TaskState.recordExitOf delivery.journal exit now error = .ok changed) :
      Step endpoints delivery .exit { delivery with journal := changed }
  | crash : Step endpoints delivery .crash { delivery with running := false, pump := none }
  | restart (learned : Option (ExitStatus × Nat)) (stopped : delivery.running = false) :
      Step endpoints delivery (.restart learned) (delivery.restart endpoints learned)

/-- The states of the delivery that are reached from `start` by actions that satisfy `guard`. -/
inductive Runs (endpoints : OutputEndpoints) (guard : OutputDelivery → DeliveryAction → Prop)
    (start : OutputDelivery) : OutputDelivery → Prop
  | init : Runs endpoints guard start start
  | step {delivery later : OutputDelivery} {action : DeliveryAction}
      (before : Runs endpoints guard start delivery) (allowed : guard delivery action)
      (step : Step endpoints delivery action later) : Runs endpoints guard start later

theorem Runs.invariant {guard : OutputDelivery → DeliveryAction → Prop}
    {I : OutputDelivery → Prop} (h : Runs endpoints guard start delivery) (hst : I start)
    (hs : ∀ delivery action later, I delivery → guard delivery action →
      Step endpoints delivery action later → I later) : I delivery := by
  induction h with
  | init => exact hst
  | step _ allowed step ih => exact hs _ _ _ ih allowed step

end OutputDelivery

end OciRuntime
