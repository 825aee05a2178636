import OciRuntime.Lib.OrderedStream
import OciRuntime.Shim.Task

/-!
# `OciRuntime.Shim.StdinPump` — how the input of a process gets from its FIFO to the runtime

The stdin pump of a process reads its FIFO (`io.rs`, `pump_stdin`). It journals each chunk in the
metadata, writes it through the runtime and commits it (`dispatch_stdin_write`), and at the end of the
input it journals, submits and commits the close (`close_runtime_stdin`). Every error and every
cancellation ends the pump. A replacement shim starts a new one from the metadata file, which replays
what is pending. As for the output (`Shim.OutputPump`), a shim is taken to run one pump for the
process.

## Contents
- **The pump.** `StdinPhase`, `StdinPump`, `stdinOperation`.
- **Delivery.** `StdinDelivery`: the metadata, the pump, and the trace of what happened;
  `StdinAction`, `StdinDelivery.step`.
- **Runs.** `StdinAction.Admitted`, `StdinDelivery.Runs`.
-/

namespace OciRuntime

open Durable OrderedStream

/-! ## The pump -/

/-- Where the pump is.
    - `waiting`, `waitingClose`: before its activation, with what the journal held.
    - `dispatching`, `dispatchingClose`: before the request is sent; `inFlight`, `closeInFlight`: until
      it ends. -/
inductive StdinPhase
  | waiting (pending : Option PendingStdinWrite)
  | reading
  | preparing (data : List UInt8)
  | dispatching (write : PendingStdinWrite)
  | inFlight (write : PendingStdinWrite)
  | committing (write : PendingStdinWrite)
  | preparingClose
  | waitingClose
  | dispatchingClose
  | closeInFlight
  | committingClose
  | finished

structure StdinPump where
  sequence : Nat
  phase : StdinPhase

/-- The action a write is identified by. The namespace, the task and the exec, which the digest of the
    operation id covers too, are those of the one process. -/
def stdinOperation (sequence : Nat) : String := s!"write-stdin-{sequence}"

theorem stdinOperation_injective : Function.Injective stdinOperation := by
  intro first second h
  exact eq_of_repr_eq (by simpa [stdinOperation] using h)

/-- The stdin pump that `start_process_pumps` starts for a process. -/
def StdinPump.spawn (journal : ProcessJournal) : Option StdinPump :=
  if journal.stdin = "" ∨ journal.exit.isSome = true then none
  else
    match journal.stdinCloseState with
    | .opened => some ⟨journal.stdinSequence, .waiting journal.pendingStdinWrite⟩
    | .closing => some ⟨journal.stdinSequence, .waitingClose⟩
    | .closed => some ⟨journal.stdinSequence, .finished⟩

/-! ## Delivery -/

/-- How a call of the journal ends whose change has to be written: done, or refused. When it is
    refused the new file may be in place (`written`), and a pump that is aborted may not get to take
    the change in memory back (`kept`). -/
inductive JournalOutcome
  | stored
  | failed (written kept : Bool)

/-- The input of one process on its way.
    - `file`, `memory`: the journal of the process in the metadata file and in the shim; no shim is
      running without a journal in memory.
    - `trace`: what the pump, the journal and the runtime have done, oldest first. -/
structure StdinDelivery where
  file : ProcessJournal
  memory : Option ProcessJournal
  pump : Option StdinPump
  trace : List (Event String (List UInt8))

inductive StdinAction
  /-- The Start of the process lets the pump go. -/
  | activate
  | read (data : List UInt8)
  /-- The FIFO has ended, or is empty while CloseIO waits. -/
  | finish
  | prepare (outcome : JournalOutcome)
  | submit
  /-- The runtime answers that the write was done, or the process is found to be gone. -/
  | answer
  | commit (outcome : JournalOutcome)
  | prepareClose (outcome : JournalOutcome)
  | submitClose
  | answerClose
  | commitClose (outcome : JournalOutcome)
  /-- The pump is cancelled, or a request fails. -/
  | stop
  /-- The runtime applies a write that was sent. -/
  | apply (operation : String) (data : List UInt8)
  | applyClose
  | exit
  /-- Another section of the shim changes the rest of the journal and writes it. -/
  | other (journal : ProcessJournal) (written kept : Bool)
  | crash
  /-- A replacement shim reads the metadata and writes it back. -/
  | restart (journal : ProcessJournal) (outcome : JournalOutcome)

namespace StdinDelivery

/-- A process that was just created. -/
def new (journal : ProcessJournal) : StdinDelivery :=
  ⟨journal, some journal, StdinPump.spawn journal, []⟩

/-- The pump calls the journal. If the call returns, `event` has happened and the pump goes on in
    `phase`, otherwise it ends. -/
def journalCall (delivery : StdinDelivery)
    (call : ProcessJournal → Result (Option ProcessJournal)) (outcome : JournalOutcome)
    (event : Event String (List UInt8)) (pump : StdinPump) : StdinDelivery :=
  match delivery.memory with
  | none => delivery
  | some journal =>
    match call journal with
    | .error _ => { delivery with pump := none }
    | .ok none => { delivery with pump := some pump }
    | .ok (some changed) =>
      match outcome with
      | .stored => ⟨changed, some changed, some pump, delivery.trace ++ [event]⟩
      | .failed written kept =>
        { delivery with
          file := if written then changed else delivery.file
          memory := some (if kept then changed else journal)
          pump := none }

/-- What becomes known when a replacement shim finds this journal: a chunk or a close whose journal
    entry was written but not acknowledged, a commit likewise. -/
def found (trace : List (Event String (List UInt8))) (journal : ProcessJournal) :
    List (Event String (List UInt8)) :=
  (if (committedIn trace).length < journal.stdinSequence then [.committed journal.stdinSequence]
    else []) ++
  (match journal.pendingStdinWrite with
    | some write =>
      if (preparedIn trace).length < write.sequence then [.prepared write.sequence write.data] else []
    | none => []) ++
  (if journal.stdinCloseState ≠ .opened ∧ ¬ trace.any (fun event => event matches .closePrepared) then
    [.closePrepared] else []) ++
  (if journal.stdinCloseState = .closed ∧ ¬ trace.any (fun event => event matches .closeCommitted) then
    [.closeCommitted] else [])

/-- One action of the running pump. -/
def pumpStep (delivery : StdinDelivery) (pump : StdinPump) : StdinAction → StdinDelivery
  | .activate =>
    match pump.phase with
    | .waiting (some pending) =>
      -- `replay_stdin_write`
      if pump.sequence + 1 ≤ u64Max ∧ pending.sequence = pump.sequence + 1 then
        { delivery with pump := some { pump with phase := .dispatching pending } }
      else { delivery with pump := none }
    | .waiting none => { delivery with pump := some { pump with phase := .reading } }
    | .waitingClose => { delivery with pump := some { pump with phase := .dispatchingClose } }
    | _ => delivery
  | .read data =>
    match pump.phase with
    | .reading => { delivery with pump := some { pump with phase := .preparing data } }
    | _ => delivery
  | .finish =>
    match pump.phase with
    | .reading => { delivery with pump := some { pump with phase := .preparingClose } }
    | _ => delivery
  | .prepare outcome =>
    match pump.phase with
    | .preparing data =>
      if u64Max < pump.sequence + 1 then { delivery with pump := none }
      else delivery.journalCall (·.prepareStdin (pump.sequence + 1) data) outcome
        (.prepared (pump.sequence + 1) data)
        { pump with phase := .dispatching ⟨pump.sequence + 1, data⟩ }
    | _ => delivery
  | .submit =>
    match pump.phase with
    | .dispatching write =>
      { delivery with
        pump := some { pump with phase := .inFlight write }
        trace := delivery.trace ++ [.submitted (stdinOperation write.sequence) write.data] }
    | _ => delivery
  | .answer =>
    match pump.phase with
    | .inFlight write =>
      { delivery with
        pump := some { pump with phase := .committing write }
        trace := delivery.trace ++ [.ended write.sequence] }
    | _ => delivery
  | .commit outcome =>
    match pump.phase with
    | .committing write =>
      delivery.journalCall (·.commitStdin write.sequence) outcome (.committed write.sequence)
        ⟨write.sequence, .reading⟩
    | _ => delivery
  | .prepareClose outcome =>
    match pump.phase with
    | .preparingClose =>
      delivery.journalCall (·.prepareStdinClose) outcome .closePrepared
        { pump with phase := .dispatchingClose }
    | _ => delivery
  | .submitClose =>
    match pump.phase with
    | .dispatchingClose =>
      { delivery with
        pump := some { pump with phase := .closeInFlight }
        trace := delivery.trace ++ [.closeSubmitted] }
    | _ => delivery
  | .answerClose =>
    match pump.phase with
    | .closeInFlight =>
      { delivery with
        pump := some { pump with phase := .committingClose }
        trace := delivery.trace ++ [.closeEnded] }
    | _ => delivery
  | .commitClose outcome =>
    match pump.phase with
    | .committingClose =>
      delivery.journalCall (·.commitStdinClose) outcome .closeCommitted { pump with phase := .finished }
    | _ => delivery
  | .stop => { delivery with pump := none }
  | _ => delivery

/-- One action; an action that is not possible changes nothing. -/
def step (delivery : StdinDelivery) : StdinAction → StdinDelivery
  | .apply operation data =>
    { delivery with trace := delivery.trace ++ [.applied operation data] }
  | .applyClose => { delivery with trace := delivery.trace ++ [.closed] }
  | .exit => { delivery with trace := delivery.trace ++ [.gone] }
  | .other journal written kept =>
    match delivery.memory with
    | some current =>
      { delivery with
        file := if written then journal else delivery.file
        memory := some (if kept then journal else current) }
    | none => delivery
  | .crash => { delivery with memory := none, pump := none }
  | .restart journal outcome =>
    match delivery.memory with
    | some _ => delivery
    | none =>
      match outcome with
      | .stored =>
        ⟨journal, some journal, StdinPump.spawn journal,
          delivery.trace ++ found delivery.trace journal⟩
      | .failed written _ => { delivery with file := if written then journal else delivery.file }
  | action =>
    match delivery.pump with
    | some pump => delivery.pumpStep pump action
    | none => delivery

end StdinDelivery

/-! ## Runs -/

/-- The parts of the journal that only the stdin pump changes. -/
def ProcessJournal.SameStdin (journal other : ProcessJournal) : Prop :=
  journal.stdin = other.stdin ∧ journal.stdinSequence = other.stdinSequence ∧
    journal.pendingStdinWrite = other.pendingStdinWrite ∧
    journal.stdinCloseState = other.stdinCloseState

/-- What the runtime and the rest of the shim do.
    - The runtime applies what was sent to it, each operation id once and only while the process is
      there, and answers when it has.
    - A process is found to be gone only when it is.
    - The other sections, and a replacement shim, leave the stdin journal alone. -/
def StdinAction.Admitted (delivery : StdinDelivery) : StdinAction → Prop
  | .answer => ∀ pump write, delivery.pump = some pump → pump.phase = .inFlight write →
      (∃ data, .applied (stdinOperation write.sequence) data ∈ delivery.trace) ∨
        .gone ∈ delivery.trace
  | .answerClose => .closed ∈ delivery.trace ∨ .gone ∈ delivery.trace
  | .apply operation data => .submitted operation data ∈ delivery.trace ∧
      (∀ other, .applied operation other ∉ delivery.trace) ∧ .gone ∉ delivery.trace
  | .applyClose => .closeSubmitted ∈ delivery.trace ∧ .closed ∉ delivery.trace ∧
      .gone ∉ delivery.trace
  | .other journal _ _ => ∀ current, delivery.memory = some current → journal.SameStdin current
  | .restart journal _ => journal.SameStdin delivery.file
  | _ => True

/-- The states that are reached from `start` by admitted actions. -/
inductive StdinDelivery.Runs (start : StdinDelivery) : StdinDelivery → Prop
  | init : Runs start start
  | step {delivery : StdinDelivery} (action : StdinAction) (before : Runs start delivery)
      (admitted : action.Admitted delivery) : Runs start (delivery.step action)

theorem StdinDelivery.Runs.invariant {I : StdinDelivery → Prop} (h : Runs start delivery)
    (hst : I start)
    (hs : ∀ delivery action, I delivery → action.Admitted delivery → I (delivery.step action)) :
    I delivery := by
  induction h with
  | init => exact hst
  | step action _ admitted ih => exact hs _ action ih admitted

end OciRuntime
