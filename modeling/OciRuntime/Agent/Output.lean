import OciRuntime.Sdk.Basic

/-!
# `OciRuntime.Agent.Output` — the output buffer of a process

The guest agent drains the captured streams of a process into one bounded buffer
(`agent/src/executor/io.rs`). Every byte takes one sequence and so does the end of a stream. A read
names the sequence after which it wants output and returns at most `maxBytes` bytes; when the
buffer holds too many bytes its oldest chunks are dropped.

## Contents
- **Data.** `OutputStream`, `OutputChunk`, `BufferedChunk`, `OutputState`.
- **The state behind the lock.** `OutputState.append`, `OutputState.poll`.
- **The buffer.** `OutputBuffer.append`, `OutputBuffer.finish`, `OutputBuffer.readOnce`.

Sequences are `u64`, and so is `usize` on the targets of the agent.
-/

namespace OciRuntime

/-! ## Data -/

inductive OutputStream
  | stdout | stderr
  deriving DecidableEq

def OutputStream.debug : OutputStream → String
  | .stdout => "Stdout"
  | .stderr => "Stderr"

/-- A piece of output as a read returns it; `sequence` is where the next read resumes. -/
structure OutputChunk where
  sequence : Nat
  stream : OutputStream
  data : List UInt8
  eof : Bool
  deriving DecidableEq

structure BufferedChunk where
  startSequence : Nat
  endSequence : Nat
  stream : OutputStream
  data : List UInt8
  eof : Bool

structure OutputState where
  chunks : List BufferedChunk
  retainedBytes : Nat
  nextSequence : Nat
  droppedThrough : Nat
  openStreams : Nat
  terminalError : Option String

inductive OutputPoll
  | ready (chunks : List OutputChunk)
  | complete
  | pending

def outputBufferBytes : Nat := 8 * 1024 * 1024

def usizeMax : Nat := u64Max

/-! ## The state behind the lock -/

def ioError (code : ErrorCode) (message : String) : Error :=
  (Error.new code message).forOperation "process-io"

def sequenceExhausted : Error :=
  ioError .resourceExhausted "process output sequence space is exhausted"

def OutputState.new (openStreams : Nat) : OutputState where
  chunks := []
  retainedBytes := 0
  nextSequence := 1
  droppedThrough := 0
  openStreams := openStreams
  terminalError := none

/-- The loop at the end of `append`: drop the oldest of `chunks` until the bytes fit. -/
def OutputState.evict : OutputState → List BufferedChunk → OutputState × Result Unit
  | state, [] => ({ state with chunks := [] }, .ok ())
  | state, dropped :: rest =>
    if state.retainedBytes > outputBufferBytes then
      -- the chunk is gone before the bytes are accounted for
      if dropped.data.length > state.retainedBytes then
        ({ state with chunks := rest }, .error (ioError .internal
          "process output buffer byte accounting became inconsistent"))
      else
        evict { state with
          retainedBytes := state.retainedBytes - dropped.data.length
          droppedThrough := dropped.endSequence } rest
    else ({ state with chunks := dropped :: rest }, .ok ())

def OutputState.append (state : OutputState) (stream : OutputStream) (data : List UInt8)
    (eof : Bool) : OutputState × Result Unit :=
  let width := if eof then 1 else data.length
  let next := state.nextSequence + width
  if next > u64Max then (state, .error sequenceExhausted)
  else if state.retainedBytes + data.length > usizeMax then
    ({ state with nextSequence := next }, .error (ioError .resourceExhausted
      "process output buffer byte accounting overflowed"))
  else
    let chunks := state.chunks ++ [{
      startSequence := state.nextSequence
      endSequence := next - 1
      stream, data, eof }]
    OutputState.evict { state with
      nextSequence := next
      retainedBytes := state.retainedBytes + data.length
      chunks } chunks

/-- The loop of `poll` over the buffered chunks, with `remaining` bytes still to give out. -/
def collectOutput (afterSequence : Nat) : List BufferedChunk → Nat → Result (List OutputChunk)
  | [], _ => .ok []
  | chunk :: rest, remaining =>
    if chunk.endSequence ≤ afterSequence then collectOutput afterSequence rest remaining
    else if chunk.eof then do
      let output ← collectOutput afterSequence rest remaining
      .ok ({ sequence := chunk.endSequence, stream := chunk.stream, data := [], eof := true } ::
        output)
    else if remaining = 0 then .ok []
    else
      let offset := if afterSequence ≥ chunk.startSequence then
        afterSequence - chunk.startSequence + 1 else 0
      let available := chunk.data.length - offset
      let length := min available remaining
      if length = 0 then collectOutput afterSequence rest remaining
      else
        let sequence := chunk.startSequence + (offset + length - 1)
        if sequence > u64Max then .error sequenceExhausted
        else do
          let output ← if length < available then .ok [] else
            collectOutput afterSequence rest (remaining - length)
          .ok ({ sequence, stream := chunk.stream, data := (chunk.data.drop offset).take length,
                 eof := false } :: output)

/-- The answer to a cursor whose output is no longer retained. -/
def cursorFellBehind (afterSequence droppedThrough : Nat) : Error :=
  ioError .resourceExhausted
    (s!"output cursor {afterSequence} fell behind retained cursor {droppedThrough}; " ++
      "restart from the retained cursor")

def OutputState.poll (state : OutputState) (afterSequence maxBytes : Nat) : Result OutputPoll :=
  if afterSequence < state.droppedThrough then
    .error (cursorFellBehind afterSequence state.droppedThrough)
  else if afterSequence ≥ state.nextSequence then
    .error (ioError .invalidArgument
      s!"output cursor {afterSequence} is ahead of latest cursor {state.nextSequence - 1}")
  else do
    let output ← collectOutput afterSequence state.chunks maxBytes
    if !output.isEmpty then .ok (.ready output)
    else if state.openStreams = 0 then
      match state.terminalError with
      | some message => .error (ioError .internal message)
      | none => .ok .complete
    else .ok .pending

/-! ## The buffer -/

namespace OutputBuffer

/-- Keep the first terminal error, as `get_or_insert` does. -/
def keepError (state : OutputState) (message : String) : OutputState :=
  { state with terminalError := state.terminalError.or (some message) }

/-- An append that fails is not reported to its caller but becomes the terminal error. -/
def settle (outcome : OutputState × Result Unit) : OutputState :=
  match outcome.2 with
  | .ok () => outcome.1
  | .error error => keepError outcome.1 error.message

def append (state : OutputState) (stream : OutputStream) (data : List UInt8) : OutputState :=
  if data.isEmpty then state else settle (state.append stream data false)

/-- The end of a stream; `error` is the text of the failure that ended it. -/
def finish (state : OutputState) (stream : OutputStream) (error : Option String) : OutputState :=
  let state := match error with
    | some error => keepError state s!"failed to drain captured {stream.debug}: {error}"
    | none => state
  settle (OutputState.append { state with openStreams := state.openStreams - 1 } stream [] true)

/-- One turn of the loop of `read`: its reply, or nothing where the read goes on waiting because it
    has a deadline. -/
def readOnce (state : OutputState) (afterSequence maxBytes : Nat) (deadline : Bool) :
    Option (Result (List OutputChunk)) :=
  match state.poll afterSequence maxBytes with
  | .error error => some (.error error)
  | .ok (.ready chunks) => some (.ok chunks)
  | .ok .complete => some (.ok [])
  | .ok .pending => if deadline then none else some (.ok [])

end OutputBuffer

end OciRuntime
