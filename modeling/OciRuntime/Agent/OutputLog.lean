import OciRuntime.Agent.Output
import Mathlib.Algebra.GroupWithZero.Nat

/-!
# `OciRuntime.Agent.OutputLog` — the buffer as a window on a log

What the streams of a process produce is one log of bytes and stream ends, in which the entry at
position `n` has sequence `n + 1`. The buffer holds the end of that log in chunks: `Retains` relates
the two. Appending extends the log, dropping chunks moves the start of the window, and a poll
returns a piece of the log that begins at the cursor.

## Contents
- **Entries.** `OutputEntry`, the entries of chunks.
- **The window.** `Laid`, `Retains`.
- **Appending.** `OutputState.append_spec`.
- **Polling.** `collectOutput_spec`, `OutputBuffer.readOnce_spec`.
-/

namespace OciRuntime

variable {state : OutputState} {data : List UInt8} {eof : Bool}

/-! ## Entries -/

/-- What takes one sequence: a byte, or the end of a stream. -/
inductive OutputEntry
  | byte (stream : OutputStream) (value : UInt8)
  | finished (stream : OutputStream)
  deriving DecidableEq

/-- The entries a stream adds with `data`, or with its end. -/
def outputEntries (stream : OutputStream) (data : List UInt8) (eof : Bool) : List OutputEntry :=
  if eof then [.finished stream] else data.map (.byte stream)

def BufferedChunk.entries (chunk : BufferedChunk) : List OutputEntry :=
  outputEntries chunk.stream chunk.data chunk.eof

def OutputChunk.entries (chunk : OutputChunk) : List OutputEntry :=
  outputEntries chunk.stream chunk.data chunk.eof

def OutputEntry.stream : OutputEntry → OutputStream
  | .byte stream _ => stream
  | .finished stream => stream

section
variable (stream : OutputStream)

/-- The bytes of one stream. -/
def OutputStream.bytes (entries : List OutputEntry) : List UInt8 :=
  entries.filterMap fun
    | .byte source value => if source = stream then some value else none
    | .finished _ => none

/-- Nothing of the stream comes after its end. -/
def EndsLast (entries : List OutputEntry) : Prop :=
  entries.Pairwise fun first second => first = .finished stream → second.stream ≠ stream

@[simp] theorem outputEntries_eof (data : List UInt8) :
    outputEntries stream data true = [.finished stream] := rfl

@[simp] theorem outputEntries_data (data : List UInt8) :
    outputEntries stream data false = data.map (.byte stream) := rfl

theorem length_outputEntries (data : List UInt8) (eof : Bool) :
    (outputEntries stream data eof).length = if eof then 1 else data.length := by
  cases eof <;> simp

end

/-! ## The window -/

/-- The chunks follow one another without a gap, the first one right after sequence `start`. -/
def Laid : Nat → List BufferedChunk → Prop
  | _, [] => True
  | start, chunk :: rest =>
    chunk.startSequence = start + 1 ∧ chunk.endSequence = start + chunk.entries.length ∧
      chunk.entries ≠ [] ∧ (chunk.eof = true → chunk.data = []) ∧ Laid chunk.endSequence rest

def retained (chunks : List BufferedChunk) : Nat := (chunks.map (·.data.length)).sum

/-- `state` holds the entries of `log` after `droppedThrough`. -/
structure Retains (log : List OutputEntry) (state : OutputState) : Prop where
  next : state.nextSequence = log.length + 1
  bounded : state.nextSequence ≤ u64Max
  dropped : state.droppedThrough ≤ log.length
  laid : Laid state.droppedThrough state.chunks
  content : state.chunks.flatMap (·.entries) = log.drop state.droppedThrough
  accounted : state.retainedBytes = retained state.chunks

theorem retains_new (openStreams : Nat) : Retains [] (.new openStreams) where
  next := rfl
  bounded := show 1 ≤ u64Max by decide
  dropped := le_rfl
  laid := trivial
  content := rfl
  accounted := rfl

variable {log : List OutputEntry}

/-- The terminal error and the count of open streams say nothing about the log. -/
theorem Retains.congr (h : Retains log state) (openStreams : Nat) (terminalError : Option String) :
    Retains log { state with openStreams, terminalError } :=
  ⟨h.next, h.bounded, h.dropped, h.laid, h.content, h.accounted⟩

theorem Laid.append : ∀ {chunks : List BufferedChunk} {start : Nat} {chunk : BufferedChunk},
    Laid start chunks → Laid (start + (chunks.flatMap (·.entries)).length) [chunk] →
    Laid start (chunks ++ [chunk])
  | [], _, _, _, hl => by simpa using hl
  | _ :: rest, _, _, ⟨hs, hen, hn, hef, hr⟩, hl => by
    refine ⟨hs, hen, hn, hef, Laid.append hr ?_⟩
    rw [List.flatMap_cons, List.length_append, ← Nat.add_assoc, ← hen] at hl
    exact hl

theorem Laid.start_lt : ∀ {chunks : List BufferedChunk} {start : Nat}, Laid start chunks →
    ∀ {chunk : BufferedChunk}, chunk ∈ chunks → start < chunk.startSequence
  | _ :: _, _, ⟨hs, hen, _, _, hr⟩, _, hm => by
    rcases List.mem_cons.mp hm with rfl | hm
    · omega
    · have := hr.start_lt hm
      omega

/-- Data bytes are entries, so there are no more of them. -/
theorem Laid.retained_le : ∀ {chunks : List BufferedChunk} {start : Nat}, Laid start chunks →
    retained chunks ≤ (chunks.flatMap (·.entries)).length
  | [], _, _ => le_rfl
  | chunk :: rest, _, ⟨_, _, _, hef, hr⟩ => by
    have hh : chunk.data.length ≤ chunk.entries.length := by
      rw [BufferedChunk.entries, length_outputEntries]
      split
      · rename_i hc
        simp [hef hc]
      · exact le_rfl
    have ht := hr.retained_le
    simp only [retained, List.map_cons, List.sum_cons, List.flatMap_cons, List.length_append] at *
    omega

/-! ## Appending -/

/-- Dropping chunks never fails; the window moves and what stays fits the buffer. -/
theorem OutputState.evict_spec :
    ∀ (chunks : List BufferedChunk) (state : OutputState), Retains log { state with chunks } →
      ∃ after, state.evict chunks = (after, .ok ()) ∧ Retains log after ∧
        after.openStreams = state.openStreams ∧ after.terminalError = state.terminalError
  | [], state, h => ⟨_, rfl, h, rfl, rfl⟩
  | chunk :: rest, state, h => by
    obtain ⟨-, hls, hn, -, hr⟩ := h.laid
    have hen : chunk.endSequence = state.droppedThrough + chunk.entries.length := hls
    have hb : state.retainedBytes = chunk.data.length + retained rest := h.accounted
    have hc : chunk.entries ++ rest.flatMap (·.entries) = log.drop state.droppedThrough :=
      h.content
    have hl := congrArg List.length hc
    rw [List.length_append, List.length_drop] at hl
    rw [OutputState.evict]
    by_cases hf : state.retainedBytes > outputBufferBytes
    · rw [if_pos hf, if_neg (by omega)]
      refine (evict_spec rest { state with
        retainedBytes := state.retainedBytes - chunk.data.length
        droppedThrough := chunk.endSequence }
        { next := h.next, bounded := h.bounded, dropped := ?_, laid := hr,
          content := ?_, accounted := ?_ })
      · have hd : state.droppedThrough ≤ log.length := h.dropped
        show chunk.endSequence ≤ log.length
        have hp := List.length_pos_iff.mpr hn
        omega
      · show rest.flatMap (·.entries) = log.drop chunk.endSequence
        rw [hen, ← List.drop_drop, ← hc, List.drop_left]
      · show state.retainedBytes - chunk.data.length = retained rest
        omega
    · rw [if_neg hf]
      exact ⟨_, rfl, h, rfl, rfl⟩

/-- The chunk of a new write lies right after the others. -/
theorem Retains.laid_push (h : Retains log state) (stream : OutputStream)
    (hn : outputEntries stream data eof ≠ []) (hef : eof = true → data = []) :
    Laid state.droppedThrough (state.chunks ++ [{
      startSequence := state.nextSequence
      endSequence := state.nextSequence + (outputEntries stream data eof).length - 1
      stream, data, eof }]) := by
  have hnx := h.next
  have hd := h.dropped
  refine h.laid.append ?_
  rw [h.content, List.length_drop]
  refine ⟨?_, ?_, hn, hef, trivial⟩
  · simp only
    omega
  · show state.nextSequence + (outputEntries stream data eof).length - 1 =
      _ + (outputEntries stream data eof).length
    omega

/-- An append extends the log, unless the sequences are exhausted: then nothing changes. -/
theorem OutputState.append_spec (h : Retains log state) (stream : OutputStream)
    (hn : outputEntries stream data eof ≠ []) (hef : eof = true → data = []) :
    let entries := outputEntries stream data eof
    if state.nextSequence + entries.length ≤ u64Max then
      ∃ after, state.append stream data eof = (after, .ok ()) ∧ Retains (log ++ entries) after ∧
        after.openStreams = state.openStreams ∧ after.terminalError = state.terminalError
    else state.append stream data eof = (state, .error sequenceExhausted) := by
  intro entries
  have hw : entries.length = if eof then 1 else data.length := length_outputEntries ..
  have hnx := h.next
  unfold OutputState.append
  rw [← hw]
  by_cases hf : state.nextSequence + entries.length ≤ u64Max
  · have hr : state.retainedBytes ≤ log.length := by
      have hl := h.laid.retained_le
      rw [← h.accounted, h.content, List.length_drop] at hl
      omega
    have hdt : data.length ≤ entries.length := by
      rw [hw]
      split
      · simp [hef ‹_›]
      · exact le_rfl
    rw [if_pos hf, if_neg (by omega), if_neg (by unfold usizeMax; omega)]
    have hd := h.dropped
    refine OutputState.evict_spec _ _
      { next := ?_, bounded := hf, dropped := ?_, laid := ?_, content := ?_, accounted := ?_ }
    · simp only [List.length_append]
      omega
    · simp only [List.length_append]
      omega
    · exact h.laid_push stream hn hef
    · rw [List.flatMap_append, h.content, List.drop_append_of_le_length h.dropped]
      simp [BufferedChunk.entries, entries]
    · simp [retained, h.accounted]
  · rw [if_neg hf, if_pos (by omega)]

/-- What the buffer takes of `entries` when `next` is its next sequence: all, or nothing once the
    sequences do not suffice. -/
def admitted (next : Nat) (entries : List OutputEntry) : List OutputEntry :=
  if next + entries.length ≤ u64Max then entries else []

/-- `after` is `state` with `entries` written to it; what it refuses is kept as an error. -/
structure Extends (log entries : List OutputEntry) (state after : OutputState) : Prop where
  retains : Retains (log ++ admitted (log.length + 1) entries) after
  keeps : state.terminalError.isSome → after.terminalError.isSome
  refused : admitted (log.length + 1) entries ≠ entries → after.terminalError.isSome

theorem extends_nothing (h : Retains log state) : Extends log [] state state where
  retains := by simpa [admitted] using h
  keeps := id
  refused href := absurd (by simp [admitted]) href

namespace OutputBuffer

theorem settle_extends (h : Retains log state) (stream : OutputStream) (data : List UInt8)
    (eof : Bool) (hn : outputEntries stream data eof ≠ []) (hef : eof = true → data = []) :
    Extends log (outputEntries stream data eof) state (settle (state.append stream data eof)) := by
  have hs := OutputState.append_spec h stream hn hef
  dsimp only at hs
  split at hs
  · rename_i hf
    rw [h.next] at hf
    obtain ⟨after, hr, hrt, -, ht⟩ := hs
    rw [hr]
    refine ⟨?_, fun hsm => ?_, fun hrf => ?_⟩
    · rw [admitted, if_pos hf]
      exact hrt
    · exact ht ▸ hsm
    · exact absurd (if_pos hf) hrf
  · rename_i hf
    rw [h.next] at hf
    have ht : (keepError state sequenceExhausted.message).terminalError.isSome := by
      cases hold : state.terminalError <;> simp [keepError, hold]
    rw [hs]
    refine ⟨?_, fun _ => ht, fun _ => ht⟩
    rw [admitted, if_neg hf, List.append_nil]
    exact h.congr _ _

theorem append_extends (h : Retains log state) (stream : OutputStream) (data : List UInt8) :
    Extends log (outputEntries stream data false) state (append state stream data) := by
  cases data with
  | nil => exact extends_nothing h
  | cons byte rest => exact settle_extends h stream _ _ (by simp) (by simp)

theorem finish_extends (h : Retains log state) (stream : OutputStream) (error : Option String) :
    Extends log (outputEntries stream [] true) state (finish state stream error) := by
  cases error with
  | none =>
    have hw := settle_extends (h.congr (state.openStreams - 1) state.terminalError) stream
      [] true (by simp) (fun _ => rfl)
    exact ⟨hw.retains, hw.keeps, hw.refused⟩
  | some error =>
    have hw := settle_extends (h.congr (state.openStreams - 1) (state.terminalError.or
      (some s!"failed to drain captured {stream.debug}: {error}"))) stream [] true
      (by simp) (fun _ => rfl)
    refine ⟨hw.retains, fun _ => hw.keeps ?_, hw.refused⟩
    cases state.terminalError <;> rfl

end OutputBuffer

/-! ## Polling -/

/-- The sequence a reader at `position` resumes at after it has received `output`. -/
def resumeAt (position : Nat) (output : List OutputChunk) : Nat :=
  ((output.getLast?).map (·.sequence)).getD position

@[simp] theorem resumeAt_nil (position : Nat) : resumeAt position [] = position := rfl

theorem resumeAt_cons (position : Nat) (chunk : OutputChunk) (output : List OutputChunk) :
    resumeAt position (chunk :: output) = resumeAt chunk.sequence output := by
  cases output with
  | nil => rfl
  | cons next rest => simp [resumeAt, List.getLast?_cons]

def outputBytes (output : List OutputChunk) : Nat := (output.map (·.data.length)).sum

/-- `output` is the beginning of `pending`, the entries after `position`: it ends where the reader
    resumes and stays within `remaining` bytes. -/
structure Continues (pending : List OutputEntry) (position remaining : Nat)
    (output : List OutputChunk) : Prop where
  isPrefix : output.flatMap (·.entries) <+: pending
  resume : resumeAt position output = position + (output.flatMap (·.entries)).length
  limit : outputBytes output ≤ remaining

theorem continues_nil (pending : List OutputEntry) (position remaining : Nat) :
    Continues pending position remaining [] :=
  ⟨List.nil_prefix, rfl, Nat.zero_le _⟩

/-- Moreover it is empty only if it has to be. -/
structure TakesFrom (pending : List OutputEntry) (position remaining : Nat)
    (output : List OutputChunk) : Prop extends Continues pending position remaining output where
  progress : output.flatMap (·.entries) = [] → remaining = 0 ∨ pending = []

theorem takesFrom_nil (h : remaining = 0 ∨ pending = []) :
    TakesFrom pending position remaining [] :=
  ⟨continues_nil .., fun _ => h⟩

/-- A piece that ends where the rest begins. -/
theorem TakesFrom.cons {pending : List OutputEntry} (chunk : OutputChunk) (hn : chunk.entries ≠ [])
    (hs : chunk.sequence = position + chunk.entries.length)
    (hl : chunk.data.length ≤ remaining)
    (h : TakesFrom pending chunk.sequence (remaining - chunk.data.length) output) :
    TakesFrom (chunk.entries ++ pending) position remaining (chunk :: output) where
  isPrefix := by
    exact (List.prefix_append_right_inj _).mpr h.isPrefix
  resume := by
    rw [resumeAt_cons, h.resume, List.flatMap_cons, List.length_append]
    omega
  limit := by
    have := h.limit
    simp only [outputBytes, List.map_cons, List.sum_cons] at *
    omega
  progress hnil := by
    rw [List.flatMap_cons, List.append_eq_nil_iff] at hnil
    exact absurd hnil.1 hn

/-- The loop of a poll gives out the entries after the cursor, in order and without a gap. -/
theorem collectOutput_spec (afterSequence : Nat) : ∀ {chunks : List BufferedChunk} {start : Nat}
    (remaining : Nat), Laid start chunks →
    start + (chunks.flatMap (·.entries)).length ≤ u64Max →
    ∃ output, collectOutput afterSequence chunks remaining = .ok output ∧
      TakesFrom ((chunks.flatMap (·.entries)).drop (afterSequence - start))
        (max start afterSequence) remaining output
  | [], _, remaining, _, _ => ⟨[], rfl, takesFrom_nil (.inr (by simp))⟩
  | chunk :: rest, start, remaining, ⟨hst, hen, hne, _, hrs⟩, hb => by
    rw [List.flatMap_cons] at hb ⊢
    have hb' : chunk.endSequence + (rest.flatMap (·.entries)).length ≤ u64Max := by
      rw [List.length_append] at hb
      omega
    rw [collectOutput]
    by_cases hpa : chunk.endSequence ≤ afterSequence
    · -- the reader has this chunk already
      obtain ⟨output, hr, ht⟩ := collectOutput_spec afterSequence remaining hrs hb'
      refine ⟨output, by rw [if_pos hpa, hr], ?_⟩
      have hf : afterSequence - start =
          chunk.entries.length + (afterSequence - chunk.endSequence) := by omega
      rw [hf, List.drop_append, List.drop_eq_nil_of_le (by omega), List.nil_append,
        Nat.add_sub_cancel_left, show max start afterSequence = max chunk.endSequence afterSequence
        by omega]
      exact ht
    rw [if_neg hpa]
    -- whatever is returned of this chunk, the chunks after it are returned from their beginning
    have hz : afterSequence - chunk.endSequence = 0 := by omega
    have hps : max chunk.endSequence afterSequence = chunk.endSequence := by omega
    by_cases hef : chunk.eof = true
    · have hn : chunk.entries = [.finished chunk.stream] := by
        rw [BufferedChunk.entries, hef, outputEntries_eof]
      rw [hn, List.length_singleton] at hen
      obtain ⟨output, hr, ht⟩ := collectOutput_spec afterSequence remaining hrs hb'
      rw [hz, hps, List.drop_zero] at ht
      refine ⟨_, by rw [if_pos hef, hr]; rfl, ?_⟩
      rw [show afterSequence - start = 0 by omega, List.drop_zero, hn]
      refine TakesFrom.cons ⟨chunk.endSequence, chunk.stream, [], true⟩ (by simp [OutputChunk.entries])
        ?_ (Nat.zero_le _) ht
      simp only [OutputChunk.entries, outputEntries_eof, List.length_singleton]
      omega
    rw [if_neg hef]
    rw [Bool.not_eq_true] at hef
    have hn : chunk.entries = chunk.data.map (.byte chunk.stream) := by
      rw [BufferedChunk.entries, hef, outputEntries_data]
    have hln : chunk.entries.length = chunk.data.length := by rw [hn, List.length_map]
    have hpo : 0 < chunk.data.length := hln ▸ List.length_pos_iff.mpr hne
    by_cases hs : remaining = 0
    · exact ⟨[], by rw [if_pos hs], takesFrom_nil (.inl hs)⟩
    rw [if_neg hs]
    have hf : (if afterSequence ≥ chunk.startSequence then
        afterSequence - chunk.startSequence + 1 else 0) = afterSequence - start := by
      split <;> omega
    dsimp only
    rw [hf]
    generalize ho : afterSequence - start = offset
    generalize hl : min (chunk.data.length - offset) remaining = length
    rw [if_neg (by omega), if_neg (by omega)]
    let piece : OutputChunk := ⟨chunk.startSequence + (offset + length - 1), chunk.stream,
      (chunk.data.drop offset).take length, false⟩
    have hpc : piece.data.length = length := by
      simp only [piece, List.length_take, List.length_drop]
      omega
    have hp : piece.entries = piece.data.map (.byte chunk.stream) := rfl
    have hsp : (chunk.entries ++ rest.flatMap (·.entries)).drop offset = piece.entries ++
        ((chunk.data.drop (offset + length)).map (.byte chunk.stream) ++
          rest.flatMap (·.entries)) := by
      rw [List.drop_append_of_le_length (by omega), hn, hp, ← List.map_drop,
        ← List.append_assoc, ← List.map_append, ← List.drop_drop, List.take_append_drop]
    have hc : ∀ output, TakesFrom ((chunk.data.drop (offset + length)).map
          (.byte chunk.stream) ++ rest.flatMap (·.entries)) piece.sequence
          (remaining - piece.data.length) output →
        TakesFrom (piece.entries ++ ((chunk.data.drop (offset + length)).map
          (.byte chunk.stream) ++ rest.flatMap (·.entries))) (max start afterSequence) remaining
          (piece :: output) := by
      intro output ht
      refine TakesFrom.cons piece ?_ ?_ (by omega) ht
      · rw [hp, ← List.length_pos_iff, List.length_map]
        omega
      · rw [hp, List.length_map, hpc]
        show chunk.startSequence + (offset + length - 1) = _
        omega
    rw [hsp]
    by_cases hpr : length < chunk.data.length - offset
    · exact ⟨_, by rw [if_pos hpr]; rfl, hc [] (takesFrom_nil (.inl (by omega)))⟩
    · obtain ⟨output, hr, ht⟩ := collectOutput_spec afterSequence (remaining - length) hrs hb'
      rw [hz, hps, List.drop_zero] at ht
      refine ⟨_, by rw [if_neg hpr, hr]; rfl, hc output ?_⟩
      rw [List.drop_eq_nil_of_le (by omega), List.map_nil, List.nil_append, hpc,
        show piece.sequence = chunk.endSequence by
          show chunk.startSequence + (offset + length - 1) = _
          omega]
      exact ht

/-- What one turn of a read at `afterSequence` can come to. -/
inductive Answers (log : List OutputEntry) (state : OutputState) (afterSequence maxBytes : Nat)
    (deadline : Bool) : Option (Result (List OutputChunk)) → Prop
  | behind (h : afterSequence < state.droppedThrough) :
      Answers log state afterSequence maxBytes deadline
        (some (.error (cursorFellBehind afterSequence state.droppedThrough)))
  | output {chunks : List OutputChunk}
      (h : TakesFrom (log.drop afterSequence) afterSequence maxBytes chunks) :
      Answers log state afterSequence maxBytes deadline (some (.ok chunks))
  | failed (h : TakesFrom (log.drop afterSequence) afterSequence maxBytes []) (message : String) :
      Answers log state afterSequence maxBytes deadline (some (.error (ioError .internal message)))
  | waits (h : deadline = true) : Answers log state afterSequence maxBytes deadline none

theorem OutputBuffer.readOnce_spec (h : Retains log state) (hcr : afterSequence ≤ log.length)
    (maxBytes : Nat) (deadline : Bool) :
    Answers log state afterSequence maxBytes deadline
      (OutputBuffer.readOnce state afterSequence maxBytes deadline) := by
  unfold OutputBuffer.readOnce OutputState.poll
  by_cases hb : afterSequence < state.droppedThrough
  · rw [if_pos hb]
    exact .behind hb
  have hn := h.next
  have hbn := h.bounded
  have hl := congrArg List.length h.content
  rw [List.length_drop] at hl
  obtain ⟨chunks, hc, ht⟩ := collectOutput_spec afterSequence maxBytes h.laid (by omega)
  rw [h.content, List.drop_drop, Nat.add_sub_cancel' (by omega),
    show max state.droppedThrough afterSequence = afterSequence by omega] at ht
  rw [if_neg hb, if_neg (by omega), hc]
  cases chunks with
  | cons chunk rest => exact .output ht
  | nil =>
    by_cases hp : state.openStreams = 0
    · rw [if_pos hp]
      cases state.terminalError with
      | none => exact .output ht
      | some message => exact .failed ht message
    · rw [if_neg hp]
      cases deadline with
      | false => exact .output ht
      | true => exact .waits rfl

/-- Dropping chunks leaves the last one alone when it fits the buffer by itself. -/
theorem OutputState.evict_keeps_last (last : BufferedChunk)
    (hft : last.data.length ≤ outputBufferBytes) :
    ∀ (chunks : List BufferedChunk) (state : OutputState),
      Laid state.droppedThrough (chunks ++ [last]) →
      state.retainedBytes = retained (chunks ++ [last]) →
      (state.evict (chunks ++ [last])).1.droppedThrough < last.startSequence
  | [], state, hl, hb => by
    have hs : state.retainedBytes = last.data.length := by simpa [retained] using hb
    rw [List.nil_append, OutputState.evict, if_neg (by omega)]
    exact hl.1 ▸ Nat.lt_succ_self _
  | chunk :: rest, state, ⟨hst, hen, hn, _, hr⟩, hb => by
    have hs : state.retainedBytes = chunk.data.length + retained (rest ++ [last]) := hb
    rw [List.cons_append, OutputState.evict]
    by_cases hf : state.retainedBytes > outputBufferBytes
    · rw [if_pos hf, if_neg (by omega)]
      refine evict_keeps_last last hft rest _ hr ?_
      show state.retainedBytes - chunk.data.length = _
      omega
    · rw [if_neg hf]
      show state.droppedThrough < last.startSequence
      have hm : last ∈ rest ++ [last] := by simp
      have := hr.start_lt hm
      omega

/-- A reader at the end of the log does not fall behind by one append that fits the buffer. -/
theorem OutputState.append_droppedThrough (h : Retains log state) (stream : OutputStream)
    (hf : data.length ≤ outputBufferBytes) (hn : outputEntries stream data eof ≠ [])
    (hef : eof = true → data = []) :
    (state.append stream data eof).1.droppedThrough ≤ log.length := by
  unfold OutputState.append
  rw [← length_outputEntries stream data eof]
  dsimp only
  split
  · exact h.dropped
  split
  · exact h.dropped
  · refine Nat.le_of_lt_succ (Nat.lt_of_lt_of_eq ?_ h.next)
    refine OutputState.evict_keeps_last _ hf state.chunks _ (h.laid_push stream hn hef) ?_
    simp [retained, h.accounted]

end OciRuntime
