import OciRuntime.Agent.OutputLog
import Mathlib.Data.List.Infix

/-!
# `OciRuntime.Property.Output` — reading the output of a process

The readers of the captured streams write to the buffer of a process while a client reads from it,
each read resuming at the sequence of the last chunk returned. A read that finds nothing may wait;
the writes that happen meanwhile wake it.

## Contents
- **Sessions.** `Session`, `Action`, `Session.run`.
- **What was written.** `written`, `accepted`: the second leaves out what the buffer refuses because
  its sequences are exhausted.
- **The invariant.** `Session.Sound` holds in every run.
- **Exactness.** `reading_is_exact`, and the run `exhausted_sequence_loses_output` on which output is
  lost.
-/

namespace OciRuntime

variable {log : List OutputEntry} {maxBytes : Nat}

/-! ## Sessions -/

/-- What happens at a buffer: writes of the streams, and the turns of the reads of one client. -/
inductive Action
  | append (stream : OutputStream) (data : List UInt8)
  | finish (stream : OutputStream) (error : Option String)
  /-- The client calls `read`. -/
  | read (maxBytes : Nat) (waitTimeoutMs : Option Nat)
  /-- A waiting read looks at the buffer again. -/
  | wake
  /-- The deadline of a waiting read passes. -/
  | timeout

/-- A buffer with its client: the cursor at which the next read resumes, the limit of a read that
    is waiting, and every reply so far with the limit of its read. -/
structure Session where
  buffer : OutputState
  cursor : Nat
  waiting : Option Nat
  replies : List (Nat × Result (List OutputChunk))

namespace Session

def start (openStreams : Nat) : Session where
  buffer := .new openStreams
  cursor := 0
  waiting := none
  replies := []

def reply (session : Session) (maxBytes : Nat) (result : Result (List OutputChunk)) : Session :=
  { session with
    waiting := none
    replies := session.replies ++ [(maxBytes, result)]
    cursor := match result with
      | .ok chunks => resumeAt session.cursor chunks
      | .error _ => session.cursor }

/-- One turn of the loop of a read. -/
def attempt (session : Session) (maxBytes : Nat) (deadline : Bool) : Session :=
  match OutputBuffer.readOnce session.buffer session.cursor maxBytes deadline with
  | some result => session.reply maxBytes result
  | none => { session with waiting := some maxBytes }

def step (session : Session) : Action → Session
  | .append stream data =>
    { session with buffer := OutputBuffer.append session.buffer stream data }
  | .finish stream error =>
    { session with buffer := OutputBuffer.finish session.buffer stream error }
  | .read maxBytes waitTimeoutMs =>
    match session.waiting with
    | some _ => session -- the client is still inside its last read
    | none => session.attempt maxBytes (waitTimeoutMs.any (0 < ·))
  | .wake =>
    match session.waiting with
    | some maxBytes => session.attempt maxBytes true
    | none => session
  | .timeout =>
    match session.waiting with
    | some maxBytes => session.reply maxBytes (.ok [])
    | none => session

def run (session : Session) (actions : List Action) : Session := actions.foldl step session

/-- Everything the reads have returned. -/
def received (session : Session) : List OutputEntry :=
  session.replies.flatMap fun reply =>
    match reply.2 with
    | .ok chunks => chunks.flatMap (·.entries)
    | .error _ => []

end Session

/-! ## What was written -/

def Action.entries : Action → List OutputEntry
  | .append stream data => outputEntries stream data false
  | .finish stream _ => outputEntries stream [] true
  | _ => []

/-- Everything the streams have written. -/
def written (actions : List Action) : List OutputEntry := actions.flatMap (·.entries)

/-- What of it has a sequence, from `next` on. -/
def accepted : Nat → List Action → List OutputEntry
  | _, [] => []
  | next, action :: rest =>
    admitted next action.entries ++ accepted (next + (admitted next action.entries).length) rest

/-! ## The invariant -/

/-- The reply says that the output after the cursor is no longer retained. -/
def FellBehind (reply : Nat × Result (List OutputChunk)) : Prop :=
  ∃ cursor retained, cursor < retained ∧ reply.2 = .error (cursorFellBehind cursor retained)

def WithinLimit (reply : Nat × Result (List OutputChunk)) : Prop :=
  ∀ chunks, reply.2 = .ok chunks → outputBytes chunks ≤ reply.1

variable {session : Session}

namespace Session

/-- What holds of a session whose buffer has taken `log`. -/
structure Sound (log : List OutputEntry) (session : Session) : Prop where
  retains : Retains log session.buffer
  cursor : session.cursor ≤ log.length
  limits : ∀ reply ∈ session.replies, WithinLimit reply
  exact : (∃ reply ∈ session.replies, FellBehind reply) ∨
    session.received = log.take session.cursor ∧
      ∀ reply ∈ session.replies, ∀ error, reply.2 = .error error → error.code = .internal

theorem sound_start (openStreams : Nat) : Sound [] (start openStreams) where
  retains := retains_new openStreams
  cursor := le_rfl
  limits := by simp [start]
  exact := .inr ⟨rfl, by simp [start]⟩

theorem received_reply (session : Session) (maxBytes : Nat) (result : Result (List OutputChunk)) :
    (session.reply maxBytes result).received = session.received ++ (match result with
        | .ok chunks => chunks.flatMap (·.entries)
        | .error _ => []) := by
  simp [received, reply]

section
variable (h : Sound log session)
include h

/-- Output that continues the log at the cursor. -/
theorem Sound.reply_output (ht : Continues (log.drop session.cursor) session.cursor maxBytes cs) :
    Sound log (session.reply maxBytes (.ok cs)) := by
  have hl := ht.isPrefix.length_le
  have hc := h.cursor
  rw [List.length_drop] at hl
  refine ⟨h.retains, ?_, ?_, ?_⟩
  · show resumeAt session.cursor cs ≤ log.length
    rw [ht.resume]
    omega
  · intro reply hm
    rcases List.mem_append.mp hm with hold | hn
    · exact h.limits reply hold
    · rw [List.mem_singleton.mp hn]
      rintro _ ⟨⟩
      exact ht.limit
  · rcases h.exact with ⟨reply, hm, hb⟩ | ⟨hrc, herr⟩
    · exact .inl ⟨reply, List.mem_append_left _ hm, hb⟩
    · refine .inr ⟨?_, fun reply hm error hr => ?_⟩
      · show _ = log.take (resumeAt session.cursor cs)
        rw [received_reply, hrc, ht.resume, List.take_add]
        exact congrArg _ (List.prefix_iff_eq_take.mp ht.isPrefix)
      · rcases List.mem_append.mp hm with hold | hn
        · exact herr reply hold error hr
        · rw [List.mem_singleton.mp hn] at hr
          cases hr

/-- A failed read returns nothing and leaves the cursor. -/
theorem Sound.reply_error (hr : FellBehind (maxBytes, .error error) ∨ error.code = .internal) :
    Sound log (session.reply maxBytes (.error error)) := by
  refine ⟨h.retains, h.cursor, ?_, ?_⟩
  · intro reply hm
    rcases List.mem_append.mp hm with hold | hn
    · exact h.limits reply hold
    · rw [List.mem_singleton.mp hn]
      rintro _ ⟨⟩
  · rcases hr with hb | hi
    · exact .inl ⟨_, List.mem_append_right _ (List.mem_singleton_self _), hb⟩
    rcases h.exact with ⟨reply, hm, hb⟩ | ⟨hrc, herr⟩
    · exact .inl ⟨reply, List.mem_append_left _ hm, hb⟩
    · refine .inr ⟨?_, fun reply hm other ht => ?_⟩
      · rw [received_reply, List.append_nil]
        exact hrc
      · rcases List.mem_append.mp hm with hold | hn
        · exact herr reply hold other ht
        · rw [List.mem_singleton.mp hn] at ht
          cases ht
          exact hi

theorem Sound.attempt (maxBytes : Nat) (deadline : Bool) :
    Sound log (session.attempt maxBytes deadline) := by
  have ha := OutputBuffer.readOnce_spec h.retains h.cursor maxBytes deadline
  unfold Session.attempt
  generalize OutputBuffer.readOnce session.buffer session.cursor maxBytes deadline = result at ha ⊢
  cases ha with
  | behind hb => exact h.reply_error (.inl ⟨_, _, hb, rfl⟩)
  | output ht => exact h.reply_output ht.toContinues
  | failed _ message => exact h.reply_error (.inr rfl)
  | waits _ => exact ⟨h.retains, h.cursor, h.limits, h.exact⟩

/-- A write only makes the log longer. -/
theorem Sound.write {es : List OutputEntry} {buffer : OutputState}
    (hx : Extends log es session.buffer buffer) :
    Sound (log ++ admitted (log.length + 1) es) { session with buffer } where
  retains := hx.retains
  cursor := by
    rw [List.length_append]
    exact h.cursor.trans (Nat.le_add_right _ _)
  limits := h.limits
  exact := by
    refine h.exact.imp id fun ⟨hr, herr⟩ => ⟨?_, herr⟩
    show session.received = _
    rw [hr, List.take_append_of_le_length h.cursor]

theorem Sound.nothing : Sound (log ++ admitted (log.length + 1) []) session := by
  simpa [admitted] using h

theorem Sound.step (action : Action) :
    Sound (log ++ admitted (log.length + 1) action.entries) (session.step action) := by
  cases action with
  | append stream data => exact h.write (OutputBuffer.append_extends h.retains stream data)
  | finish stream error => exact h.write (OutputBuffer.finish_extends h.retains stream error)
  | read maxBytes waitTimeoutMs =>
    unfold Session.step
    cases session.waiting with
    | some _ => exact h.nothing
    | none => exact (h.attempt _ _).nothing
  | wake =>
    unfold Session.step
    cases session.waiting with
    | some maxBytes => exact (h.attempt _ _).nothing
    | none => exact h.nothing
  | timeout =>
    unfold Session.step
    cases session.waiting with
    | none => exact h.nothing
    | some maxBytes => exact (h.reply_output (continues_nil ..)).nothing

end

/-- In every run the session stays sound for what its buffer has accepted. -/
theorem Sound.run : ∀ (as : List Action) {log : List OutputEntry} {session : Session},
    Sound log session →
    Sound (log ++ accepted (log.length + 1) as) (session.run as)
  | [], log, _, h => by
    rw [accepted, List.append_nil]
    exact h
  | action :: rest, log, session, h => by
    have hr := Sound.run rest (h.step action)
    rw [List.length_append, List.append_assoc, Nat.add_right_comm] at hr
    exact hr

/-- The buffer of a session changes by the writes alone. -/
theorem Sound.step_extends (h : Sound log session) (action : Action) :
    Extends log action.entries session.buffer (session.step action).buffer := by
  have ha : ∀ (maxBytes : Nat) (deadline : Bool),
      Extends log [] session.buffer (session.attempt maxBytes deadline).buffer := by
    intro maxBytes deadline
    unfold Session.attempt
    split <;> exact extends_nothing h.retains
  cases action with
  | append stream data => exact OutputBuffer.append_extends h.retains stream data
  | finish stream error => exact OutputBuffer.finish_extends h.retains stream error
  | read maxBytes waitTimeoutMs =>
    unfold Session.step
    cases session.waiting with
    | some _ => exact extends_nothing h.retains
    | none => exact ha _ _
  | wake =>
    unfold Session.step
    cases session.waiting with
    | some maxBytes => exact ha _ _
    | none => exact extends_nothing h.retains
  | timeout =>
    unfold Session.step
    cases session.waiting <;> exact extends_nothing h.retains

/-- A write that was refused is never forgotten. -/
theorem Sound.run_refused : ∀ (as : List Action) {log : List OutputEntry} {session : Session},
    Sound log session →
    session.buffer.terminalError.isSome ∨ accepted (log.length + 1) as ≠ written as →
    (session.run as).buffer.terminalError.isSome
  | [], _, _, _, hs => hs.resolve_right fun hn => hn rfl
  | action :: rest, log, session, h, hs => by
    have hx := h.step_extends action
    refine Sound.run_refused rest (h.step action) ?_
    rcases hs with hs | hr
    · exact .inl (hx.keeps hs)
    by_cases hh : admitted (log.length + 1) action.entries = action.entries
    · refine .inr fun ht => hr ?_
      rw [List.length_append, Nat.add_right_comm] at ht
      rw [accepted, ht, hh]
      rfl
    · exact .inl (hx.refused hh)

/-! ### Draining the buffer -/

theorem replies_step (session : Session) (action : Action) :
    session.replies <+: (session.step action).replies := by
  have hr : ∀ maxBytes result, session.replies <+: (session.reply maxBytes result).replies :=
    fun _ _ => List.prefix_append _ _
  have ha : ∀ maxBytes deadline,
      session.replies <+: (session.attempt maxBytes deadline).replies := by
    intro maxBytes deadline
    unfold Session.attempt
    split
    · exact hr _ _
    · exact List.prefix_rfl
  cases action with
  | append stream data => exact List.prefix_rfl
  | finish stream error => exact List.prefix_rfl
  | read maxBytes waitTimeoutMs =>
    unfold Session.step
    cases session.waiting with
    | some _ => exact List.prefix_rfl
    | none => exact ha _ _
  | wake =>
    unfold Session.step
    cases session.waiting with
    | some maxBytes => exact ha _ _
    | none => exact List.prefix_rfl
  | timeout =>
    unfold Session.step
    cases session.waiting with
    | some maxBytes => exact hr _ _
    | none => exact List.prefix_rfl

theorem replies_run : ∀ (actions : List Action) (session : Session),
    session.replies <+: (session.run actions).replies
  | [], _ => List.prefix_rfl
  | action :: rest, session => (replies_step session action).trans (replies_run rest _)

theorem step_read (hd : session.waiting = none) (maxBytes : Nat) :
    session.step (.read maxBytes none) = session.attempt maxBytes false := by
  unfold Session.step
  rw [hd]
  rfl

/-- A read that does not wait is over at once. It reports that the cursor fell behind or moves the
    cursor, unless that is at the end of the log already. -/
theorem Sound.read_progress (h : Sound log session) (hl : 1 ≤ maxBytes)
    (hdl : session.waiting = none) :
    (session.step (.read maxBytes none)).waiting = none ∧
      ((∃ reply ∈ (session.step (.read maxBytes none)).replies, FellBehind reply) ∨
        min log.length (session.cursor + 1) ≤ (session.step (.read maxBytes none)).cursor) := by
  -- where nothing is returned, nothing is left
  have hdn : ∀ {cs : List OutputChunk},
      TakesFrom (log.drop session.cursor) session.cursor maxBytes cs →
      cs.flatMap (·.entries) = [] → log.length ≤ session.cursor := by
    intro cs ht hn
    rcases ht.progress hn with hz | hp
    · omega
    · exact List.drop_eq_nil_iff.mp hp
  have ha := OutputBuffer.readOnce_spec h.retains h.cursor maxBytes false
  rw [step_read hdl, Session.attempt]
  generalize OutputBuffer.readOnce session.buffer session.cursor maxBytes false = result at ha ⊢
  cases ha with
  | behind hb =>
    exact ⟨rfl, .inl ⟨_, List.mem_append_right _ (List.mem_singleton_self _), _, _, hb, rfl⟩⟩
  | @output cs ht =>
    refine ⟨rfl, .inr ?_⟩
    show _ ≤ resumeAt session.cursor cs
    rw [ht.resume]
    by_cases hn : cs.flatMap (·.entries) = []
    · have := hdn ht hn
      omega
    · have := List.length_pos_iff.mpr hn
      omega
  | failed ht message =>
    refine ⟨rfl, .inr ?_⟩
    show _ ≤ session.cursor
    have := hdn ht rfl
    omega
  | waits hd => cases hd

/-- Enough reads return all that is left, unless the cursor has fallen behind. -/
theorem Sound.drain : ∀ (limits : List Nat) {session : Session},
    Sound log session → session.waiting = none → (∀ limit ∈ limits, 1 ≤ limit) →
    log.length ≤ session.cursor + limits.length →
    (∃ reply ∈ (session.run (limits.map (.read · none))).replies, FellBehind reply) ∨
      log.length ≤ (session.run (limits.map (.read · none))).cursor
  | [], _, _, _, _, hcn => .inr hcn
  | limit :: rest, session, h, hd, hl, hcn => by
    obtain ⟨hw, ⟨reply, hm, hb⟩ | hc⟩ :=
      h.read_progress (hl limit List.mem_cons_self) hd
    · exact .inl ⟨reply, (replies_run (rest.map (.read · none)) _).subset hm, hb⟩
    · have hn : Sound log (session.step (.read limit none)) := by
        simpa [Action.entries, admitted] using h.step (.read limit none)
      refine Sound.drain rest hn hw (fun other ht => hl other (List.mem_cons_of_mem _ ht)) ?_
      rw [List.length_cons] at hcn
      show log.length ≤ (session.step (.read limit none)).cursor + rest.length
      omega

end Session

/-! ## Exactness -/

/-- The reads of `session` have returned what was `accepted`, as far as they have come. -/
structure ExactOutput (accepted : List OutputEntry) (session : Session) : Prop where
  /-- Per stream the bytes returned are the bytes accepted, in order and without loss or
      repetition. -/
  bytes : ∀ stream : OutputStream, stream.bytes session.received <+: stream.bytes accepted
  /-- The end of a stream is returned once, after all of its bytes. -/
  ends : ∀ stream, EndsLast stream accepted → .finished stream ∈ session.received →
    session.received.count (.finished stream) = 1 ∧
      stream.bytes session.received = stream.bytes accepted
  /-- Reads fail only with an error of the streams. -/
  errors : ∀ reply ∈ session.replies, ∀ error, reply.2 = .error error → error.code = .internal
  /-- As many more reads as there are entries left return everything. -/
  drained : ∀ limits : List Nat, (∀ limit ∈ limits, 1 ≤ limit) →
    accepted.length ≤ session.received.length + limits.length →
    (∃ reply ∈ (session.run (.timeout :: limits.map (.read · none))).replies, FellBehind reply) ∨
      (session.run (.timeout :: limits.map (.read · none))).received = accepted

theorem EndsLast.count_le (h : EndsLast stream entries) : entries.count (.finished stream) ≤ 1 := by
  by_contra hm
  have ht : (List.replicate 2 (OutputEntry.finished stream)).Sublist entries :=
    List.replicate_sublist_iff.mpr (by omega)
  have hp := h.sublist ht
  simp [List.replicate, OutputEntry.stream] at hp

/-- What comes after the end of a stream has none of its bytes. -/
theorem EndsLast.bytes_eq (h : EndsLast stream (head ++ tail)) (hm : .finished stream ∈ head) :
    stream.bytes (head ++ tail) = stream.bytes head := by
  have hn : stream.bytes tail = [] := by
    rw [OutputStream.bytes, List.filterMap_eq_nil_iff]
    intro entry hen
    have ht := (List.pairwise_append.mp h).2.2 _ hm _ hen rfl
    cases entry with
    | byte source value => exact if_neg ht
    | finished source => rfl
  rw [OutputStream.bytes, List.filterMap_append]
  exact (congrArg _ hn).trans (List.append_nil _)

theorem Session.Sound.exactOutput (h : session.Sound log)
    (hrc : session.received = log.take session.cursor)
    (herr : ∀ reply ∈ session.replies, ∀ error, reply.2 = .error error → error.code = .internal) :
    ExactOutput log session where
  bytes stream := by
    rw [hrc]
    exact (List.take_prefix _ _).filterMap _
  ends stream hls hmem := by
    rw [← List.take_append_drop session.cursor log, ← hrc] at hls
    refine ⟨le_antisymm ?_ (List.one_le_count_iff.mpr hmem), ?_⟩
    · exact EndsLast.count_le (hls.sublist (List.sublist_append_left _ _))
    · conv_rhs => rw [← List.take_append_drop session.cursor log, ← hrc]
      exact (hls.bytes_eq hmem).symm
  errors := herr
  drained limits hl hcn := by
    -- the deadline ends a read that is still waiting
    have hd : (session.step .timeout).waiting = none ∧
        (session.step .timeout).cursor = session.cursor := by
      unfold Session.step
      cases hw : session.waiting <;> simp [Session.reply, hw]
    have hs : (session.step .timeout).Sound log := by
      simpa [Action.entries, admitted] using h.step .timeout
    have hsn : (session.run (.timeout :: limits.map (.read · none))).Sound log := by
      have hr := hs.run (limits.map (.read · none))
      have hn : ∀ next, accepted next (limits.map (.read · none)) = [] := by
        clear hl hcn hr
        induction limits with
        | nil => exact fun _ => rfl
        | cons limit rest ih =>
          intro next
          simp [accepted, Action.entries, admitted, ih]
      rw [hn, List.append_nil] at hr
      exact hr
    rw [hrc, List.length_take, min_eq_left h.cursor] at hcn
    rcases hs.drain limits hd.1 hl (by omega) with hb | hc
    · exact .inl hb
    · refine hsn.exact.imp id fun hx => ?_
      rw [hx.1]
      exact List.take_of_length_le hc

/-- **Reading is exact.** Whatever the streams write and however reads are interleaved with it, no
    read exceeds its limit, and either a read reports that the cursor fell behind or the reads return
    exactly what the buffer accepted. A write is refused only for want of sequences, and then an
    error is kept. -/
theorem reading_is_exact (openStreams : Nat) (actions : List Action) :
    (∀ reply ∈ ((Session.start openStreams).run actions).replies, WithinLimit reply) ∧
    (accepted 1 actions ≠ written actions →
      ((Session.start openStreams).run actions).buffer.terminalError.isSome) ∧
    ((∃ reply ∈ ((Session.start openStreams).run actions).replies, FellBehind reply) ∨
      ExactOutput (accepted 1 actions) ((Session.start openStreams).run actions)) := by
  have hst := Session.sound_start openStreams
  have hs : ((Session.start openStreams).run actions).Sound (accepted 1 actions) :=
    hst.run actions
  refine ⟨hs.limits, fun hr => hst.run_refused actions (.inr hr), ?_⟩
  exact hs.exact.imp id fun ⟨hrc, herr⟩ => hs.exactOutput hrc herr

/-! ### Exhausted sequences -/

/-- The client has received everything and never fell behind. -/
structure CaughtUp (log : List OutputEntry) (session : Session) : Prop where
  sound : session.Sound log
  idle : session.waiting = none
  cursor : session.cursor = log.length
  kept : ∀ reply ∈ session.replies, ¬ FellBehind reply

theorem caughtUp_start (openStreams : Nat) : CaughtUp [] (Session.start openStreams) :=
  ⟨Session.sound_start openStreams, rfl, rfl, by simp [Session.start]⟩

/-- A read whose output is retained does not report that it fell behind. -/
theorem Session.Sound.read_kept (h : session.Sound log) (hdl : session.waiting = none)
    (hdr : session.buffer.droppedThrough ≤ session.cursor)
    (hk : ∀ reply ∈ session.replies, ¬ FellBehind reply) (maxBytes : Nat) :
    ∀ reply ∈ (session.step (.read maxBytes none)).replies, ¬ FellBehind reply := by
  have ha := OutputBuffer.readOnce_spec h.retains h.cursor maxBytes false
  rw [step_read hdl, Session.attempt]
  generalize OutputBuffer.readOnce session.buffer session.cursor maxBytes false = result at ha ⊢
  have hdd : ∀ reply : Nat × Result (List OutputChunk), ¬ FellBehind reply →
      ∀ other ∈ session.replies ++ [reply], ¬ FellBehind other := by
    intro reply hrp other hm
    rcases List.mem_append.mp hm with hold | hn
    · exact hk other hold
    · exact List.mem_singleton.mp hn ▸ hrp
  cases ha with
  | behind hb => omega
  | output ht =>
    refine hdd _ ?_
    rintro ⟨_, _, _, ⟨⟩⟩
  | failed ht message =>
    refine hdd _ ?_
    rintro ⟨cursor, retained, -, hr⟩
    injection hr with hr
    exact ErrorCode.noConfusion (congrArg Error.code hr)
  | waits hd => cases hd

/-- A read right after a write of at most one entry catches up again. -/
theorem CaughtUp.follow (h : CaughtUp log session) (action : Action) (buffer : OutputState)
    (hw : session.step action = { session with buffer })
    (hd : buffer.droppedThrough ≤ log.length)
    (ho : (admitted (log.length + 1) action.entries).length ≤ 1) :
    CaughtUp (log ++ admitted (log.length + 1) action.entries)
      (session.run [action, .read 1 none]) := by
  show CaughtUp _ ((session.step action).step (.read 1 none))
  have hs := h.sound.step action
  have hr : ((session.step action).step (.read 1 none)).Sound
      (log ++ admitted (log.length + 1) action.entries) := by
    simpa [Action.entries, admitted] using hs.step (.read 1 none)
  rw [hw] at hs hr ⊢
  have hk := hs.read_kept h.idle (hd.trans_eq h.cursor.symm) h.kept 1
  obtain ⟨hdl, ⟨reply, hm, hb⟩ | hmv⟩ := hs.read_progress le_rfl h.idle
  · exact absurd hb (hk reply hm)
  · refine ⟨hr, hdl, le_antisymm hr.cursor (le_trans (le_min le_rfl ?_) hmv), hk⟩
    rw [List.length_append]
    show _ ≤ session.cursor + 1
    rw [h.cursor]
    omega

theorem settle_droppedThrough (oc : OutputState × Result Unit) :
    (OutputBuffer.settle oc).droppedThrough = oc.1.droppedThrough := by
  unfold OutputBuffer.settle
  split <;> rfl

theorem CaughtUp.append (h : CaughtUp log session) (stream : OutputStream) (hn : data ≠ [])
    (hf : data.length ≤ outputBufferBytes)
    (ho : (admitted (log.length + 1) (data.map (.byte stream))).length ≤ 1) :
    CaughtUp (log ++ admitted (log.length + 1) (data.map (.byte stream)))
      (session.run [.append stream data, .read 1 none]) := by
  refine h.follow (.append stream data) (OutputBuffer.append session.buffer stream data) rfl ?_ ho
  rw [OutputBuffer.append, if_neg (by simpa using hn), settle_droppedThrough]
  exact OutputState.append_droppedThrough h.sound.retains stream hf (by simpa using hn) (by simp)

theorem CaughtUp.finish (h : CaughtUp log session) (stream : OutputStream) :
    CaughtUp (log ++ admitted (log.length + 1) [.finished stream])
      (session.run [.finish stream none, .read 1 none]) := by
  refine h.follow (.finish stream none) (OutputBuffer.finish session.buffer stream none) rfl ?_ ?_
  · rw [OutputBuffer.finish, settle_droppedThrough]
    exact OutputState.append_droppedThrough (h.sound.retains.congr _ _) stream (Nat.zero_le _)
      (by simp) (fun _ => rfl)
  · show (admitted (log.length + 1) [.finished stream]).length ≤ 1
    unfold admitted
    split <;> simp

/-- One byte of `stdout` and a read of it, `count` times. -/
def Sample.trickle : Nat → List Action
  | 0 => []
  | count + 1 => Sample.trickle count ++ [.append .stdout [0], .read 1 none]

/-- All but one of the sequences are used up; then two bytes come and `stdout` ends. -/
def Sample.exhausting : List Action :=
  Sample.trickle (u64Max - 2) ++ ([.append .stdout [0, 0], .read 1 none] ++
    [.finish .stdout none, .read 1 none])

theorem Sample.run_append (session : Session) (first second : List Action) :
    session.run (first ++ second) = (session.run first).run second := List.foldl_append

theorem Sample.trickle_caughtUp (openStreams : Nat) : ∀ count, count + 1 ≤ u64Max →
    CaughtUp (List.replicate count (.byte .stdout 0))
      ((Session.start openStreams).run (Sample.trickle count))
  | 0, _ => caughtUp_start openStreams
  | count + 1, hc => by
    have ha : admitted ((List.replicate count (OutputEntry.byte .stdout 0)).length + 1)
        ([0].map (.byte .stdout)) = [.byte .stdout 0] := by
      rw [List.length_replicate, admitted, if_pos (by simpa using hc)]
      rfl
    have hl := (trickle_caughtUp openStreams count (by omega)).append .stdout
      (List.cons_ne_nil 0 []) (by decide) (by rw [ha]; exact le_rfl)
    rw [ha, ← List.replicate_succ'] at hl
    rw [Sample.trickle, Sample.run_append]
    exact hl

theorem Sample.written_trickle : ∀ count,
    written (Sample.trickle count) = List.replicate count (.byte .stdout 0)
  | 0 => rfl
  | count + 1 => by
    rw [Sample.trickle, written, List.flatMap_append, ← written, written_trickle count,
      List.replicate_succ']
    rfl

theorem exhausted_sequence_loses_output :
    (∀ reply ∈ ((Session.start 1).run Sample.exhausting).replies, ¬ FellBehind reply) ∧
    EndsLast .stdout (written Sample.exhausting) ∧
    .finished .stdout ∈ ((Session.start 1).run Sample.exhausting).received ∧
    (OutputStream.stdout.bytes ((Session.start 1).run Sample.exhausting).received).length + 2 =
      (OutputStream.stdout.bytes (written Sample.exhausting)).length := by
  have hmx : 2 ≤ u64Max := by decide
  unfold Sample.exhausting
  generalize hc : u64Max - 2 = count
  let log : List OutputEntry := List.replicate count (.byte .stdout 0)
  have hl : log.length = count := List.length_replicate
  -- two bytes do not have sequences any more, the end of the stream still has one
  have hr : admitted (log.length + 1) ([0, 0].map (.byte .stdout)) = [] :=
    if_neg (by simp only [hl, List.length_map, List.length_cons, List.length_nil]; omega)
  have hfn : admitted (log.length + 1) [.finished .stdout] = [.finished .stdout] :=
    if_pos (by simp only [hl, List.length_cons, List.length_nil]; omega)
  have ht : CaughtUp log _ := Sample.trickle_caughtUp 1 count (by omega)
  have hb := ht.append .stdout (List.cons_ne_nil 0 [0]) (by decide)
    (by rw [hr]; exact Nat.zero_le _)
  rw [hr, List.append_nil] at hb
  have hen := hb.finish .stdout
  rw [hfn, ← Sample.run_append, ← Sample.run_append] at hen
  have hrc := (hen.sound.exact.resolve_left fun ⟨reply, hm, hbh⟩ => hen.kept reply hm hbh).1
  rw [hen.cursor, List.take_length] at hrc
  have hw : written (Sample.trickle count ++ ([.append .stdout [0, 0], .read 1 none] ++
      [.finish .stdout none, .read 1 none])) =
      log ++ [.byte .stdout 0, .byte .stdout 0, .finished .stdout] := by
    rw [written, List.flatMap_append, ← written, Sample.written_trickle]
    rfl
  refine ⟨hen.kept, ?_, ?_, ?_⟩
  · rw [hw, EndsLast, List.pairwise_append]
    refine ⟨List.pairwise_replicate.mpr (.inr (by simp)), by decide, ?_⟩
    intro first hf second _ heq
    rw [List.eq_of_mem_replicate hf] at heq
    cases heq
  · rw [hrc]
    exact List.mem_append_right _ (List.mem_singleton_self _)
  · rw [hrc, hw]
    simp [OutputStream.bytes]

end OciRuntime
