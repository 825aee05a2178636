import OciRuntime.Shim.StdinPump

/-!
# `OciRuntime.Property.StdinDelivery` — the input of a process over all shims that deliver it

Whatever crashes, cancellations and failed writes there are, the trace of a run is a legal trace of an
ordered stream (`OciRuntime.Lib.OrderedStream`). The invariant ties the journal in the file and the one
in memory to the trace: each of them is at the last prepared chunk, or one write ahead of what the pump
was told. The journal in memory of a running pump is never ahead.

## Contents
- **Journals.** `Idle`, `Busy`, `Closing`, `StdinJournaled`.
- **The pump.** `StdinPhase.Follows`.
- **The invariant.** `StdinDelivery.Tracks`, its steps, `StdinDelivery.Runs.tracks`.
- **Delivery.** `stdin_delivered_once`.
-/

namespace OciRuntime

open Durable OrderedStream

variable {write : PendingStdinWrite} {sequence : Nat} {data : List UInt8}
  {result : Option ProcessJournal}

abbrev StdinEvent := Event String (List UInt8)

variable {trace : List StdinEvent} {journal : ProcessJournal}

/-! ## Journals -/

/-- Every chunk is committed and the stream is open. -/
structure Idle (trace : List StdinEvent) (journal : ProcessJournal) : Prop where
  sequence : journal.stdinSequence = (preparedIn trace).length
  committed : (committedIn trace).length = (preparedIn trace).length
  pending : journal.pendingStdinWrite = none
  opened : journal.stdinCloseState = .opened
  unclosed : .closePrepared ∉ trace

/-- The last chunk is pending. -/
structure Busy (trace : List StdinEvent) (journal : ProcessJournal) (write : PendingStdinWrite) :
    Prop where
  sequence : journal.stdinSequence + 1 = (preparedIn trace).length
  committed : (committedIn trace).length + 1 = (preparedIn trace).length
  number : write.sequence = (preparedIn trace).length
  pending : journal.pendingStdinWrite = some write
  prepared : .prepared write.sequence write.data ∈ trace
  opened : journal.stdinCloseState = .opened
  unclosed : .closePrepared ∉ trace

/-- Every chunk is committed and the close is prepared. -/
structure Closing (trace : List StdinEvent) (journal : ProcessJournal) : Prop where
  sequence : journal.stdinSequence = (preparedIn trace).length
  committed : (committedIn trace).length = (preparedIn trace).length
  pending : journal.pendingStdinWrite = none
  closing : journal.stdinCloseState = .closing
  prepared : .closePrepared ∈ trace

/-- What a journal of the process can hold, in the file or in memory.
    - `settled`: nothing is pending. The last chunk may be committed without the pump knowing it, but
      not before its submission ended, and so may the close.
    - `pending`: the last chunk.
    - `unprepared`: a chunk whose prepare failed after it was written. -/
inductive StdinJournaled (trace : List StdinEvent) (journal : ProcessJournal) : Prop
  | settled (sequence : journal.stdinSequence = (preparedIn trace).length)
      (pending : journal.pendingStdinWrite = none)
      (committed : (committedIn trace).length = (preparedIn trace).length ∨
        (committedIn trace).length + 1 = (preparedIn trace).length ∧
          .ended (preparedIn trace).length ∈ trace)
      (opened : journal.stdinCloseState = .opened → .closePrepared ∉ trace)
      (closing : journal.stdinCloseState ≠ .opened →
        (committedIn trace).length = (preparedIn trace).length)
      (closed : journal.stdinCloseState = .closed → .closeEnded ∈ trace)
  | pending (write : PendingStdinWrite) (busy : Busy trace journal write)
  | unprepared (data : List UInt8) (sequence : journal.stdinSequence = (preparedIn trace).length)
      (committed : (committedIn trace).length = (preparedIn trace).length)
      (pending : journal.pendingStdinWrite = some ⟨(preparedIn trace).length + 1, data⟩)
      (opened : journal.stdinCloseState = .opened) (unclosed : .closePrepared ∉ trace)

theorem Idle.journaled (h : Idle trace journal) : StdinJournaled trace journal :=
  .settled h.sequence h.pending (.inl h.committed) (fun _ => h.unclosed) (fun _ => h.committed)
    fun hc => by
      rw [h.opened] at hc
      cases hc

theorem Closing.journaled (h : Closing trace journal) : StdinJournaled trace journal := by
  refine .settled h.sequence h.pending (.inl h.committed) (fun ho => ?_) (fun _ => h.committed)
    fun hc => ?_
  · rw [h.closing] at ho
    cases ho
  · rw [h.closing] at hc
    cases hc

/-! ### Events that leave the journals alone -/

/-- The event is no change of the journal. -/
def Passing (event : StdinEvent) : Prop :=
  preparedIn [event] = [] ∧ committedIn [event] = [] ∧ event ≠ .closePrepared

section Passing

variable {event : StdinEvent}

theorem Passing.preparedIn (h : Passing event) :
    OrderedStream.preparedIn (trace ++ [event]) = OrderedStream.preparedIn trace := by
  rw [preparedIn_append, h.1, List.append_nil]

theorem Passing.committedIn (h : Passing event) :
    OrderedStream.committedIn (trace ++ [event]) = OrderedStream.committedIn trace := by
  rw [committedIn_append, h.2.1, List.append_nil]

theorem Passing.unclosed (h : Passing event) (hu : .closePrepared ∉ trace) :
    .closePrepared ∉ trace ++ [event] := by
  intro hm
  rcases List.mem_append.mp hm with hold | hn
  · exact hu hold
  · exact h.2.2 (List.mem_singleton.mp hn).symm

theorem Idle.pass (h : Idle trace journal) (hp : Passing event) :
    Idle (trace ++ [event]) journal := by
  refine ⟨?_, ?_, h.pending, h.opened, hp.unclosed h.unclosed⟩
  · rw [hp.preparedIn]
    exact h.sequence
  · rw [hp.preparedIn, hp.committedIn]
    exact h.committed

theorem Busy.pass (h : Busy trace journal write) (hp : Passing event) :
    Busy (trace ++ [event]) journal write := by
  refine ⟨?_, ?_, ?_, h.pending, List.mem_append_left _ h.prepared, h.opened,
    hp.unclosed h.unclosed⟩
  · rw [hp.preparedIn]
    exact h.sequence
  · rw [hp.preparedIn, hp.committedIn]
    exact h.committed
  · rw [hp.preparedIn]
    exact h.number

theorem Closing.pass (h : Closing trace journal) (hp : Passing event) :
    Closing (trace ++ [event]) journal := by
  refine ⟨?_, ?_, h.pending, h.closing, List.mem_append_left _ h.prepared⟩
  · rw [hp.preparedIn]
    exact h.sequence
  · rw [hp.preparedIn, hp.committedIn]
    exact h.committed

theorem StdinJournaled.pass (h : StdinJournaled trace journal) (hp : Passing event) :
    StdinJournaled (trace ++ [event]) journal := by
  cases h with
  | settled sequence pending committed opened closing closed =>
    refine .settled ?_ pending ?_ (fun ho => hp.unclosed (opened ho)) ?_
      fun hc => List.mem_append_left _ (closed hc)
    · rw [hp.preparedIn]
      exact sequence
    · rw [hp.preparedIn, hp.committedIn]
      exact committed.imp_right fun hen => ⟨hen.1, List.mem_append_left _ hen.2⟩
    · rw [hp.preparedIn, hp.committedIn]
      exact closing
  | pending write busy => exact .pending write (busy.pass hp)
  | unprepared data sequence committed pending opened unclosed =>
    refine .unprepared data ?_ ?_ ?_ opened (hp.unclosed unclosed)
    · rw [hp.preparedIn]
      exact sequence
    · rw [hp.preparedIn, hp.committedIn]
      exact committed
    · rw [hp.preparedIn]
      exact pending

end Passing

/-! ### Other sections -/

section SameStdin

variable {changed : ProcessJournal}

theorem Idle.congr (h : Idle trace journal) (hs : changed.SameStdin journal) :
    Idle trace changed := by
  obtain ⟨-, hseq, hp, hc⟩ := hs
  exact ⟨hseq.trans h.sequence, h.committed, hp.trans h.pending, hc.trans h.opened, h.unclosed⟩

theorem Busy.congr (h : Busy trace journal write) (hs : changed.SameStdin journal) :
    Busy trace changed write := by
  obtain ⟨-, hseq, hp, hc⟩ := hs
  exact ⟨by rw [hseq]; exact h.sequence, h.committed, h.number, hp.trans h.pending,
    h.prepared, hc.trans h.opened, h.unclosed⟩

theorem Closing.congr (h : Closing trace journal) (hs : changed.SameStdin journal) :
    Closing trace changed := by
  obtain ⟨-, hseq, hp, hc⟩ := hs
  exact ⟨hseq.trans h.sequence, h.committed, hp.trans h.pending, hc.trans h.closing, h.prepared⟩

theorem StdinJournaled.congr (h : StdinJournaled trace journal) (hs : changed.SameStdin journal) :
    StdinJournaled trace changed := by
  cases h with
  | settled sequence pending committed opened closing closed =>
    obtain ⟨-, hseq, hp, hc⟩ := hs
    exact .settled (hseq.trans sequence) (hp.trans pending) committed
      (hc ▸ opened) (hc ▸ closing) (hc ▸ closed)
  | pending write busy => exact .pending write (busy.congr hs)
  | unprepared data sequence committed pending opened unclosed =>
    obtain ⟨-, hseq, hp, hc⟩ := hs
    exact .unprepared data (hseq.trans sequence) committed (hp.trans pending)
      (hc.trans opened) unclosed

end SameStdin

/-! ## The pump -/

/-- The journal in memory is where the pump thinks it is. -/
def StdinPhase.Follows (trace : List StdinEvent) (journal : ProcessJournal) (sequence : Nat) :
    StdinPhase → Prop
  | .waiting none | .reading | .preparing _ | .preparingClose =>
    Idle trace journal ∧ sequence = journal.stdinSequence
  | .waiting (some write) | .dispatching write => Busy trace journal write
  | .inFlight write => Busy trace journal write ∧
      .submitted (stdinOperation write.sequence) write.data ∈ trace
  | .committing write => Busy trace journal write ∧ .ended write.sequence ∈ trace
  | .waitingClose | .dispatchingClose => Closing trace journal
  | .closeInFlight => Closing trace journal ∧ .closeSubmitted ∈ trace
  | .committingClose => Closing trace journal ∧ .closeEnded ∈ trace
  | .finished => True

theorem StdinPhase.Follows.pass {phase : StdinPhase} (h : phase.Follows trace journal sequence)
    (hp : Passing event) : phase.Follows (trace ++ [event]) journal sequence := by
  cases phase with
  | waiting pending =>
    cases pending with
    | none => exact ⟨h.1.pass hp, h.2⟩
    | some write => exact Busy.pass h hp
  | reading => exact ⟨h.1.pass hp, h.2⟩
  | preparing data => exact ⟨h.1.pass hp, h.2⟩
  | preparingClose => exact ⟨h.1.pass hp, h.2⟩
  | dispatching write => exact Busy.pass h hp
  | inFlight write => exact ⟨h.1.pass hp, List.mem_append_left _ h.2⟩
  | committing write => exact ⟨h.1.pass hp, List.mem_append_left _ h.2⟩
  | waitingClose => exact Closing.pass h hp
  | dispatchingClose => exact Closing.pass h hp
  | closeInFlight => exact ⟨h.1.pass hp, List.mem_append_left _ h.2⟩
  | committingClose => exact ⟨h.1.pass hp, List.mem_append_left _ h.2⟩
  | finished => trivial

theorem StdinPhase.Follows.congr {phase : StdinPhase} (h : phase.Follows trace journal sequence)
    (hs : changed.SameStdin journal) : phase.Follows trace changed sequence := by
  have hseq := hs.2.1.symm
  cases phase with
  | waiting pending =>
    cases pending with
    | none => exact ⟨h.1.congr hs, h.2.trans hseq⟩
    | some write => exact Busy.congr h hs
  | reading => exact ⟨h.1.congr hs, h.2.trans hseq⟩
  | preparing data => exact ⟨h.1.congr hs, h.2.trans hseq⟩
  | preparingClose => exact ⟨h.1.congr hs, h.2.trans hseq⟩
  | dispatching write => exact Busy.congr h hs
  | inFlight write => exact ⟨h.1.congr hs, h.2⟩
  | committing write => exact ⟨h.1.congr hs, h.2⟩
  | waitingClose => exact Closing.congr h hs
  | dispatchingClose => exact Closing.congr h hs
  | closeInFlight => exact ⟨h.1.congr hs, h.2⟩
  | committingClose => exact ⟨h.1.congr hs, h.2⟩
  | finished => trivial

/-! ## The invariant -/

/-- The trace is legal, and the journals and the pump are at its end. -/
structure StdinDelivery.Tracks (delivery : StdinDelivery) : Prop where
  legal : Legal stdinOperation delivery.trace
  file : StdinJournaled delivery.trace delivery.file
  memory : ∀ journal, delivery.memory = some journal → StdinJournaled delivery.trace journal
  pump : ∀ pump, delivery.pump = some pump → ∃ journal, delivery.memory = some journal ∧
    pump.phase.Follows delivery.trace journal pump.sequence

/-- What a call of the journal that has something to write does in a state of the pump: on its own it
    leaves a journal that the trace allows, and together with its event the next state. -/
structure StdinAdvances (trace : List StdinEvent) (journal changed : ProcessJournal) (event : StdinEvent)
    (pump : StdinPump) : Prop where
  ahead : StdinJournaled trace changed
  allowed : event.Allowed stdinOperation trace
  after : StdinJournaled (trace ++ [event]) changed
  follows : pump.phase.Follows (trace ++ [event]) changed pump.sequence

/-! ### Events of the journal -/

section
variable (hseq : journal.stdinSequence = (preparedIn trace).length)
include hseq

theorem Busy.of_prepared (hcm : (committedIn trace).length = (preparedIn trace).length)
    (hpn : journal.pendingStdinWrite = some ⟨(preparedIn trace).length + 1, data⟩)
    (ho : journal.stdinCloseState = .opened) (hu : .closePrepared ∉ trace) :
    Busy (trace ++ [.prepared ((preparedIn trace).length + 1) data]) journal
      ⟨(preparedIn trace).length + 1, data⟩ := by
  have hp : (preparedIn (trace ++ [Event.prepared ((preparedIn trace).length + 1) data])).length =
        (preparedIn trace).length + 1 := by
    rw [preparedIn_append, List.length_append]
    rfl
  have hc : committedIn (trace ++ [Event.prepared ((preparedIn trace).length + 1) data]) =
        committedIn trace := by
    rw [committedIn_append]
    exact List.append_nil _
  refine ⟨?_, ?_, hp.symm, hpn, by simp, ho, by simp [hu]⟩
  · rw [hp, hseq]
  · rw [hp, hc, hcm]

theorem Idle.of_committed (hc : (committedIn trace).length + 1 = (preparedIn trace).length)
    (hpn : journal.pendingStdinWrite = none) (ho : journal.stdinCloseState = .opened)
    (hu : .closePrepared ∉ trace) :
    Idle (trace ++ [.committed (preparedIn trace).length]) journal := by
  have hp : preparedIn (trace ++ [Event.committed (preparedIn trace).length]) =
      preparedIn trace := by
    rw [preparedIn_append]
    exact List.append_nil _
  refine ⟨?_, ?_, hpn, ho, by simp [hu]⟩
  · rw [hp]
    exact hseq
  · rw [hp, committedIn_append, List.length_append]
    exact hc

theorem Closing.of_prepared (hcm : (committedIn trace).length = (preparedIn trace).length)
    (hpn : journal.pendingStdinWrite = none) (hcs : journal.stdinCloseState = .closing) :
    Closing (trace ++ [.closePrepared]) journal := by
  have hp : preparedIn (trace ++ [Event.closePrepared]) = preparedIn trace := by
    rw [preparedIn_append]
    exact List.append_nil _
  have hc : committedIn (trace ++ [Event.closePrepared]) = committedIn trace := by
    rw [committedIn_append]
    exact List.append_nil _
  refine ⟨?_, ?_, hpn, hcs, by simp⟩
  · rw [hp]
    exact hseq
  · rw [hp, hc]
    exact hcm

end

/-! ### The four calls of the journal -/

theorem Idle.prepare (h : Idle trace journal) (hseq : sequence = journal.stdinSequence)
    (hc : journal.prepareStdin (sequence + 1) data = .ok result) :
    ∃ changed, result = some changed ∧
      StdinAdvances trace journal changed (.prepared (sequence + 1) data)
        ⟨sequence, .dispatching ⟨sequence + 1, data⟩⟩ := by
  simp only [ProcessJournal.prepareStdin, PendingStdinWrite.new, bind_eq_ok, h.pending,
    rejectIf_eq_ok] at hc
  obtain ⟨pending, ⟨_, _, hp⟩, _, _, _, _, hr⟩ := hc
  cases hp
  cases hr
  have hn : sequence = (preparedIn trace).length := hseq.trans h.sequence
  subst hn
  have hb : Busy (trace ++ [.prepared ((preparedIn trace).length + 1) data])
      { journal with pendingStdinWrite := some ⟨(preparedIn trace).length + 1, data⟩ }
      ⟨(preparedIn trace).length + 1, data⟩ :=
    Busy.of_prepared h.sequence h.committed rfl h.opened h.unclosed
  exact ⟨_, rfl, .unprepared data h.sequence h.committed rfl h.opened h.unclosed,
    ⟨rfl, h.committed, h.unclosed⟩, .pending _ hb, hb⟩

theorem Busy.commit (h : Busy trace journal write) (hen : .ended write.sequence ∈ trace)
    (hca : journal.commitStdin write.sequence = .ok result) :
    ∃ changed, result = some changed ∧
      StdinAdvances trace journal changed (.committed write.sequence) ⟨write.sequence, .reading⟩ := by
  have hnt : ¬(journal.stdinSequence = write.sequence ∧ journal.pendingStdinWrite = none) := by
    intro hdn
    rw [h.pending] at hdn
    cases hdn.2
  simp only [ProcessJournal.commitStdin, if_neg hnt, bind_eq_ok] at hca
  obtain ⟨_, _, _, _, hr⟩ := hca
  cases hr
  have hn := h.number
  have hcm := h.committed
  have hd : Idle (trace ++ [.committed write.sequence])
      { journal with pendingStdinWrite := none, stdinSequence := write.sequence } := by
    rw [hn]
    exact Idle.of_committed rfl hcm rfl h.opened h.unclosed
  refine ⟨_, rfl, .settled hn rfl (.inr ⟨hcm, hn ▸ hen⟩) (fun _ => h.unclosed)
    (fun hc => absurd h.opened hc) (fun hc => ?_), ⟨by omega, hen, by omega⟩,
    hd.journaled, hd, rfl⟩
  rw [show journal.stdinCloseState = .opened from h.opened] at hc
  cases hc

theorem Idle.prepareClose (h : Idle trace journal) (hc : journal.prepareStdinClose = .ok result) :
    ∃ changed, result = some changed ∧
      StdinAdvances trace journal changed .closePrepared ⟨sequence, .dispatchingClose⟩ := by
  simp only [ProcessJournal.prepareStdinClose, if_neg (not_not.mpr h.opened), bind_eq_ok] at hc
  obtain ⟨_, _, hr⟩ := hc
  cases hr
  have hcs : Closing (trace ++ [.closePrepared]) { journal with stdinCloseState := .closing } :=
    Closing.of_prepared h.sequence h.committed h.pending rfl
  exact ⟨_, rfl, .settled h.sequence h.pending (.inl h.committed) (by rintro ⟨⟩)
    (fun _ => h.committed) (by rintro ⟨⟩), h.committed, hcs.journaled,
    hcs⟩

theorem Closing.commitClose (h : Closing trace journal) (hen : .closeEnded ∈ trace)
    (hc : journal.commitStdinClose = .ok result) :
    ∃ changed, result = some changed ∧
      StdinAdvances trace journal changed .closeCommitted ⟨sequence, .finished⟩ := by
  have hn : journal.stdinCloseState ≠ .closed := by
    rw [h.closing]
    rintro ⟨⟩
  simp only [ProcessJournal.commitStdinClose, if_neg hn, bind_eq_ok] at hc
  obtain ⟨_, _, hr⟩ := hc
  cases hr
  have hh : StdinJournaled trace { journal with stdinCloseState := .closed } :=
    .settled h.sequence h.pending (.inl h.committed) (by rintro ⟨⟩)
      (fun _ => h.committed) fun _ => hen
  exact ⟨_, rfl, hh, hen, hh.pass ⟨rfl, rfl, by rintro ⟨⟩⟩, trivial⟩

/-! ### Replacement shims -/

/-- What a replacement shim finds brings the trace up to the journal. -/
structure CatchesUp (trace : List StdinEvent) (journal : ProcessJournal)
    (events : List StdinEvent) : Prop where
  legal : Legal stdinOperation (trace ++ events)
  journaled : StdinJournaled (trace ++ events) journal
  spawned : ∀ pump, StdinPump.spawn journal = some pump →
    pump.phase.Follows (trace ++ events) journal pump.sequence

theorem StdinPump.spawn_eq_some (h : StdinPump.spawn journal = some pump) :
    pump.sequence = journal.stdinSequence ∧ pump.phase = match journal.stdinCloseState with
        | .opened => .waiting journal.pendingStdinWrite
        | .closing => .waitingClose
        | .closed => .finished := by
  unfold StdinPump.spawn at h
  split at h
  · cases h
  · cases hc : journal.stdinCloseState <;>
      · rw [hc] at h
        cases h
        exact ⟨rfl, rfl⟩

variable {events : List StdinEvent}

section
variable (hlg : Legal stdinOperation (trace ++ events))
include hlg

theorem Idle.catchesUp (h : Idle (trace ++ events) journal) : CatchesUp trace journal events := by
  refine ⟨hlg, h.journaled, fun pump hpm => ?_⟩
  obtain ⟨hseq, hp⟩ := StdinPump.spawn_eq_some hpm
  rw [h.opened, h.pending] at hp
  rw [hp]
  exact ⟨h, hseq⟩

theorem Busy.catchesUp
    (h : Busy (trace ++ events) journal write) : CatchesUp trace journal events := by
  refine ⟨hlg, .pending write h, fun pump hpm => ?_⟩
  obtain ⟨-, hp⟩ := StdinPump.spawn_eq_some hpm
  rw [h.opened, h.pending] at hp
  rw [hp]
  exact h

theorem Closing.catchesUp
    (h : Closing (trace ++ events) journal) : CatchesUp trace journal events := by
  refine ⟨hlg, h.journaled, fun pump hpm => ?_⟩
  obtain ⟨-, hp⟩ := StdinPump.spawn_eq_some hpm
  rw [h.closing] at hp
  rw [hp]
  exact h

end

theorem any_iff_mem (ht : ∀ other, test other = true ↔ other = event) :
    trace.any test = true ↔ event ∈ trace := by
  simp [ht]

theorem any_matches_closePrepared :
    trace.any (fun event => event matches .closePrepared) = true ↔ .closePrepared ∈ trace :=
  any_iff_mem fun event => by cases event <;> simp

theorem any_matches_closeCommitted :
    trace.any (fun event => event matches .closeCommitted) = true ↔ .closeCommitted ∈ trace :=
  any_iff_mem fun event => by cases event <;> simp

theorem StdinJournaled.found (hlg : Legal stdinOperation trace) (h : StdinJournaled trace journal) :
    CatchesUp trace journal (StdinDelivery.found trace journal) := by
  cases h with
  | settled sequence pending committed opened closing closed =>
    cases hc : journal.stdinCloseState with
    | opened =>
      have hu := opened hc
      rcases committed with ha | ⟨hl, hen⟩
      · have hnt : StdinDelivery.found trace journal = [] := by
          simp only [StdinDelivery.found, pending, hc]
          rw [if_neg (by omega)]
          rfl
        rw [hnt]
        exact Idle.catchesUp (by rwa [List.append_nil])
          (by rw [List.append_nil]; exact ⟨sequence, ha, pending, hc, hu⟩)
      · -- the commit was written, but its pump was not told
        have hf : StdinDelivery.found trace journal = [.committed (preparedIn trace).length] := by
          simp only [StdinDelivery.found, pending, hc, sequence]
          rw [if_pos (by omega)]
          rfl
        rw [hf]
        exact Idle.catchesUp (hlg.snoc ⟨by omega, hen, by omega⟩)
          (Idle.of_committed sequence hl pending hc hu)
    | closing =>
      have ha := closing (by rw [hc]; rintro ⟨⟩)
      by_cases hp : .closePrepared ∈ trace
      · have hnt : StdinDelivery.found trace journal = [] := by
          simp only [StdinDelivery.found, pending, hc]
          rw [if_neg (by omega), if_neg fun hn => hn.2 (any_matches_closePrepared.mpr hp)]
          rfl
        rw [hnt]
        exact Closing.catchesUp (by rwa [List.append_nil])
          (by rw [List.append_nil]; exact ⟨sequence, ha, pending, hc, hp⟩)
      · have hf : StdinDelivery.found trace journal = [.closePrepared] := by
          simp only [StdinDelivery.found, pending, hc]
          rw [if_neg (by omega), if_pos ⟨(by rintro ⟨⟩), fun han => hp
            (any_matches_closePrepared.mp han)⟩]
          rfl
        rw [hf]
        exact Closing.catchesUp (hlg.snoc ha) (Closing.of_prepared sequence ha pending hc)
    | closed =>
      have ha := closing (by rw [hc]; rintro ⟨⟩)
      have hen := closed hc
      have hp := hlg.closePrepared_of_closeEnded hen
      have hs : ∀ events pump, StdinPump.spawn journal = some pump →
          pump.phase.Follows (trace ++ events) journal pump.sequence := by
        intro events pump hpm
        obtain ⟨-, hph⟩ := StdinPump.spawn_eq_some hpm
        rw [hc] at hph
        rw [hph]
        trivial
      have hj : StdinJournaled trace journal :=
        .settled sequence pending committed opened closing closed
      by_cases hcm : .closeCommitted ∈ trace
      · have hnt : StdinDelivery.found trace journal = [] := by
          simp only [StdinDelivery.found, pending, hc]
          rw [if_neg (by omega), if_neg fun hn => hn.2 (any_matches_closePrepared.mpr hp),
            if_neg fun hn => hn.2 (any_matches_closeCommitted.mpr hcm)]
          rfl
        rw [hnt]
        exact ⟨by rwa [List.append_nil], by rwa [List.append_nil], hs []⟩
      · have hf : StdinDelivery.found trace journal = [.closeCommitted] := by
          simp only [StdinDelivery.found, pending, hc]
          rw [if_neg (by omega), if_neg fun hn => hn.2 (any_matches_closePrepared.mpr hp),
            if_pos ⟨trivial, fun han => hcm (any_matches_closeCommitted.mp han)⟩]
          rfl
        rw [hf]
        exact ⟨hlg.snoc hen, hj.pass ⟨rfl, rfl, by rintro ⟨⟩⟩, hs _⟩
  | pending write busy =>
    have hseq := busy.sequence
    have hcm := busy.committed
    have hnm := busy.number
    have hnt : StdinDelivery.found trace journal = [] := by
      simp only [StdinDelivery.found, busy.pending, busy.opened]
      rw [if_neg (by omega), if_neg (by omega)]
      rfl
    rw [hnt]
    exact Busy.catchesUp (by rwa [List.append_nil]) (by rwa [List.append_nil])
  | unprepared data sequence committed pending opened unclosed =>
    have hf : StdinDelivery.found trace journal =
        [.prepared ((preparedIn trace).length + 1) data] := by
      simp only [StdinDelivery.found, pending, opened]
      rw [if_neg (by omega), if_pos (by omega)]
      rfl
    rw [hf]
    exact Busy.catchesUp (hlg.snoc ⟨rfl, committed, unclosed⟩)
      (Busy.of_prepared sequence committed pending opened unclosed)

namespace StdinDelivery.Tracks

variable {delivery : StdinDelivery}

theorem stop (h : delivery.Tracks) : { delivery with pump := none }.Tracks :=
  ⟨h.legal, h.file, h.memory, by rintro _ ⟨⟩⟩

/-- The pump goes on, and nothing else happens. -/
theorem move (h : delivery.Tracks) (hm : delivery.memory = some journal)
    (hf : moved.phase.Follows delivery.trace journal moved.sequence) :
    { delivery with pump := some moved }.Tracks := by
  refine ⟨h.legal, h.file, h.memory, fun pump hp => ⟨journal, hm, ?_⟩⟩
  cases hp
  exact hf

variable {event : StdinEvent}

section
variable (h : delivery.Tracks)
include h

/-- Something happens that changes no journal; the pump may go on. -/
theorem pass (hp : Passing event) (hl : event.Allowed stdinOperation delivery.trace)
    (hm : ∀ pump, moved = some pump → ∃ journal, delivery.memory = some journal ∧
      pump.phase.Follows (delivery.trace ++ [event]) journal pump.sequence) :
    { delivery with pump := moved, trace := delivery.trace ++ [event] }.Tracks :=
  ⟨h.legal.snoc hl, h.file.pass hp, fun journal hj => (h.memory journal hj).pass hp, hm⟩

/-- Something happens outside of the shim. -/
theorem outside (hp : Passing event) (hl : event.Allowed stdinOperation delivery.trace) :
    { delivery with trace := delivery.trace ++ [event] }.Tracks :=
  h.pass hp hl fun pump hpm => by
    obtain ⟨journal, hm, hf⟩ := h.pump pump hpm
    exact ⟨journal, hm, hf.pass hp⟩

/-- **A call of the journal.** However it ends, the journals stay within one write of the trace. -/
theorem journalCall (hm : delivery.memory = some journal)
    (hca : ∀ result, call journal = .ok result → ∃ changed, result = some changed ∧
      StdinAdvances delivery.trace journal changed event moved) :
    (delivery.journalCall call oc event moved).Tracks := by
  unfold StdinDelivery.journalCall
  rw [hm]
  dsimp only
  split
  · rw [← hm]
    exact h.stop
  · rename_i hn
    obtain ⟨changed, hs, -⟩ := hca none hn
    cases hs
  · rename_i changed hc
    obtain ⟨_, hsm, ha⟩ := hca (some changed) hc
    cases hsm
    cases oc with
    | stored =>
      refine ⟨h.legal.snoc ha.allowed, ha.after, fun other ht => ?_,
        fun pump hp => ⟨changed, rfl, ?_⟩⟩
      · cases ht
        exact ha.after
      · cases hp
        exact ha.follows
    | failed written kept =>
      refine ⟨h.legal, ?_, fun other ht => ?_, by rintro _ ⟨⟩⟩
      · cases written
        · exact h.file
        · exact ha.ahead
      · cases ht
        cases kept
        · exact h.memory journal hm
        · exact ha.ahead

/-- One action of the running pump. -/
theorem pumpStep {pump : StdinPump} (hpm : delivery.pump = some pump)
    (ha : action.Admitted delivery) : (delivery.pumpStep pump action).Tracks := by
  obtain ⟨journal, hm, hf⟩ := h.pump pump hpm
  obtain ⟨sequence, phase⟩ := pump
  cases action with
  | activate =>
    simp only [StdinDelivery.pumpStep]
    split
    · -- the pending write is replayed
      split
      · exact h.move hm hf
      · exact h.stop
    · exact h.move hm hf
    · exact h.move hm hf
    · exact h
  | read data =>
    simp only [StdinDelivery.pumpStep]
    split
    · exact h.move hm hf
    · exact h
  | finish =>
    simp only [StdinDelivery.pumpStep]
    split
    · exact h.move hm hf
    · exact h
  | prepare oc =>
    simp only [StdinDelivery.pumpStep]
    split
    · split
      · exact h.stop
      · exact h.journalCall hm fun result hc => hf.1.prepare hf.2 hc
    · exact h
  | submit =>
    simp only [StdinDelivery.pumpStep]
    split
    · rename_i write
      have hb : Busy delivery.trace journal write := hf
      have hp : Passing (.submitted (stdinOperation write.sequence) write.data) :=
        ⟨rfl, rfl, by rintro ⟨⟩⟩
      refine h.pass hp ⟨write.sequence, rfl, hb.prepared⟩ fun moved hmv => ?_
      cases hmv
      exact ⟨journal, hm, hb.pass hp, by simp⟩
    · exact h
  | answer =>
    simp only [StdinDelivery.pumpStep]
    split
    · rename_i write
      have hp : Passing (.ended write.sequence) := ⟨rfl, rfl, by rintro ⟨⟩⟩
      refine h.pass hp ⟨⟨write.data, hf.2⟩, ha _ write hpm rfl⟩ fun moved hmv => ?_
      cases hmv
      exact ⟨journal, hm, hf.1.pass hp, by simp⟩
    · exact h
  | commit oc =>
    simp only [StdinDelivery.pumpStep]
    split
    · exact h.journalCall hm fun result hc => hf.1.commit hf.2 hc
    · exact h
  | prepareClose oc =>
    simp only [StdinDelivery.pumpStep]
    split
    · exact h.journalCall hm fun result hc => hf.1.prepareClose hc
    · exact h
  | submitClose =>
    simp only [StdinDelivery.pumpStep]
    split
    · have hcs : Closing delivery.trace journal := hf
      have hp : Passing .closeSubmitted := ⟨rfl, rfl, by rintro ⟨⟩⟩
      refine h.pass hp hcs.prepared fun moved hmv => ?_
      cases hmv
      exact ⟨journal, hm, hcs.pass hp, by simp⟩
    · exact h
  | answerClose =>
    simp only [StdinDelivery.pumpStep]
    split
    · have hp : Passing .closeEnded := ⟨rfl, rfl, by rintro ⟨⟩⟩
      refine h.pass hp ⟨hf.2, ha⟩ fun moved hmv => ?_
      cases hmv
      exact ⟨journal, hm, hf.1.pass hp, by simp⟩
    · exact h
  | commitClose oc =>
    simp only [StdinDelivery.pumpStep]
    split
    · exact h.journalCall hm fun result hc => hf.1.commitClose hf.2 hc
    · exact h
  | stop => exact h.stop
  | apply operation data => exact h
  | applyClose => exact h
  | exit => exact h
  | other journal written kept => exact h
  | crash => exact h
  | restart journal oc => exact h

theorem restart (hs : journal.SameStdin delivery.file) :
    (delivery.step (.restart journal oc)).Tracks := by
  have hj := h.file.congr hs
  simp only [StdinDelivery.step]
  split
  · exact h
  · cases oc with
    | stored =>
      have hf := hj.found h.legal
      refine ⟨hf.legal, hf.journaled, fun other ht => ?_,
        fun pump hp => ⟨journal, rfl, hf.spawned pump hp⟩⟩
      cases ht
      exact hf.journaled
    | failed written kept =>
      refine ⟨h.legal, ?_, h.memory, h.pump⟩
      cases written
      · exact h.file
      · exact hj

theorem other {written kept : Bool}
    (hs : ∀ current, delivery.memory = some current → journal.SameStdin current) :
    (delivery.step (.other journal written kept)).Tracks := by
  simp only [StdinDelivery.step]
  split
  · rename_i current hm
    have hj := (h.memory current hm).congr (hs current hm)
    refine ⟨h.legal, ?_, fun found hf => ?_, fun pump hp => ⟨_, rfl, ?_⟩⟩
    · cases written
      · exact h.file
      · exact hj
    · cases hf
      cases kept
      · exact h.memory current hm
      · exact hj
    · obtain ⟨remembered, hr, hfl⟩ := h.pump pump hp
      rw [hm] at hr
      cases hr
      cases kept
      · exact hfl
      · exact hfl.congr (hs current hm)
  · exact h

theorem pumps (action : StdinAction) (ha : action.Admitted delivery) : (match delivery.pump with
      | some pump => delivery.pumpStep pump action
      | none => delivery).Tracks := by
  split
  · exact h.pumpStep ‹_› ha
  · exact h

/-- **One action.** -/
theorem step (ha : action.Admitted delivery) : (delivery.step action).Tracks := by
  cases action with
  | apply operation data =>
    exact h.outside ⟨rfl, rfl, by rintro ⟨⟩⟩ ha
  | applyClose => exact h.outside ⟨rfl, rfl, by rintro ⟨⟩⟩ ha
  | exit => exact h.outside ⟨rfl, rfl, by rintro ⟨⟩⟩ trivial
  | other journal written kept => exact h.other ha
  | crash =>
    exact ⟨h.legal, h.file, (by rintro _ ⟨⟩), (by rintro _ ⟨⟩)⟩
  | restart journal oc => exact h.restart ha
  | activate => exact h.pumps .activate ha
  | read data => exact h.pumps (.read data) ha
  | finish => exact h.pumps .finish ha
  | prepare oc => exact h.pumps (.prepare oc) ha
  | submit => exact h.pumps .submit ha
  | answer => exact h.pumps .answer ha
  | commit oc => exact h.pumps (.commit oc) ha
  | prepareClose oc => exact h.pumps (.prepareClose oc) ha
  | submitClose => exact h.pumps .submitClose ha
  | answerClose => exact h.pumps .answerClose ha
  | commitClose oc => exact h.pumps (.commitClose oc) ha
  | stop => exact h.pumps .stop ha

end

theorem new (stdin stdout stderr : String) (terminal : Bool) :
    (StdinDelivery.new (.new stdin stdout stderr terminal)).Tracks := by
  have hd : Idle [] (ProcessJournal.new stdin stdout stderr terminal) :=
    ⟨rfl, rfl, rfl, rfl, (by rintro ⟨⟩)⟩
  have hc : CatchesUp [] (ProcessJournal.new stdin stdout stderr terminal) [] :=
    Idle.catchesUp .nil hd
  refine ⟨.nil, hd.journaled, fun journal hj => ?_, fun pump hp => ⟨_, rfl, hc.spawned pump hp⟩⟩
  cases hj
  exact hd.journaled

end StdinDelivery.Tracks

theorem StdinDelivery.Runs.tracks
    (h : StdinDelivery.Runs (.new (.new stdin stdout stderr terminal)) delivery) :
    delivery.Tracks :=
  h.invariant (.new stdin stdout stderr terminal) fun _ _ ht ha => ht.step ha

/-! ## Delivery -/

/-- A prepared chunk stays in the file until its submission has ended. -/
theorem StdinJournaled.retains (hlg : Legal stdinOperation trace)
    (h : StdinJournaled trace journal) (hpr : .prepared sequence data ∈ trace) :
    .ended sequence ∈ trace ∨ journal.pendingStdinWrite = some ⟨sequence, data⟩ := by
  have ho := hlg.ordered
  obtain ⟨position, hp⟩ := List.getElem?_of_mem (mem_preparedIn.mpr hpr)
  have hn := ho.sequence_of_getElem? hp
  have hl := (List.getElem?_eq_some_iff.mp hp).1
  by_cases hc : sequence ≤ (committedIn trace).length
  · exact .inl (hlg.ended_of_le_committed (by omega) hc)
  · -- it is the last chunk, and not committed
    cases h with
    | settled _ _ committed _ _ _ =>
      rcases committed with ha | ⟨-, hen⟩
      · omega
      · have hls : sequence = (preparedIn trace).length := by
          have := ho.prepared_le
          omega
        rw [hls]
        exact .inl hen
    | pending write busy =>
      have hls : sequence = write.sequence := by
        have := ho.prepared_le
        have := busy.number
        omega
      subst hls
      refine .inr (busy.pending.trans ?_)
      rw [ho.payload_unique hpr busy.prepared]
    | unprepared _ _ committed _ _ _ => omega

/-- **Delivery.** In every run, whatever was lost on the way:
    - what is submitted is a prepared chunk under the operation id of its sequence, sequences count
      from one, and no sequence has two payloads;
    - a chunk is committed after its submission has ended, and stays in the metadata file until then;
    - the close is prepared after every chunk is committed, and no chunk after it;
    - a runtime that applies each operation id once has applied a first part of the prepared chunks, in
      their order, with every committed one unless the process is gone, and all of them before it
      closes the stream. -/
theorem stdin_delivered_once {stdin stdout stderr : String} {terminal : Bool}
    {delivery : StdinDelivery}
    (hruns : StdinDelivery.Runs (.new (.new stdin stdout stderr terminal)) delivery) :
    (∀ operation data, .submitted operation data ∈ delivery.trace →
      ∃ sequence, operation = stdinOperation sequence ∧ .prepared sequence data ∈ delivery.trace) ∧
    (∀ sequence first second, .prepared sequence first ∈ delivery.trace →
      .prepared sequence second ∈ delivery.trace → first = second) ∧
    (preparedIn delivery.trace).map Prod.fst = List.range' 1 (preparedIn delivery.trace).length ∧
    (∀ before after sequence, delivery.trace = before ++ .committed sequence :: after →
      .ended sequence ∈ before ∧ ∃ data, .submitted (stdinOperation sequence) data ∈ before) ∧
    (∀ sequence data, .prepared sequence data ∈ delivery.trace → .ended sequence ∈ delivery.trace ∨
      delivery.file.pendingStdinWrite = some ⟨sequence, data⟩) ∧
    (∀ before after, delivery.trace = before ++ .closePrepared :: after →
      committedIn before = (preparedIn before).map Prod.fst ∧ preparedIn after = []) ∧
    (∃ count ≤ (preparedIn delivery.trace).length, appliedIn delivery.trace =
        operations stdinOperation ((preparedIn delivery.trace).take count) ∧
      (.gone ∉ delivery.trace → (committedIn delivery.trace).length ≤ count)) ∧
    (∀ before after, delivery.trace = before ++ .closed :: after →
      appliedIn before = operations stdinOperation (preparedIn delivery.trace) ∧
        appliedIn after = []) := by
  obtain ⟨hlg, hfl, -, -⟩ := hruns.tracks
  refine ⟨fun operation data hm => hlg.submitted_prepared hm,
    fun sequence first second hf hs => hlg.ordered.payload_unique hf hs,
    hlg.ordered.sequences, fun before after sequence ht => ?_,
    fun sequence data hm => hfl.retains hlg hm, fun before after ht => ?_,
    hlg.applied_eq stdinOperation_injective, fun before after ht => ?_⟩
  · rw [ht] at hlg
    obtain ⟨-, hen, -⟩ := hlg.allowed
    exact ⟨hen, hlg.of_append.ended_submitted hen⟩
  · rw [ht] at hlg
    refine ⟨?_, ?_⟩
    · have ho := hlg.of_append.ordered
      rw [ho.commits, ho.sequences, hlg.allowed]
    · rw [List.append_cons] at hlg
      exact hlg.prepared_after_close (by simp)
  · rw [ht] at hlg ⊢
    exact hlg.delivered_before_close stdinOperation_injective

namespace Sample

def terminalShell : ProcessJournal := .new "/run/stdin" "/run/stdout" "" true

/-- The shim is replaced while the first write is on its way. -/
def interrupted : List StdinAction :=
  [.activate, .read [104], .prepare .stored, .submit, .crash, .apply "write-stdin-1" [104],
    .restart { terminalShell with pendingStdinWrite := some ⟨1, [104]⟩ } .stored]

/-- The replacement submits the write again, delivers a second one and closes the stream. -/
def resubmitted : List StdinAction :=
  [.activate, .submit, .answer, .commit .stored, .read [105], .prepare .stored, .submit,
    .apply "write-stdin-2" [105], .answer, .commit .stored, .finish, .prepareClose .stored,
    .submitClose, .applyClose, .answerClose, .commitClose .stored]

/-- The typed input after both shims. -/
def typed : StdinDelivery :=
  (interrupted ++ resubmitted).foldl StdinDelivery.step (.new terminalShell)

theorem apply_admitted {delivery : StdinDelivery} {operation : String} {data : List UInt8}
    (hsb : .submitted operation data ∈ delivery.trace)
    (hap : operation ∉ (appliedIn delivery.trace).map Prod.fst) (hg : .gone ∉ delivery.trace) :
    (StdinAction.apply operation data).Admitted delivery :=
  ⟨hsb, fun _ hm => hap (List.mem_map_of_mem (f := Prod.fst) (mem_appliedIn.mpr hm)), hg⟩

theorem interrupted_runs : StdinDelivery.Runs (.new terminalShell)
    (interrupted.foldl StdinDelivery.step (.new terminalShell)) := by
  have hst : StdinDelivery.Runs (.new terminalShell) (.new terminalShell) := .init
  have hs := (((hst.step .activate trivial).step (.read [104]) trivial).step
    (.prepare .stored) trivial).step .submit trivial
  have ha := (hs.step .crash trivial).step (.apply "write-stdin-1" [104])
    (apply_admitted (by decide +kernel) (by decide +kernel) (by decide +kernel))
  exact ha.step (.restart _ .stored) ⟨rfl, rfl, rfl, rfl⟩

theorem typed_runs : StdinDelivery.Runs (.new terminalShell) typed := by
  have hs := (interrupted_runs.step .activate trivial).step .submit trivial
  have hf := (hs.step .answer (by
    rintro pump write ⟨⟩ ⟨⟩
    exact .inl ⟨[104], by decide +kernel⟩)).step (.commit .stored) trivial
  have hn := ((hf.step (.read [105]) trivial).step (.prepare .stored) trivial).step .submit trivial
  have ha := hn.step (.apply "write-stdin-2" [105])
    (apply_admitted (by decide +kernel) (by decide +kernel) (by decide +kernel))
  have hc := (ha.step .answer (by
    rintro pump write ⟨⟩ ⟨⟩
    exact .inl ⟨[105], by decide +kernel⟩)).step (.commit .stored) trivial
  have hcs := ((hc.step .finish trivial).step (.prepareClose .stored) trivial).step
    .submitClose trivial
  have hcl := hcs.step .applyClose ⟨by decide +kernel, by decide +kernel, by decide +kernel⟩
  exact (hcl.step .answerClose (.inl (by decide +kernel))).step (.commitClose .stored) trivial

end Sample

/-- The first write is submitted by both shims and applied once, before the close. -/
theorem stdin_delivered_once_replayed :
    Sample.typed.trace.count (.submitted "write-stdin-1" [104]) = 2 ∧
    committedIn Sample.typed.trace = [1, 2] ∧
    (∃ count ≤ 2, appliedIn Sample.typed.trace =
        operations stdinOperation ([(1, [104]), (2, [105])].take count) ∧
      (.gone ∉ Sample.typed.trace → 2 ≤ count)) ∧
    ∀ before after, Sample.typed.trace = before ++ .closed :: after →
      appliedIn before = operations stdinOperation [(1, [104]), (2, [105])] ∧
        appliedIn after = [] :=
  ⟨by decide +kernel, rfl, (stdin_delivered_once Sample.typed_runs).2.2.2.2.2.2⟩

end OciRuntime
