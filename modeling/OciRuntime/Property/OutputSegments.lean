import OciRuntime.Shim.OutputPump

/-!
# `OciRuntime.Property.OutputSegments` — what the FIFOs of a process hold

Each pump goes over the output from its start cursor up to where it got, in order and without a gap,
and the next one starts at the cursor that was committed last. So the FIFOs hold one segment of the
output for each shim, and only bytes after a committed cursor are written twice.

## Contents
- **The pump.** `OutputPump.Holds`, `OutputPump.Taken`, `PumpStep.moves`.
- **Delivery.** `OutputDelivery.Exact`, `OutputDelivery.Runs.exact`, `OutputDelivery.step_starts`.
-/

namespace OciRuntime

open Durable

variable {endpoints : OutputEndpoints} {log : List OutputEntry} {pump next : OutputPump}
  {effect : PumpEffect} {chunk : OutputChunk} {rest : List OutputChunk} {delivery : OutputDelivery}

/-! ## The pump -/

theorem OutputStream.bytes_append (stream : OutputStream) (first second : List OutputEntry) :
    stream.bytes (first ++ second) = stream.bytes first ++ stream.bytes second :=
  List.filterMap_append

theorem OutputChunk.length_entries : chunk.entries.length = chunk.width := by
  rw [OutputChunk.entries, length_outputEntries, OutputChunk.width]

theorem OutputChunk.width_pos (h : chunk.WellFormed) : 0 < chunk.width := by
  unfold OutputChunk.width
  split
  · exact Nat.zero_lt_one
  · rename_i hef
    exact List.length_pos_of_ne_nil fun hd => hef (h.mpr hd)

/-- The cursor up to which the pump has gone, committed or not. -/
def OutputPump.reached (pump : OutputPump) : Nat :=
  match pump.phase with
  | .committing next _ _ _ => next
  | _ => pump.cursor

/-- The output that the pump has in its hands. -/
def PumpPhase.held : PumpPhase → List OutputEntry
  | .chunks rest => rest.flatMap (·.entries)
  | .writing stream bytes rest | .committing _ stream bytes rest =>
    bytes.map (.byte stream) ++ rest.flatMap (·.entries)
  | _ => []

/-- The chunks in the pump's hands follow its position. -/
def PumpPhase.Follows (cursor : Nat) : PumpPhase → Prop
  | .chunks rest => Contiguous cursor rest
  | .writing _ bytes rest => bytes ≠ [] ∧ Contiguous (cursor + bytes.length) rest
  | .committing next _ bytes rest => cursor < next ∧ Contiguous (next + bytes.length) rest
  | _ => True

/-- What the pump holds is the output that comes next. -/
structure OutputPump.Holds (log : List OutputEntry) (pump : OutputPump) : Prop where
  next : pump.phase.held <+: log.drop pump.reached
  follows : pump.phase.Follows pump.cursor

theorem OutputPump.Holds.append (h : pump.Holds log) (more : List OutputEntry) :
    pump.Holds (log ++ more) := by
  refine ⟨h.next.trans ?_, h.follows⟩
  rw [List.drop_append]
  exact List.prefix_append _ _

theorem OutputPump.loop_holds (log : List OutputEntry) (pump : OutputPump) :
    pump.loop.Holds log ∧ pump.loop.reached = pump.cursor := by
  unfold OutputPump.loop
  split
  · exact ⟨⟨List.nil_prefix, trivial⟩, rfl⟩
  · exact ⟨⟨List.nil_prefix, trivial⟩, rfl⟩

/-- What `take` makes of a chunk that follows the pump's cursor. -/
inductive OutputPump.Taken (endpoints : OutputEndpoints) (pump : OutputPump) (chunk : OutputChunk)
    (rest : List OutputChunk) : Prop
  | failed (error : Error)
      (taken : pump.take endpoints chunk rest = { pump with phase := .failed error })
      (reason : pump.done chunk.stream = true ∨ endpoints.terminal = true ∧ chunk.stream = .stderr ∨
        endpoints.fifo chunk.stream = false ∧ ¬(endpoints.terminal = true ∧ chunk.stream = .stdout))
  | data (taken : pump.take endpoints chunk rest =
        { pump with phase := .writing chunk.stream chunk.data rest })
      (eof : chunk.eof = false) (nonempty : chunk.data ≠ [])
  | skipped (taken : pump.take endpoints chunk rest =
        { pump with phase := .committing (pump.cursor + chunk.width) chunk.stream [] rest })
      (eof : chunk.eof = false) (fifo : endpoints.fifo chunk.stream = false)
  | ended (taken : pump.take endpoints chunk rest = { pump.finishStream chunk.stream with
        phase := .committing (pump.cursor + chunk.width) chunk.stream [] rest })
      (eof : chunk.eof = true)

theorem validateOutputChunk_eq_ok (h : Contiguous cursor (chunk :: rest)) :
    validateOutputChunk chunk cursor = .ok (cursor + chunk.width) := by
  obtain ⟨hf, hs, hb, -⟩ := h
  obtain ⟨he, hef⟩ := OutputChunk.wellFormed_iff.mp hf
  rw [hs] at hb
  simp only [validateOutputChunk, unit_bind_eq_ok, rejectIf_eq_ok, and_true]
  exact ⟨he, hef, not_lt.mpr hb, not_not.mpr hs⟩

/-- A stream that is refused was done, or is the separate stderr of a terminal. -/
theorem validateOutputStreamState_eq_error
    (h : validateOutputStreamState chunk terminal pump.stdoutDone pump.stderrDone = .error error) :
    pump.done chunk.stream = true ∨ terminal = true ∧ chunk.stream = .stderr := by
  unfold validateOutputStreamState at h
  cases hs : chunk.stream with
  | stdout =>
    rw [hs] at h
    exact .inl (rejectIf_eq_error.mp h).1
  | stderr =>
    rw [hs] at h
    rcases bind_eq_error.mp h with h | ⟨-, -, h⟩
    · exact .inr ⟨(rejectIf_eq_error.mp h).1, rfl⟩
    · exact .inl (rejectIf_eq_error.mp h).1

theorem OutputPump.take_taken (endpoints : OutputEndpoints)
    (h : Contiguous pump.cursor (chunk :: rest)) : pump.Taken endpoints chunk rest := by
  have hc := validateOutputChunk_eq_ok h
  cases hs : validateOutputStreamState chunk endpoints.terminal pump.stdoutDone pump.stderrDone with
  | error error =>
    refine .failed error ?_ ((validateOutputStreamState_eq_error hs).imp id .inl)
    simp only [OutputPump.take, bind_of_ok hc, hs]
    rfl
  | ok verdict =>
    have ht : pump.take endpoints chunk rest =
        if chunk.data ≠ [] then
          if endpoints.fifo chunk.stream then
            { pump with phase := .writing chunk.stream chunk.data rest }
          else if endpoints.terminal ∧ chunk.stream = .stdout then
            { pump with phase := .committing (pump.cursor + chunk.width) chunk.stream [] rest }
          else { pump with phase := .failed (missingFifo chunk.stream) }
        else
          { (if chunk.eof then pump.finishStream chunk.stream else pump) with
            phase := .committing (pump.cursor + chunk.width) chunk.stream [] rest } := by
      simp only [OutputPump.take, bind_of_ok hc, hs]
      rfl
    by_cases hd : chunk.data = []
    · have hef := h.1.mpr hd
      refine .ended ?_ hef
      rw [ht, if_neg (not_not.mpr hd), if_pos hef]
    · have hef : chunk.eof = false := by
        rw [← Bool.not_eq_true]
        exact fun hef => hd (h.1.mp hef)
      rw [if_pos hd] at ht
      by_cases hf : endpoints.fifo chunk.stream = true
      · rw [if_pos hf] at ht
        exact .data ht hef hd
      · rw [if_neg hf] at ht
        rw [Bool.not_eq_true] at hf
        by_cases htr : endpoints.terminal ∧ chunk.stream = .stdout
        · rw [if_pos htr] at ht
          exact .skipped ht hef hf
        · rw [if_neg htr] at ht
          exact .failed _ ht (.inr (.inr ⟨hf, htr⟩))

/-- What every step of a pump does. -/
structure PumpMoves (endpoints : OutputEndpoints) (log : List OutputEntry) (pump : OutputPump)
    (effect : PumpEffect) (next : OutputPump) : Prop where
  holds : next.Holds log
  passed : effect.passed <+: log.drop pump.reached
  reached : next.reached = pump.reached + effect.passed.length
  written : ∀ stream, endpoints.fifo stream = true →
    stream.bytes effect.written = stream.bytes effect.passed
  cursor : next.cursor = effect.committed.getD pump.cursor
  committed : ∀ cursor, effect.committed = some cursor → pump.cursor < cursor ∧ cursor = pump.reached

/-- A step that passes over nothing and commits nothing. -/
theorem PumpMoves.stay (hh : next.Holds log) (hr : next.reached = pump.reached)
    (hc : next.cursor = pump.cursor) : PumpMoves endpoints log pump {} next :=
  ⟨hh, List.nil_prefix, hr, fun _ _ => rfl, hc, (by rintro _ ⟨⟩)⟩

/-- The rest of what the pump holds, after it has passed over the first part. -/
theorem prefix_drop_append (h : first ++ second <+: log.drop cursor) :
    second <+: log.drop (cursor + first.length) := by
  obtain ⟨tail, ht⟩ := h
  refine ⟨tail, ?_⟩
  rw [← List.drop_drop, ← ht]
  simp

/-- A chunk whose data no FIFO takes is passed over at once. -/
theorem PumpMoves.pass (h : pump.Holds log) (hp : pump.phase = .chunks (chunk :: rest))
    (hr : pump.reached = pump.cursor) (hc : next.cursor = pump.cursor)
    (hn : next.phase = .committing (pump.cursor + chunk.width) chunk.stream [] rest)
    (hb : ∀ stream, endpoints.fifo stream = true → stream.bytes chunk.entries = []) :
    PumpMoves endpoints log pump { passed := chunk.entries } next := by
  have hh := h.next
  have hf := h.follows
  rw [hp, hr] at hh
  rw [hp] at hf
  have hl : next.reached = pump.cursor + chunk.entries.length := by
    rw [OutputPump.reached, hn, OutputChunk.length_entries]
  refine ⟨⟨?_, ?_⟩, hr ▸ (List.prefix_append _ _).trans hh, hr ▸ hl,
    fun stream hff => (hb stream hff).symm, hc, (by rintro _ ⟨⟩)⟩
  · rw [hn, hl]
    exact prefix_drop_append hh
  · rw [hn, hc]
    have hw := OutputChunk.width_pos hf.1
    exact ⟨by omega, hf.2.1 ▸ hf.2.2.2⟩

theorem PumpStep.moves (h : PumpStep endpoints log pump effect next) (hhs : pump.Holds log) :
    PumpMoves endpoints log pump effect next := by
  have hh := hhs.next
  have hf := hhs.follows
  cases h with
  | read chunks hp hc ha hns =>
    have hr : pump.reached = pump.cursor := by rw [OutputPump.reached, hp]
    exact .stay ⟨ha, hc⟩ hr.symm rfl
  | loop hp =>
    have hr : pump.reached = pump.cursor := by rw [OutputPump.reached, hp]
    have hlp := pump.loop_holds log
    exact .stay hlp.1 (hlp.2.trans hr.symm) rfl
  | take chunk rest hp =>
    have hr : pump.reached = pump.cursor := by rw [OutputPump.reached, hp]
    have hc : Contiguous pump.cursor (chunk :: rest) := by
      rw [hp] at hf
      exact hf
    cases OutputPump.take_taken endpoints hc with
    | failed error ht hrn =>
      rw [ht]
      exact .stay ⟨List.nil_prefix, trivial⟩ hr.symm rfl
    | data ht hef hd =>
      rw [ht]
      rw [hp, hr] at hh
      have hn : chunk.entries = chunk.data.map (.byte chunk.stream) := by
        rw [OutputChunk.entries, hef]
        rfl
      have hw : chunk.width = chunk.data.length := by
        rw [OutputChunk.width, hef]
        rfl
      refine .stay ⟨?_, hd, ?_⟩ hr.symm rfl
      · rw [PumpPhase.held, List.flatMap_cons, hn] at hh
        exact hh
      · rw [← hw, ← hc.2.1]
        exact hc.2.2.2
    | skipped ht hef hff =>
      rw [ht]
      refine .pass hhs hp hr rfl rfl fun stream hs => ?_
      have hth : chunk.stream ≠ stream := by
        rintro rfl
        rw [hff] at hs
        cases hs
      simp [OutputChunk.entries, hef, OutputStream.bytes, List.filterMap_map, hth]
    | ended ht hef =>
      rw [ht]
      refine .pass hhs hp hr ?_ rfl fun stream hs => ?_
      · cases chunk.stream <;> rfl
      · rw [OutputChunk.entries, hef]
        rfl
  | write stream bytes rest count hp hpv ham =>
    have hr : pump.reached = pump.cursor := by rw [OutputPump.reached, hp]
    rw [hp, hr] at hh
    rw [hp] at hf
    have hl : ((bytes.take count).map (OutputEntry.byte stream)).length = count := by
      rw [List.length_map, List.length_take, Nat.min_eq_left ham]
    have hsp : (bytes.take count).map (OutputEntry.byte stream) ++
        ((bytes.drop count).map (OutputEntry.byte stream) ++ rest.flatMap (·.entries)) <+:
        log.drop pump.cursor := by
      rw [← List.append_assoc, ← List.map_append, List.take_append_drop]
      exact hh
    have hrs := prefix_drop_append hsp
    rw [hl] at hrs
    refine ⟨⟨hrs, Nat.lt_add_of_pos_right hpv, ?_⟩, hr ▸ (List.prefix_append _ _).trans hsp, ?_,
      fun _ _ => rfl, rfl, (by rintro _ ⟨⟩)⟩
    · rw [List.length_drop, show pump.cursor + count + (bytes.length - count) =
        pump.cursor + bytes.length by omega]
      exact hf.2
    · rw [hl, hr]
      rfl
  | commit cursor stream bytes rest hp =>
    have hr : pump.reached = cursor := by rw [OutputPump.reached, hp]
    rw [hp, hr] at hh
    rw [hp] at hf
    by_cases hb : bytes = []
    · subst hb
      exact ⟨⟨hh, hf.2⟩, List.nil_prefix, hr.symm, fun _ _ => rfl, rfl,
        fun _ hsm => Option.some.inj hsm ▸ ⟨hf.1, hr.symm⟩⟩
    · rw [if_neg hb]
      exact ⟨⟨hh, hb, hf.2⟩, List.nil_prefix, hr.symm, fun _ _ => rfl, rfl,
        fun _ hsm => Option.some.inj hsm ▸ ⟨hf.1, hr.symm⟩⟩

/-! ## Delivery -/

/-- The FIFOs hold what the pumps went over, and each pump went over a part of the output that starts
    at a cursor which the one before it had committed. -/
structure OutputDelivery.Exact (endpoints : OutputEndpoints) (delivery : OutputDelivery) : Prop where
  stopped : delivery.running = false → delivery.pump = none
  segments : ∀ lifetime ∈ delivery.lifetimes,
    lifetime.passed <+: delivery.log.drop lifetime.start ∧ lifetime.reached ≤ delivery.log.length
  resumed : delivery.lifetimes.IsChain fun later earlier =>
    earlier.start ≤ later.start ∧ later.start ≤ earlier.reached
  current : ∃ lifetime rest, delivery.lifetimes = lifetime :: rest ∧
    lifetime.start ≤ delivery.journal.outputCursor ∧
    delivery.journal.outputCursor ≤ lifetime.reached ∧
    ∀ pump, delivery.pump = some pump → pump.Holds delivery.log ∧
      pump.cursor = delivery.journal.outputCursor ∧ pump.reached = lifetime.reached
  content : ∀ stream, endpoints.fifo stream = true → stream.bytes delivery.written =
    delivery.lifetimes.reverse.flatMap fun lifetime => stream.bytes lifetime.passed

theorem ProcessJournal.restored_outputCursor (j : ProcessJournal)
    (learned : Option (ExitStatus × Nat)) :
    (j.restored learned).outputCursor = j.outputCursor := by
  unfold ProcessJournal.restored
  split <;> rfl

theorem ProcessJournal.committed_outputCursor {j : ProcessJournal}
    (h : ∀ pos, cursor = some pos → j.outputCursor < pos) :
    (j.committed cursor).outputCursor = cursor.getD j.outputCursor := by
  cases cursor with
  | none => rfl
  | some pos =>
    have hl := h pos rfl
    simp only [ProcessJournal.committed, ProcessJournal.commitOutput, if_neg (not_le.mpr hl)]
    rfl

/-- A pump that was just started. -/
theorem OutputPump.spawn_holds (log : List OutputEntry) {cursor : Nat}
    (h : OutputPump.spawn endpoints cursor = some pump) :
    pump.Holds log ∧ pump.cursor = cursor ∧ pump.reached = cursor := by
  rw [OutputPump.eq_start h]
  exact ⟨(OutputPump.loop_holds log _).1, rfl, (OutputPump.loop_holds log _).2⟩

namespace OutputDelivery.Exact

section
variable (h : delivery.Exact endpoints)
include h

/-- A change of the journal that leaves the cursor alone. -/
theorem withJournal {journal : ProcessJournal} {running : Bool}
    (hcr : journal.outputCursor = delivery.journal.outputCursor)
    (hs : running = false → delivery.pump = none) :
    { delivery with journal, running }.Exact endpoints := by
  refine ⟨hs, h.segments, h.resumed, ?_, h.content⟩
  obtain ⟨lifetime, rest, hc⟩ := h.current
  exact ⟨lifetime, rest, by simpa only [hcr] using hc⟩

theorem produce (e : OutputEntry) :
    { delivery with log := delivery.log ++ [e] }.Exact endpoints := by
  refine ⟨h.stopped, fun lifetime hl => ?_, h.resumed, ?_, h.content⟩
  · obtain ⟨hp, hr⟩ := h.segments lifetime hl
    refine ⟨hp.trans ?_, ?_⟩
    · rw [List.drop_append]
      exact List.prefix_append _ _
    · rw [List.length_append]
      omega
  · obtain ⟨lifetime, rest, hlf, hs, hc, hps⟩ := h.current
    exact ⟨lifetime, rest, hlf, hs, hc,
      fun pump hpm => ⟨(hps pump hpm).1.append _, (hps pump hpm).2⟩⟩

theorem pumpStep (hpm : delivery.pump = some pump)
    (hsp : PumpStep endpoints delivery.log pump effect next) :
    { delivery with
      journal := delivery.journal.committed effect.committed
      pump := some next
      written := delivery.written ++ effect.written
      lifetimes := pass effect.passed delivery.lifetimes }.Exact endpoints := by
  obtain ⟨lifetime, rest, hlf, hst, hcm, hps⟩ := h.current
  obtain ⟨hh, hcr, hr⟩ := hps pump hpm
  have hm := hsp.moves hh
  obtain ⟨hp, hb⟩ := h.segments lifetime (by simp [hlf])
  have hj : (delivery.journal.committed effect.committed).outputCursor =
      effect.committed.getD pump.cursor := by
    rw [hcr]
    refine ProcessJournal.committed_outputCursor fun pos hpo => ?_
    rw [← hcr]
    exact (hm.committed pos hpo).1
  -- what the lifetime went over, with what the pump goes over now
  have hx : lifetime.passed ++ effect.passed <+: delivery.log.drop lifetime.start := by
    obtain ⟨tail, ht⟩ := hp
    have hn := hm.passed
    rw [hr, Lifetime.reached, ← List.drop_drop, ← ht, List.drop_left] at hn
    rw [← ht]
    exact List.prefix_append_right_inj _ |>.mpr hn
  have hl : lifetime.reached + effect.passed.length ≤ delivery.log.length := by
    have hle := hm.passed.length_le
    rw [hr, List.length_drop] at hle
    omega
  rw [hlf]
  refine ⟨fun hs => ?_, fun other hth => ?_, ?_, ⟨_, rest, rfl, ?_, ?_, fun moved hmv => ?_⟩,
    fun stream hf => ?_⟩
  · rw [h.stopped hs] at hpm
    cases hpm
  · rcases List.mem_cons.mp hth with rfl | hold
    · refine ⟨hx, ?_⟩
      rw [Lifetime.reached, List.length_append, ← Nat.add_assoc]
      exact hl
    · exact h.segments other (by simp [hlf, hold])
  · have hrs := h.resumed
    rw [hlf] at hrs
    cases rest with
    | nil => exact .singleton _
    | cons earlier rest => exact .cons_cons hrs.rel hrs.tail
  · have hle : pump.cursor ≤ effect.committed.getD pump.cursor := by
      cases hcs : effect.committed with
      | none => exact le_rfl
      | some pos => exact (hm.committed pos hcs).1.le
    rw [hj]
    exact hst.trans (hcr ▸ hle)
  · rw [hj, Lifetime.reached, List.length_append, ← Nat.add_assoc]
    refine le_trans ?_ (Nat.le_add_right lifetime.reached _)
    cases hcs : effect.committed with
    | none => exact hcr ▸ hcm
    | some pos => exact ((hm.committed pos hcs).2.trans hr).le
  · cases hmv
    refine ⟨hm.holds, hm.cursor.trans hj.symm, ?_⟩
    rw [hm.reached, hr, Lifetime.reached, Lifetime.reached, List.length_append, Nat.add_assoc]
  · have hc := h.content stream hf
    rw [hlf, List.reverse_cons, List.flatMap_append, List.flatMap_singleton] at hc
    rw [OutputStream.bytes_append, hm.written stream hf, hc, pass, List.reverse_cons,
      List.flatMap_append, List.flatMap_singleton, OutputStream.bytes_append, List.append_assoc]

theorem restart (learned : Option (ExitStatus × Nat)) :
    (delivery.restart endpoints learned).Exact endpoints := by
  have hc := delivery.journal.restored_outputCursor learned
  obtain ⟨lifetime, rest, hl, hst, hcm, -⟩ := h.current
  have hb := (h.segments lifetime (by simp [hl])).2
  unfold OutputDelivery.restart
  dsimp only
  split
  · exact h.withJournal hc (by rintro ⟨⟩)
  · refine ⟨(by rintro ⟨⟩), fun other ht => ?_, ?_,
      ⟨_, _, rfl, le_rfl, le_rfl, fun started hs => OutputPump.spawn_holds _ hs⟩,
      fun stream hf => ?_⟩
    · rcases List.mem_cons.mp ht with rfl | hold
      · refine ⟨List.nil_prefix, ?_⟩
        show (delivery.journal.restored learned).outputCursor + 0 ≤ delivery.log.length
        omega
      · exact h.segments other hold
    · -- the new pump starts at the committed cursor of the last one
      have hr := h.resumed
      rw [hl] at hr ⊢
      refine .cons_cons ⟨?_, ?_⟩ hr
      · exact hc ▸ hst
      · exact hc ▸ hcm
    · rw [List.reverse_cons, List.flatMap_append, List.flatMap_singleton]
      exact (h.content stream hf).trans (List.append_nil _).symm

/-- **One action.** -/
theorem step (hsp : delivery.Step endpoints action later) : later.Exact endpoints := by
  cases hsp with
  | produce e => exact h.produce e
  | pump hp hsp => exact h.pumpStep hp hsp
  | exit hrn hr =>
    refine h.withJournal ?_ h.stopped
    simp only [TaskState.recordExitOf, unit_bind_eq_ok] at hr
    rw [← Except.ok.inj hr.2]
  | crash =>
    obtain ⟨lifetime, rest, hl, hst, hc, -⟩ := h.current
    exact ⟨fun _ => rfl, h.segments, h.resumed,
      ⟨lifetime, rest, hl, hst, hc, (by rintro _ ⟨⟩)⟩, h.content⟩
  | restart learned hs => exact h.restart learned

end

/-- A process that was just created. -/
theorem new (stdin stdout stderr : String) (terminal : Bool) :
    (OutputDelivery.new (.new stdin stdout stderr terminal)).Exact endpoints := by
  refine ⟨(by rintro ⟨⟩), fun lifetime hl => ?_, .singleton _,
    ⟨_, _, rfl, le_rfl, le_rfl, fun pump hp => OutputPump.spawn_holds _ hp⟩, fun _ _ => rfl⟩
  cases List.mem_singleton.mp hl
  exact ⟨List.nil_prefix, le_rfl⟩

end OutputDelivery.Exact

theorem OutputDelivery.Runs.exact {guard : OutputDelivery → DeliveryAction → Prop}
    (h : OutputDelivery.Runs endpoints guard start delivery) (hst : start.Exact endpoints) :
    delivery.Exact endpoints :=
  h.invariant hst fun _ _ _ hx _ hs => hx.step hs

end OciRuntime
