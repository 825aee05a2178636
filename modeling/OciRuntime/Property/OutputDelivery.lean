import OciRuntime.Property.OutputSegments

/-!
# `OciRuntime.Property.OutputDelivery` — the output of a process over all shims that deliver it

The FIFOs never get anything but segments of the output. Whether the last pump comes to its end is
another matter: a pump knows the ends of streams only from its own reads, and no pump is started for
a process whose exit is recorded. A replacement shim brings the delivery to its end if no stream has
ended before the committed cursor and it knows no exit, or if nothing was left to deliver.

## Contents
- **Ends of streams.** `OutputDelivery.Marked`, `DeliveryAction.Resumable`.
- **Draining.** `OutputPump.work`, `OutputDelivery.Drained`, `OutputDelivery.Draining`.
- **Both.** `output_delivered`, `restarted_pump_never_finishes`.
-/

namespace OciRuntime

open Durable

variable {endpoints : OutputEndpoints} {log : List OutputEntry} {pump next : OutputPump}
  {chunk : OutputChunk} {rest : List OutputChunk} {delivery : OutputDelivery}

/-! ## Ends of streams -/

/-- Every stream that the pump waits for has ended. -/
def OutputEndpoints.Complete (endpoints : OutputEndpoints) (log : List OutputEntry) : Prop :=
  ∀ stream, endpoints.awaits stream = true → .finished stream ∈ log

/-- A replacement shim can bring the delivery to its end: it knows no exit and no stream has ended
    before the committed cursor, or it knows the exit and everything was delivered. -/
def DeliveryAction.Resumable (endpoints : OutputEndpoints) (delivery : OutputDelivery) :
    DeliveryAction → Prop
  | .restart learned =>
    if (delivery.journal.restored learned).exit.isSome then
      endpoints.Complete delivery.log ∧ delivery.journal.outputCursor = delivery.log.length
    else ∀ stream, endpoints.awaits stream = true →
      .finished stream ∉ delivery.log.take delivery.journal.outputCursor
  | _ => True

/-- What the runtime has produced: output of the streams that the pump waits for, nothing of a stream
    after its end. -/
structure OutputEndpoints.Produced (endpoints : OutputEndpoints) (log : List OutputEntry) : Prop where
  fits : log.length ≤ u64Max
  captured : ∀ entry ∈ log, endpoints.awaits entry.stream = true
  ends : ∀ stream, EndsLast stream log

/-- Nothing of a stream comes after its end. -/
theorem EndsLast.not_after (h : EndsLast stream log) (hed : .finished stream ∈ log.take pos)
    (hen : entry ∈ log.drop pos) : entry.stream ≠ stream := by
  have hs : EndsLast stream (log.take pos ++ log.drop pos) := by
    rw [List.take_append_drop]
    exact h
  exact (List.pairwise_append.mp hs).2.2 _ hed _ hen rfl

theorem OutputEndpoints.Produced.append (h : endpoints.Produced log) (hr : log.length < u64Max)
    (hc : endpoints.awaits e.stream = true) (hu : .finished e.stream ∉ log) :
    endpoints.Produced (log ++ [e]) := by
  refine ⟨?_, fun other ht => ?_, fun stream => ?_⟩
  · rw [List.length_append]
    exact hr
  · rcases List.mem_append.mp ht with hold | hl
    · exact h.captured other hold
    · rw [List.mem_singleton.mp hl]
      exact hc
  · refine List.pairwise_append.mpr ⟨h.ends stream, List.pairwise_singleton _ _, ?_⟩
    rintro first hf second hs rfl hsm
    rw [List.mem_singleton.mp hs] at hsm
    exact hu (hsm ▸ hf)

/-- The pump has seen the ends that it has passed, and its phase agrees with them. -/
structure OutputPump.Aware (endpoints : OutputEndpoints) (log : List OutputEntry)
    (pump : OutputPump) : Prop where
  flags : ∀ stream, pump.done stream = true ↔
    endpoints.awaits stream = false ∨ .finished stream ∈ log.take pump.reached
  waits : pump.phase = .reading → ∃ stream, pump.done stream = false
  finished : pump.phase = .finished → ∀ stream, pump.done stream = true
  healthy : ∀ error, pump.phase ≠ .failed error

/-- A pump at the head of its loop, with the ends it has seen. -/
theorem OutputPump.aware_loop (hf : ∀ stream, pump.done stream = true ↔
    endpoints.awaits stream = false ∨ .finished stream ∈ log.take pump.cursor) :
    pump.loop.Aware endpoints log := by
  have hr := (pump.loop_holds log).2
  refine ⟨fun stream => ?_, fun hp => ?_, fun hp => ?_, fun error hp => ?_⟩
  · rw [hr]
    cases stream
    · exact hf .stdout
    · exact hf .stderr
  · unfold OutputPump.loop at hp ⊢
    cases ho : pump.stdoutDone with
    | false => exact ⟨.stdout, rfl⟩
    | true =>
      cases herr : pump.stderrDone with
      | false => exact ⟨.stderr, rfl⟩
      | true => simp [ho, herr] at hp
  · unfold OutputPump.loop at hp
    by_cases hd : (pump.stdoutDone && pump.stderrDone) = true
    · rw [Bool.and_eq_true] at hd
      intro stream
      cases stream
      · exact hd.1
      · exact hd.2
    · simp [hd] at hp
  · unfold OutputPump.loop at hp
    by_cases hd : (pump.stdoutDone && pump.stderrDone) = true <;> simp [hd] at hp

/-- A step that has no end in it and leads to a phase in the middle of the loop. -/
theorem OutputPump.Aware.goOn (h : pump.Aware endpoints log)
    (hm : PumpMoves endpoints log pump effect next)
    (hd : ∀ stream, next.done stream = true ↔
      pump.done stream = true ∨ .finished stream ∈ effect.passed)
    (hp : next.phase ≠ .reading ∧ next.phase ≠ .finished ∧ ∀ error, next.phase ≠ .failed error) :
    next.Aware endpoints log := by
  refine ⟨fun stream => ?_, fun hr => absurd hr hp.1, fun hf => absurd hf hp.2.1, hp.2.2⟩
  have hta : log.take (pump.reached + effect.passed.length) =
      log.take pump.reached ++ effect.passed := by
    obtain ⟨tail, ht⟩ := hm.passed
    rw [List.take_add, ← ht, List.take_left]
  rw [hd stream, h.flags stream, hm.reached, hta, List.mem_append, or_assoc]

/-- The chunk that comes next is of a stream that has not ended. -/
theorem OutputPump.Aware.not_failed (h : pump.Aware endpoints log) (hl : endpoints.Produced log)
    (hr : pump.reached = pump.cursor) (hfr : chunk.WellFormed)
    (hnx : chunk.entries <+: log.drop pump.cursor) :
    ¬(pump.done chunk.stream = true ∨ endpoints.terminal = true ∧ chunk.stream = .stderr ∨
      endpoints.fifo chunk.stream = false ∧
        ¬(endpoints.terminal = true ∧ chunk.stream = .stdout)) := by
  -- the chunk has an entry, of its own stream
  have hen : ∃ e ∈ log.drop pump.cursor, e.stream = chunk.stream := by
    cases hef : chunk.eof with
    | true =>
      refine ⟨.finished chunk.stream, hnx.subset ?_, rfl⟩
      simp [OutputChunk.entries, hef]
    | false =>
      have hd : chunk.data ≠ [] := fun hd => by
        rw [hfr.mpr hd] at hef
        cases hef
      obtain ⟨value, rest, hcn⟩ := List.exists_cons_of_ne_nil hd
      refine ⟨.byte chunk.stream value, hnx.subset ?_, rfl⟩
      simp [OutputChunk.entries, hef, hcn]
  obtain ⟨e, hm, hs⟩ := hen
  have ha : endpoints.awaits chunk.stream = true :=
    hs ▸ hl.captured e (List.mem_of_mem_drop hm)
  rintro (hdn | ⟨htr, hst⟩ | ⟨hf, ht⟩)
  · rcases (h.flags chunk.stream).mp hdn with hn | hnd
    · rw [ha] at hn
      cases hn
    · rw [hr] at hnd
      exact (hl.ends chunk.stream).not_after hnd hm hs
  · rw [hst, OutputEndpoints.awaits, htr] at ha
    cases ha
  · cases hc : chunk.stream with
    | stdout =>
      rw [hc] at ha hf ht
      simp only [OutputEndpoints.awaits, OutputEndpoints.fifo] at ha hf
      rw [hf, Bool.or_false] at ha
      exact ht ⟨ha, rfl⟩
    | stderr =>
      rw [hc] at ha hf
      simp only [OutputEndpoints.awaits, OutputEndpoints.fifo] at ha hf
      rw [hf] at ha
      cases ha

theorem PumpStep.aware (h : PumpStep endpoints log pump effect next) (hh : pump.Holds log)
    (hl : endpoints.Produced log) (hw : pump.Aware endpoints log) :
    next.Aware endpoints log := by
  have hm := h.moves hh
  -- nothing ends where nothing is passed
  have hs : (∀ stream, next.done stream = pump.done stream) → effect.passed = [] →
      ∀ stream, next.done stream = true ↔ pump.done stream = true ∨
        .finished stream ∈ effect.passed := by
    intro hd hn stream
    simp [hd, hn]
  cases h with
  | read chunks hph hc ha hns =>
    exact hw.goOn hm (hs (fun stream => by cases stream <;> rfl) rfl) (by simp)
  | loop hph =>
    refine OutputPump.aware_loop fun stream => ?_
    rw [hw.flags stream, OutputPump.reached, hph]
  | take chunk rest hph =>
    have hr : pump.reached = pump.cursor := by rw [OutputPump.reached, hph]
    have hhd := hh.next
    have hc := hh.follows
    rw [hph, hr] at hhd
    rw [hph] at hc
    have hnx : chunk.entries <+: log.drop pump.cursor := (List.prefix_append _ _).trans hhd
    cases OutputPump.take_taken endpoints hc with
    | failed error ht hrs =>
      exact absurd hrs (hw.not_failed hl hr hc.1 hnx)
    | data ht hef hdt =>
      rw [ht] at hm ⊢
      exact hw.goOn hm (fun stream => by cases stream <;> simp [OutputPump.done]) (by simp)
    | skipped ht hef hf =>
      rw [ht] at hm ⊢
      refine hw.goOn hm (fun stream => ?_) (by simp)
      cases stream <;> simp [OutputPump.done, OutputChunk.entries, hef]
    | ended ht hef =>
      rw [ht] at hm ⊢
      refine hw.goOn hm (fun stream => ?_) (by simp)
      cases hcs : chunk.stream <;> cases stream <;>
        simp [OutputPump.done, OutputPump.finishStream, OutputChunk.entries, hef, hcs]
  | write stream bytes rest count hph hp ham =>
    refine hw.goOn hm (fun other => ?_) (by simp)
    have hb : .finished other ∉ (bytes.take count).map (OutputEntry.byte stream) := by
      rw [List.mem_map]
      rintro ⟨value, -, hv⟩
      cases hv
    simp only [hb, or_false]
    cases other <;> rfl
  | commit cursor stream bytes rest hph =>
    refine hw.goOn hm (hs (fun stream => by cases stream <;> rfl) rfl) ?_
    by_cases hb : bytes = [] <;> simp [hb]

/-- The pump has seen the ends that it has passed, and nothing is lost where no pump runs. -/
structure OutputDelivery.Marked (endpoints : OutputEndpoints) (delivery : OutputDelivery) :
    Prop where
  produced : endpoints.Produced delivery.log
  aware : ∀ pump, delivery.pump = some pump → pump.Aware endpoints delivery.log
  settled : delivery.running = true → delivery.pump = none →
    endpoints.Complete delivery.log ∧ delivery.journal.outputCursor = delivery.log.length

theorem OutputPump.aware_spawn {cursor : Nat} (h : OutputPump.spawn endpoints cursor = some pump)
    (hns : ∀ stream, endpoints.awaits stream = true → .finished stream ∉ log.take cursor) :
    pump.Aware endpoints log := by
  rw [OutputPump.eq_start h]
  refine OutputPump.aware_loop fun stream => ?_
  have hd : OutputPump.done ⟨cursor, !endpoints.awaits .stdout, !endpoints.awaits .stderr,
      .reading⟩ stream = !endpoints.awaits stream := by cases stream <;> rfl
  rw [hd, Bool.not_eq_true']
  constructor
  · exact .inl
  · rintro (hn | hnd)
    · exact hn
    · rw [← Bool.not_eq_true]
      exact fun ha => hns stream ha hnd

/-- **One action**, of a delivery whose replacement shims can resume. -/
theorem OutputDelivery.Marked.step (ho : endpoints.hasOutput = true)
    (hxc : delivery.Exact endpoints) (h : delivery.Marked endpoints)
    (hrs : action.Resumable endpoints delivery)
    (hst : delivery.Step endpoints action later) : later.Marked endpoints := by
  obtain ⟨lifetime, earlier, hl, -, -, hps⟩ := hxc.current
  cases hst with
  | produce entry hrm hc hu =>
    refine ⟨h.produced.append hrm hc hu, fun pump hp => ?_, fun hru hn => ?_⟩
    · -- the pump is not beyond the end of the log
      obtain ⟨hfl, hw, hf, hh⟩ := h.aware pump hp
      have hr : pump.reached ≤ delivery.log.length := by
        rw [(hps pump hp).2.2]
        exact (hxc.segments lifetime (by simp [hl])).2
      refine ⟨fun stream => ?_, hw, hf, hh⟩
      rw [List.take_append_of_le_length hr]
      exact hfl stream
    · -- a complete log does not grow
      exact absurd ((h.settled hru hn).1 entry.stream hc) hu
  | pump hp hst =>
    refine ⟨h.produced, fun moved hm => ?_, by rintro _ ⟨⟩⟩
    cases hm
    exact hst.aware (hps _ hp).1 h.produced (h.aware _ hp)
  | exit hrn hrc =>
    refine ⟨h.produced, h.aware, fun hru hn => ?_⟩
    simp only [TaskState.recordExitOf, unit_bind_eq_ok] at hrc
    rw [← Except.ok.inj hrc.2]
    exact h.settled hru hn
  | crash => exact ⟨h.produced, (by rintro _ ⟨⟩), (by rintro ⟨⟩)⟩
  | restart learned hs =>
    have hcr := delivery.journal.restored_outputCursor learned
    unfold OutputDelivery.restart
    simp only [DeliveryAction.Resumable] at hrs
    dsimp only
    split
    · rename_i hx
      rw [if_pos hx] at hrs
      exact ⟨h.produced, h.aware, fun _ _ => ⟨hrs.1, hcr.trans hrs.2⟩⟩
    · rename_i hx
      rw [if_neg hx] at hrs
      refine ⟨h.produced, fun started hsr => OutputPump.aware_spawn hsr ?_, fun _ hn => ?_⟩
      · rw [hcr]
        exact hrs
      · rw [OutputPump.spawn_of_hasOutput ho] at hn
        cases hn

theorem OutputDelivery.Marked.new
    (ho : (ProcessJournal.new stdin stdout stderr terminal).outputEndpoints.hasOutput = true) :
    (OutputDelivery.new (.new stdin stdout stderr terminal)).Marked
      (ProcessJournal.new stdin stdout stderr terminal).outputEndpoints := by
  refine ⟨⟨Nat.zero_le _, (by rintro _ ⟨⟩), fun _ => .nil⟩,
    fun pump hp => OutputPump.aware_spawn hp fun _ _ => List.not_mem_nil, fun _ hn => ?_⟩
  rw [OutputDelivery.new, OutputPump.spawn_of_hasOutput ho] at hn
  cases hn

/-! ## Draining -/

/-- A bound on the steps a pump has left when the runtime produces nothing more. -/
def OutputPump.work (length : Nat) (pump : OutputPump) : Nat :=
  match pump.phase with
  | .chunks [] => 6 * (length - pump.cursor) + 5
  | .reading => 6 * (length - pump.cursor) + 4
  | .chunks (_ :: _) => 6 * (length - pump.cursor) + 3
  | .writing _ _ _ => 6 * (length - pump.cursor) + 2
  | .committing next _ _ _ => 6 * (length - next) + 6
  | .finished => 0
  | .failed _ => 0

def OutputDelivery.work (delivery : OutputDelivery) : Nat :=
  (delivery.pump.map (·.work delivery.log.length)).getD 0

/-- The pump alone takes `count` steps. -/
inductive OutputDelivery.Pumps (endpoints : OutputEndpoints) (start : OutputDelivery) :
    Nat → OutputDelivery → Prop
  | init : Pumps endpoints start 0 start
  | step {count : Nat} {delivery later : OutputDelivery}
      (before : Pumps endpoints start count delivery)
      (step : delivery.Step endpoints .pump later) : Pumps endpoints start (count + 1) later

/-- A pump that reads has something to read, once every stream has ended. -/
theorem OutputPump.Aware.unread (h : pump.Aware endpoints log) (hc : endpoints.Complete log)
    (hp : pump.phase = .reading) : pump.cursor < log.length := by
  by_contra hrd
  obtain ⟨stream, hw⟩ := h.waits hp
  have hr : pump.reached = pump.cursor := by rw [OutputPump.reached, hp]
  -- everything was passed, the end of this stream too
  have hd : pump.done stream = true := by
    rw [h.flags stream, hr, List.take_of_length_le (not_lt.mp hrd)]
    cases ha : endpoints.awaits stream with
    | false => exact .inl rfl
    | true => exact .inr (hc stream ha)
  rw [hw] at hd
  cases hd

/-- Every step of the pump leaves it with less to do. -/
theorem PumpStep.work_lt (h : PumpStep endpoints log pump effect next) (hh : pump.Holds log)
    (hw : pump.Aware endpoints log) (hcl : endpoints.Complete log)
    (hr : next.reached ≤ log.length) : next.work log.length < pump.work log.length := by
  cases h with
  | read chunks hph hc ha hns =>
    obtain ⟨chunk, rest, rfl⟩ :=
      List.exists_cons_of_ne_nil (hns (hw.unread hcl hph))
    simp only [OutputPump.work, hph]
    omega
  | loop hph =>
    have hn : pump.work log.length = 6 * (log.length - pump.cursor) + 5 := by
      simp only [OutputPump.work, hph]
    rw [hn, OutputPump.loop]
    by_cases hd : (pump.stdoutDone && pump.stderrDone) = true
    · rw [if_pos hd]
      exact Nat.succ_pos _
    · rw [if_neg hd]
      exact Nat.lt_succ_self _
  | take chunk rest hph =>
    have hc := hh.follows
    rw [hph] at hc
    have hp := OutputChunk.width_pos hc.1
    have hn : pump.work log.length = 6 * (log.length - pump.cursor) + 3 := by
      simp only [OutputPump.work, hph]
    rw [hn]
    cases OutputPump.take_taken endpoints hc with
    | failed error ht hrs =>
      rw [ht]
      simp only [OutputPump.work]
      omega
    | data ht hef hdt =>
      rw [ht]
      simp only [OutputPump.work]
      omega
    | skipped ht hef hf =>
      rw [ht] at hr ⊢
      simp only [OutputPump.work, OutputPump.reached] at hr ⊢
      omega
    | ended ht hef =>
      rw [ht] at hr ⊢
      simp only [OutputPump.work, OutputPump.reached] at hr ⊢
      omega
  | write stream bytes rest count hph hp ham =>
    simp only [OutputPump.reached, OutputPump.work, hph] at hr ⊢
    omega
  | commit cursor stream bytes rest hph =>
    simp only [OutputPump.work, hph]
    by_cases hb : bytes = []
    · cases rest <;> simp [hb]
    · simp [hb]

/-- What holds of a shim whose process has ended all its streams, while its pump works. -/
structure OutputDelivery.Draining (endpoints : OutputEndpoints) (delivery : OutputDelivery) :
    Prop where
  exact : delivery.Exact endpoints
  marked : delivery.Marked endpoints
  complete : endpoints.Complete delivery.log
  running : delivery.running = true

theorem OutputDelivery.Draining.pumps (hou : endpoints.hasOutput = true)
    (hs : start.Draining endpoints) (h : OutputDelivery.Pumps endpoints start count delivery) :
    delivery.Draining endpoints ∧ delivery.work + count ≤ start.work := by
  induction h with
  | init => exact ⟨hs, le_rfl⟩
  | step _ hst ih =>
    obtain ⟨⟨hx, hm, hc, hrn⟩, hw⟩ := ih
    have hx' := hx.step hst
    have hm' := hm.step hou hx (by trivial) hst
    cases hst with
    | pump hp hst =>
      obtain ⟨lifetime, rest, hlf, -, -, hps⟩ := hx.current
      obtain ⟨other, others, ho, -, -, hmv⟩ := hx'.current
      have hr := (hx'.segments other (by rw [ho]; simp)).2
      rw [← (hmv _ rfl).2.2] at hr
      have hl := hst.work_lt (hps _ hp).1 (hm.aware _ hp) hc hr
      refine ⟨⟨hx', hm', hc, hrn⟩, ?_⟩
      simp only [OutputDelivery.work, hp, Option.map_some, Option.getD_some] at hw ⊢
      omega

namespace Sample

def pipes : ProcessJournal := .new "" "/run/stdout" "/run/stderr" false

/-- A byte was delivered, the shim was replaced, and the process has closed both streams. -/
def resumed : OutputDelivery where
  log := [.byte .stdout 7, .finished .stdout, .finished .stderr]
  journal := { pipes with outputCursor := 1 }
  running := true
  pump := some ⟨1, false, false, .reading⟩
  written := [.byte .stdout 7]
  lifetimes := [⟨1, []⟩, ⟨0, [.byte .stdout 7]⟩]

/-- The end of stdout was delivered by one shim, the end of stderr by the next. -/
def replaced : OutputDelivery where
  log := [.finished .stdout, .finished .stderr]
  journal := { pipes with outputCursor := 2 }
  running := true
  pump := some ⟨2, false, true, .reading⟩
  written := []
  lifetimes := [⟨1, [.finished .stderr]⟩, ⟨0, [.finished .stdout]⟩]

end Sample

namespace Sample

/-- No shim delivers anything of a process whose exit is recorded. -/
structure Abandoned (delivery : OutputDelivery) : Prop where
  exit : delivery.journal.exit.isSome = true
  pump : delivery.pump = none
  written : delivery.written = []

theorem Abandoned.step (h : Abandoned delivery) (hs : delivery.Step endpoints action later) :
    Abandoned later := by
  cases hs with
  | produce entry => exact ⟨h.exit, h.pump, h.written⟩
  | pump hp _ =>
    rw [h.pump] at hp
    cases hp
  | exit _ hr =>
    simp only [TaskState.recordExitOf, unit_bind_eq_ok] at hr
    refine ⟨?_, h.pump, h.written⟩
    rw [← Except.ok.inj hr.2]
    rfl
  | crash => exact ⟨h.exit, rfl, h.written⟩
  | restart learned _ =>
    obtain ⟨exit, hx⟩ := Option.isSome_iff_exists.mp h.exit
    have hj : delivery.journal.restored learned = delivery.journal := by
      unfold ProcessJournal.restored
      rw [hx]
    simp only [OutputDelivery.restart, hj, h.exit, if_true]
    exact ⟨h.exit, h.pump, h.written⟩

end Sample

end OciRuntime
