import Mathlib.Tactic

/-!
# `OciRuntime.Lib.OrderedStream` — chunks that are journaled, submitted and committed one at a time

A sender journals each chunk before it submits it under an operation id, commits it when the
submission has ended, and journals the close when every chunk is committed. A receiver applies each
operation id once, unless it is gone. `Event.Allowed` is the protocol of the two, `Legal` says that a
trace keeps to it. Whatever is submitted again, and in whatever order submissions arrive, a legal trace
delivers the chunks once, in order, and all of them before the close.

## Contents
- **Traces.** `Event`, `Event.Allowed`, `Legal`.
- **Order.** `Ordered`, `Legal.ordered`: sequences are contiguous, at most one chunk is uncommitted.
- **Delivery.** `Legal.applied_eq`, `Legal.delivered_before_close`.
-/

namespace OrderedStream

/-! ## Traces -/

inductive Event (ι β : Type)
  | prepared (sequence : Nat) (payload : β)
  | submitted (operation : ι) (payload : β)
  | ended (sequence : Nat)
  | committed (sequence : Nat)
  | closePrepared
  | closeSubmitted
  | closeEnded
  | closeCommitted
  /-- The receiver applies an operation. -/
  | applied (operation : ι) (payload : β)
  /-- The receiver closes the stream. -/
  | closed
  /-- The receiver is gone. -/
  | gone
  deriving DecidableEq

variable {ι β : Type} {sequence : Nat} {payload : β}

def preparedIn (trace : List (Event ι β)) : List (Nat × β) :=
  trace.filterMap fun event => match event with
    | .prepared sequence payload => some (sequence, payload)
    | _ => none

def committedIn (trace : List (Event ι β)) : List Nat :=
  trace.filterMap fun event => match event with
    | .committed sequence => some sequence
    | _ => none

def appliedIn (trace : List (Event ι β)) : List (ι × β) :=
  trace.filterMap fun event => match event with
    | .applied operation payload => some (operation, payload)
    | _ => none

@[simp] theorem preparedIn_append (first second : List (Event ι β)) :
    preparedIn (first ++ second) = preparedIn first ++ preparedIn second := List.filterMap_append

@[simp] theorem committedIn_append (first second : List (Event ι β)) :
    committedIn (first ++ second) = committedIn first ++ committedIn second := List.filterMap_append

@[simp] theorem appliedIn_append (first second : List (Event ι β)) :
    appliedIn (first ++ second) = appliedIn first ++ appliedIn second := List.filterMap_append

theorem mem_preparedIn :
    (sequence, payload) ∈ preparedIn trace ↔ .prepared sequence payload ∈ trace := by
  constructor
  · intro h
    obtain ⟨event, hev, hs⟩ := List.mem_filterMap.mp h
    cases event with
    | prepared found other =>
      cases hs
      exact hev
    | _ => cases hs
  · exact fun h => List.mem_filterMap.mpr ⟨_, h, rfl⟩

theorem mem_appliedIn :
    (operation, payload) ∈ appliedIn trace ↔ .applied operation payload ∈ trace := by
  constructor
  · intro h
    obtain ⟨event, hev, hs⟩ := List.mem_filterMap.mp h
    cases event with
    | applied found other =>
      cases hs
      exact hev
    | _ => cases hs
  · exact fun h => List.mem_filterMap.mpr ⟨_, h, rfl⟩

/-- What may happen after `before`; `id` is the operation id of a sequence. -/
def Event.Allowed (id : Nat → ι) (before : List (Event ι β)) : Event ι β → Prop
  | .prepared sequence _ =>
    sequence = (preparedIn before).length + 1 ∧
      (committedIn before).length = (preparedIn before).length ∧ .closePrepared ∉ before
  | .submitted operation payload =>
    ∃ sequence, operation = id sequence ∧ .prepared sequence payload ∈ before
  | .ended sequence =>
    (∃ payload, .submitted (id sequence) payload ∈ before) ∧
      ((∃ payload, .applied (id sequence) payload ∈ before) ∨ .gone ∈ before)
  | .committed sequence =>
    sequence = (committedIn before).length + 1 ∧ .ended sequence ∈ before ∧
      (committedIn before).length < (preparedIn before).length
  | .closePrepared => (committedIn before).length = (preparedIn before).length
  | .closeSubmitted => .closePrepared ∈ before
  | .closeEnded => .closeSubmitted ∈ before ∧ (.closed ∈ before ∨ .gone ∈ before)
  | .closeCommitted => .closeEnded ∈ before
  | .applied operation payload =>
    .submitted operation payload ∈ before ∧ (∀ other, .applied operation other ∉ before) ∧
      .gone ∉ before
  | .closed => .closeSubmitted ∈ before ∧ .closed ∉ before ∧ .gone ∉ before
  | .gone => True

/-- Each event was allowed when it happened. -/
inductive Legal (id : Nat → ι) : List (Event ι β) → Prop
  | nil : Legal id []
  | snoc {trace : List (Event ι β)} {event : Event ι β} (before : Legal id trace)
      (allowed : event.Allowed id trace) : Legal id (trace ++ [event])

variable {id : Nat → ι} {trace : List (Event ι β)}

theorem Legal.of_append (h : Legal id (first ++ second)) : Legal id first := by
  induction second using List.reverseRecOn with
  | nil => rwa [List.append_nil] at h
  | append_singleton second event ih =>
    rw [← List.append_assoc] at h
    generalize hw : first ++ second ++ [event] = whole at h
    cases h with
    | nil => simp at hw
    | snoc before allowed =>
      obtain ⟨rfl, -⟩ := List.append_inj' hw rfl
      exact ih before

variable {before after : List (Event ι β)}

/-- An event of a legal trace was allowed by what came before it. -/
theorem Legal.allowed (h : Legal id (before ++ event :: after)) : event.Allowed id before := by
  rw [List.append_cons] at h
  have hp := h.of_append
  generalize hw : before ++ [event] = whole at hp
  cases hp with
  | nil => simp at hw
  | snoc _ allowed =>
    obtain ⟨rfl, hs⟩ := List.append_inj' hw rfl
    cases hs
    exact allowed

/-- A property of an event of the trace that its allowance gives and that later events keep. -/
theorem Legal.of_mem {P : List (Event ι β) → Prop} (h : Legal id trace) (hm : event ∈ trace)
    (hl : ∀ before, event.Allowed id before → P before)
    (hmn : ∀ before after, P before → P (before ++ after)) : P trace := by
  obtain ⟨before, after, rfl⟩ := List.append_of_mem hm
  exact hmn before _ (hl before h.allowed)

/-! ## Order -/

/-- Sequences count from one, commits follow in order, and at most one chunk is uncommitted. -/
structure Ordered (trace : List (Event ι β)) : Prop where
  sequences : (preparedIn trace).map Prod.fst = List.range' 1 (preparedIn trace).length
  commits : committedIn trace = List.range' 1 (committedIn trace).length
  committed_le : (committedIn trace).length ≤ (preparedIn trace).length
  prepared_le : (preparedIn trace).length ≤ (committedIn trace).length + 1
  closing : .closePrepared ∈ trace → (committedIn trace).length = (preparedIn trace).length

/-- An event that prepares and commits nothing. -/
theorem Ordered.keep (h : Ordered trace) (hp : preparedIn [event] = [])
    (hcm : committedIn [event] = [])
    (hc : event = .closePrepared → (committedIn trace).length = (preparedIn trace).length) :
    Ordered (trace ++ [event]) := by
  refine ⟨?_, ?_, ?_, ?_, ?_⟩ <;>
    simp only [preparedIn_append, committedIn_append, hp, hcm, List.append_nil]
  · exact h.sequences
  · exact h.commits
  · exact h.committed_le
  · exact h.prepared_le
  · intro hm
    rcases List.mem_append.mp hm with hold | hn
    · exact h.closing hold
    · exact hc (List.mem_singleton.mp hn).symm

theorem Legal.ordered (h : Legal id trace) : Ordered trace := by
  induction h with
  | nil => exact ⟨rfl, rfl, le_rfl, Nat.zero_le _, by rintro ⟨⟩⟩
  | @snoc trace event before allowed ih =>
    cases event with
    | prepared sequence payload =>
      obtain ⟨rfl, ha, hp⟩ := allowed
      refine ⟨?_, ?_, ?_, ?_, ?_⟩ <;>
        simp only [preparedIn_append, committedIn_append, List.map_append, List.length_append,
          ih.sequences]
      · show _ ++ [_] = List.range' 1 (_ + 1)
        rw [List.range'_1_concat, Nat.add_comm 1]
      · simp only [committedIn, List.filterMap_cons, List.filterMap_nil, List.append_nil,
          List.length_nil, Nat.add_zero]
        exact ih.commits
      · simp only [preparedIn, committedIn, List.filterMap_cons, List.filterMap_nil,
          List.length_cons, List.length_nil] at ha ⊢
        omega
      · simp only [preparedIn, committedIn, List.filterMap_cons, List.filterMap_nil,
          List.length_cons, List.length_nil] at ha ⊢
        omega
      · intro hm
        simp [hp] at hm
    | committed sequence =>
      obtain ⟨rfl, -, hlt⟩ := allowed
      have hl := ih.prepared_le
      refine ⟨?_, ?_, ?_, ?_, ?_⟩ <;>
        simp only [preparedIn_append, committedIn_append, List.length_append]
      · simp only [preparedIn, List.filterMap_cons, List.filterMap_nil, List.append_nil,
          List.length_nil, Nat.add_zero]
        exact ih.sequences
      · show _ ++ [_] = List.range' 1 (_ + 1)
        rw [List.range'_1_concat, Nat.add_comm 1, ← ih.commits]
      · simp only [preparedIn, committedIn, List.filterMap_cons, List.filterMap_nil,
          List.length_cons, List.length_nil] at hlt hl ⊢
        omega
      · simp only [preparedIn, committedIn, List.filterMap_cons, List.filterMap_nil,
          List.length_cons, List.length_nil] at hlt hl ⊢
        omega
      · intro hm
        have hc := ih.closing (by simpa using hm)
        omega
    | closePrepared => exact ih.keep rfl rfl fun _ => allowed
    | submitted operation payload => exact ih.keep rfl rfl (by rintro ⟨⟩)
    | ended sequence => exact ih.keep rfl rfl (by rintro ⟨⟩)
    | closeSubmitted => exact ih.keep rfl rfl (by rintro ⟨⟩)
    | closeEnded => exact ih.keep rfl rfl (by rintro ⟨⟩)
    | closeCommitted => exact ih.keep rfl rfl (by rintro ⟨⟩)
    | applied operation payload => exact ih.keep rfl rfl (by rintro ⟨⟩)
    | closed => exact ih.keep rfl rfl (by rintro ⟨⟩)
    | gone => exact ih.keep rfl rfl (by rintro ⟨⟩)

/-- The chunk at a position has the sequence of that position. -/
theorem Ordered.sequence_of_getElem? (h : Ordered trace)
    (hc : (preparedIn trace)[position]? = some (sequence, payload)) :
    sequence = position + 1 := by
  have hf : ((preparedIn trace).map Prod.fst)[position]? = some sequence := by
    rw [List.getElem?_map, hc]
    rfl
  rw [h.sequences, List.getElem?_range' (by
    have := (List.getElem?_eq_some_iff.mp hc).1
    exact this)] at hf
  have := Option.some.inj hf
  omega

/-- One payload for each sequence. -/
theorem Ordered.payload_unique (h : Ordered trace) (hf : .prepared sequence first ∈ trace)
    (hs : .prepared sequence second ∈ trace) : first = second := by
  obtain ⟨i, hi⟩ := List.getElem?_of_mem (mem_preparedIn.mpr hf)
  obtain ⟨j, hj⟩ := List.getElem?_of_mem (mem_preparedIn.mpr hs)
  have hsa : i = j := by
    have := h.sequence_of_getElem? hi
    have := h.sequence_of_getElem? hj
    omega
  subst hsa
  rw [hi] at hj
  cases hj
  rfl

section
variable (h : Legal id trace)
include h

/-- What is submitted is a prepared chunk, under its id. -/
theorem Legal.submitted_prepared (hm : .submitted operation payload ∈ trace) :
    ∃ sequence, operation = id sequence ∧ .prepared sequence payload ∈ trace :=
  h.of_mem
    (P := fun trace => ∃ sequence, operation = id sequence ∧ Event.prepared sequence payload ∈ trace)
    hm (fun _ hl => hl) fun _ _ ⟨sequence, hi, hp⟩ =>
      ⟨sequence, hi, List.mem_append_left _ hp⟩

theorem Legal.ended_submitted (hm : .ended sequence ∈ trace) :
    ∃ payload, .submitted (id sequence) payload ∈ trace :=
  h.of_mem (P := fun trace => ∃ payload, Event.submitted (id sequence) payload ∈ trace) hm
    (fun _ hl => hl.1) fun _ _ ⟨payload, hs⟩ =>
      ⟨payload, List.mem_append_left _ hs⟩

/-- What is committed has ended. -/
theorem Legal.ended_of_le_committed (hp : 0 < sequence)
    (hle : sequence ≤ (committedIn trace).length) : .ended sequence ∈ trace := by
  have hm : sequence ∈ committedIn trace := by
    rw [h.ordered.commits, List.mem_range'_1]
    omega
  obtain ⟨event, hev, hs⟩ := List.mem_filterMap.mp hm
  cases event with
  | committed found =>
    cases hs
    exact h.of_mem (P := fun trace => .ended sequence ∈ trace) hev
      (fun _ hl => hl.2.1) fun _ _ hen => List.mem_append_left _ hen
  | _ => cases hs

theorem Legal.closePrepared_of_closeSubmitted (hm : .closeSubmitted ∈ trace) :
    .closePrepared ∈ trace :=
  h.of_mem (P := fun trace => .closePrepared ∈ trace) hm (fun _ hl => hl)
    fun _ _ hp => List.mem_append_left _ hp

theorem Legal.closePrepared_of_closeEnded (hm : .closeEnded ∈ trace) : .closePrepared ∈ trace :=
  h.closePrepared_of_closeSubmitted (h.of_mem (P := fun trace => .closeSubmitted ∈ trace) hm
    (fun _ hl => hl.1) fun _ _ hs => List.mem_append_left _ hs)

/-! ## Delivery -/

/-- An ended submission was applied, unless the receiver is gone. -/
theorem Legal.ended_applied (hm : .ended sequence ∈ trace)
    (hlv : .gone ∉ trace) : ∃ payload, .applied (id sequence) payload ∈ trace := by
  have hen : (∃ payload, .applied (id sequence) payload ∈ trace) ∨ .gone ∈ trace := by
    refine h.of_mem (P := fun trace =>
      (∃ payload, .applied (id sequence) payload ∈ trace) ∨ .gone ∈ trace) hm
      (fun _ hl => hl.2) ?_
    rintro before after (⟨payload, ha⟩ | hg)
    · exact .inl ⟨payload, List.mem_append_left _ ha⟩
    · exact .inr (List.mem_append_left _ hg)
  exact hen.resolve_right hlv

end

/-- The operations of chunks. -/
def operations (id : Nat → ι) (chunks : List (Nat × β)) : List (ι × β) :=
  chunks.map fun chunk => (id chunk.1, chunk.2)

/-- **Delivery.** What the receiver has applied is a first part of what was prepared, and has every
    committed chunk unless the receiver is gone. -/
theorem Legal.applied_eq (hi : Function.Injective id) (h : Legal id trace) :
    ∃ count ≤ (preparedIn trace).length,
      appliedIn trace = operations id ((preparedIn trace).take count) ∧
      (.gone ∉ trace → (committedIn trace).length ≤ count) := by
  induction h with
  | nil => exact ⟨0, le_rfl, rfl, fun _ => le_rfl⟩
  | @snoc trace event before allowed ih =>
    obtain ⟨count, hcn, hap, hcm⟩ := ih
    have ho := before.ordered
    -- only `prepared`, `committed` and `applied` change one of the three lists
    have hk : preparedIn [event] = [] → committedIn [event] = [] → appliedIn [event] = [] →
        ∃ count ≤ (preparedIn (trace ++ [event])).length, appliedIn (trace ++ [event]) =
            operations id ((preparedIn (trace ++ [event])).take count) ∧
          (.gone ∉ trace ++ [event] → (committedIn (trace ++ [event])).length ≤ count) := by
      intro hp hc ha
      refine ⟨count, ?_, ?_, fun hlv => ?_⟩
      · rw [preparedIn_append, hp, List.append_nil]
        exact hcn
      · rw [appliedIn_append, preparedIn_append, hp, ha, List.append_nil, List.append_nil]
        exact hap
      · rw [committedIn_append, hc, List.append_nil]
        exact hcm fun hg => hlv (List.mem_append_left _ hg)
    cases event with
    | prepared sequence payload =>
      refine ⟨count, ?_, ?_, fun hlv => ?_⟩
      · rw [preparedIn_append, List.length_append]
        omega
      · rw [appliedIn_append, preparedIn_append, List.take_append_of_le_length hcn]
        exact (List.append_nil _).trans hap
      · rw [committedIn_append]
        exact le_of_eq_of_le (congrArg List.length (List.append_nil _))
          (hcm fun hg => hlv (List.mem_append_left _ hg))
    | committed sequence =>
      obtain ⟨rfl, hen, hlt⟩ := allowed
      refine ⟨count, ?_, ?_, fun hlv => ?_⟩
      · rw [preparedIn_append]
        exact le_of_le_of_eq hcn (congrArg List.length (List.append_nil _)).symm
      · rw [appliedIn_append, preparedIn_append]
        exact (List.append_nil _).trans
          (hap.trans (by rw [show preparedIn [Event.committed _] = ([] : List (Nat × β)) from
            rfl, List.append_nil]))
      · -- the committed chunk is among the applied ones
        have hg : Event.gone ∉ trace := fun hg => hlv (List.mem_append_left _ hg)
        obtain ⟨payload, hpy⟩ := before.ended_applied hen hg
        have hm := mem_appliedIn.mpr hpy
        rw [hap, operations, List.mem_map] at hm
        obtain ⟨⟨sequence, data⟩, hch, hsa⟩ := hm
        have hsq : sequence = (committedIn trace).length + 1 :=
          hi (congrArg Prod.fst hsa)
        obtain ⟨position, hps⟩ := List.getElem?_of_mem hch
        have hl := (List.getElem?_eq_some_iff.mp hps).1
        rw [List.length_take] at hl
        rw [List.getElem?_take_of_lt (by omega)] at hps
        have := ho.sequence_of_getElem? hps
        rw [committedIn_append, List.length_append]
        show (committedIn trace).length + 1 ≤ count
        omega
    | applied operation payload =>
      obtain ⟨hs, hf, hlv⟩ := allowed
      obtain ⟨sequence, rfl, hpr⟩ := before.submitted_prepared hs
      obtain ⟨position, hps⟩ := List.getElem?_of_mem (mem_preparedIn.mpr hpr)
      have hl := (List.getElem?_eq_some_iff.mp hps).1
      -- a chunk that was not applied is the one that is not committed
      have hn : count ≤ position := by
        by_contra hlt
        refine hf payload (mem_appliedIn.mp ?_)
        rw [hap, operations]
        refine List.mem_map.mpr ⟨(sequence, payload), ?_, rfl⟩
        refine List.mem_of_getElem? (i := position) ?_
        rw [List.getElem?_take_of_lt (by omega)]
        exact hps
      have hnx : position = count := by
        have := hcm hlv
        have := ho.prepared_le
        omega
      subst hnx
      refine ⟨position + 1, ?_, ?_, fun _ => ?_⟩
      · rw [preparedIn_append, List.length_append]
        omega
      · rw [appliedIn_append, preparedIn_append, hap]
        show _ ++ [(id sequence, payload)] = operations id ((preparedIn trace ++ []).take _)
        rw [List.append_nil, List.take_add_one, hps, operations, operations, List.map_append]
        rfl
      · rw [committedIn_append]
        have := hcm hlv
        show (committedIn trace ++ []).length ≤ _
        rw [List.append_nil]
        omega
    | submitted operation payload => exact hk rfl rfl rfl
    | ended sequence => exact hk rfl rfl rfl
    | closePrepared => exact hk rfl rfl rfl
    | closeSubmitted => exact hk rfl rfl rfl
    | closeEnded => exact hk rfl rfl rfl
    | closeCommitted => exact hk rfl rfl rfl
    | closed => exact hk rfl rfl rfl
    | gone => exact hk rfl rfl rfl

/-- Nothing is prepared after the close was. -/
theorem Legal.prepared_after_close (h : Legal id (before ++ after))
    (hc : .closePrepared ∈ before) : preparedIn after = [] := by
  rw [List.eq_nil_iff_forall_not_mem]
  rintro ⟨sequence, payload⟩ hm
  obtain ⟨first, second, rfl⟩ := List.append_of_mem (mem_preparedIn.mp hm)
  rw [← List.append_assoc] at h
  exact h.allowed.2.2 (List.mem_append_left _ hc)

/-- **Before the close.** When the receiver closes the stream it has applied everything that is ever
    prepared, and it applies nothing afterwards. -/
theorem Legal.delivered_before_close (hi : Function.Injective id)
    (h : Legal id (before ++ .closed :: after)) :
    appliedIn before = operations id (preparedIn (before ++ .closed :: after)) ∧
      appliedIn after = [] := by
  obtain ⟨hs, -, hlv⟩ := h.allowed
  have hb := h.of_append
  have hcl := hb.closePrepared_of_closeSubmitted hs
  have hlr : preparedIn (.closed :: after) = [] := h.prepared_after_close hcl
  have hev : appliedIn before = operations id (preparedIn before) := by
    obtain ⟨count, hcn, ha, hcm⟩ := hb.applied_eq hi
    have hc := hb.ordered.closing hcl
    have := hcm hlv
    rw [ha, List.take_of_length_le (by omega)]
  refine ⟨?_, ?_⟩
  · rw [preparedIn_append, hlr, List.append_nil]
    exact hev
  · -- what is applied in the whole trace is no more than what is prepared
    obtain ⟨count, -, ha, -⟩ := h.applied_eq hi
    rw [appliedIn_append, hev, preparedIn_append, hlr, List.append_nil] at ha
    have hl := congrArg List.length ha
    simp only [List.length_append, operations, List.length_map, List.length_take] at hl
    have hn : (appliedIn (.closed :: after)).length = 0 := by omega
    exact List.length_eq_zero_iff.mp hn

end OrderedStream
