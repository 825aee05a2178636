import OciRuntime.Lib.Checks
import OciRuntime.Agent.OutputLog

/-!
# `OciRuntime.Service.Output` — what the host accepts as process output

A driver answers a read with chunks whose cursors the host recomputes before it hands them on
(`validate_output_chunks` of `runtime/src/service.rs`).

## Contents
- **The check.** `validateOutputChunks`.
- **What it accepts.** `Contiguous`, `validateOutputChunks_eq_ok_iff`.
-/

namespace OciRuntime

open Durable

/-! ## The check -/

def outputError (code : ErrorCode) (message : String) : Error :=
  (Error.new code message).forOperation "read-output"

/-- How far a chunk moves the cursor: the end of a stream takes one position. -/
def OutputChunk.width (chunk : OutputChunk) : Nat :=
  if chunk.eof then 1 else chunk.data.length

/-- The loop of the check, from a cursor and a byte count on. -/
def countOutputBytes : List OutputChunk → Nat → Nat → Result Nat
  | [], _, total => .ok total
  | chunk :: chunks, previous, total => do
    rejectIf (chunk.eof = false ∧ chunk.data = [])
      (outputError .conflict "runtime driver returned an empty process output data chunk")
    rejectIf (chunk.eof = true ∧ chunk.data ≠ [])
      (outputError .internal "runtime driver returned output data in an EOF chunk")
    rejectIf (u64Max < previous + chunk.width)
      (outputError .resourceExhausted "runtime driver output sequence space is exhausted")
    rejectIf (chunk.sequence ≠ previous + chunk.width) (outputError .conflict
        "runtime driver returned a non-contiguous process output byte cursor")
    rejectIf (u64Max < total + chunk.data.length)
      (outputError .resourceExhausted "runtime driver output byte count overflowed")
    countOutputBytes chunks chunk.sequence (total + chunk.data.length)

def validateOutputChunks (chunks : List OutputChunk) (afterSequence maxBytes : Nat) :
    Result Unit := do
  let total ← countOutputBytes chunks afterSequence 0
  rejectIf (maxBytes < total) (outputError .resourceExhausted
      s!"runtime driver returned {total} bytes for a {maxBytes}-byte output poll")

/-! ## What it accepts -/

/-- Data chunks have data, and the end of a stream has none. -/
def OutputChunk.WellFormed (chunk : OutputChunk) : Prop := chunk.eof = true ↔ chunk.data = []

/-- Every chunk starts where the one before it ends. -/
def Contiguous : Nat → List OutputChunk → Prop
  | _, [] => True
  | previous, chunk :: chunks =>
    chunk.WellFormed ∧ chunk.sequence = previous + chunk.width ∧ chunk.sequence ≤ u64Max ∧
      Contiguous chunk.sequence chunks

theorem OutputChunk.WellFormed.length_le {chunk : OutputChunk} (h : chunk.WellFormed) :
    chunk.data.length ≤ chunk.width := by
  unfold width
  split
  · rename_i hef
    rw [h.mp hef]
    exact Nat.zero_le _
  · exact Nat.le.refl

theorem OutputChunk.wellFormed_iff {chunk : OutputChunk} : chunk.WellFormed ↔
    ¬ (chunk.eof = false ∧ chunk.data = []) ∧ ¬ (chunk.eof = true ∧ chunk.data ≠ []) := by
  unfold WellFormed
  cases chunk.eof <;> simp

/-- The loop accepts contiguous chunks and adds up their bytes. As many bytes as were counted were
    passed by the cursor, so the count cannot overflow before the cursor does. -/
theorem countOutputBytes_eq_ok_iff {chunks : List OutputChunk} : ∀ {previous total n : Nat},
    total ≤ previous → (countOutputBytes chunks previous total = .ok n ↔
      Contiguous previous chunks ∧ n = total + outputBytes chunks) := by
  induction chunks with
  | nil =>
    intro previous total n _
    simp [countOutputBytes, Contiguous, outputBytes, eq_comm]
  | cons chunk chunks ih =>
    intro previous total n ht
    simp only [countOutputBytes, bind_eq_ok, rejectIf_eq_ok, Contiguous, OutputChunk.wellFormed_iff]
    constructor
    · rintro ⟨_, he, _, hef, _, hsp, _, hs, _, hcn, hr⟩
      have hw := (OutputChunk.wellFormed_iff.mpr ⟨he, hef⟩).length_le
      rw [not_not] at hs
      obtain ⟨hc, rfl⟩ := (ih (by omega)).mp hr
      refine ⟨⟨⟨he, hef⟩, hs, by omega, hc⟩, ?_⟩
      simp only [outputBytes, List.map_cons, List.sum_cons, Nat.add_assoc]
    · rintro ⟨⟨hf, hs, hsp, hc⟩, rfl⟩
      have hw := (OutputChunk.wellFormed_iff.mpr hf).length_le
      refine ⟨(), hf.1, (), hf.2, (), by omega, (), by omega, (), by omega, ?_⟩
      refine (ih (by omega)).mpr ⟨hc, ?_⟩
      simp only [outputBytes, List.map_cons, List.sum_cons, Nat.add_assoc]

/-- The batches the host hands on. -/
theorem validateOutputChunks_eq_ok_iff :
    validateOutputChunks chunks afterSequence maxBytes = .ok () ↔
      Contiguous afterSequence chunks ∧ outputBytes chunks ≤ maxBytes := by
  simp only [validateOutputChunks, bind_eq_ok, rejectIf_eq_ok,
    countOutputBytes_eq_ok_iff (Nat.zero_le afterSequence), Nat.zero_add]
  constructor
  · rintro ⟨total, ⟨hc, rfl⟩, ht⟩
    exact ⟨hc, by omega⟩
  · rintro ⟨hc, hb⟩
    exact ⟨_, ⟨hc, rfl⟩, by omega⟩

end OciRuntime
