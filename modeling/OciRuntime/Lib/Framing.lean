import Mathlib.Algebra.GroupWithZero.Nat
import Mathlib.Data.List.Forall2
import OciRuntime.Lib.Checks

/-!
# `OciRuntime.Lib.Framing` — messages with a length prefix on a byte stream

A frame is a payload behind its length as four big-endian bytes. A reader sees the stream in
*segments*, whatever each single read returns; the lemmas reduce every read to the bytes that are
left, so that nothing depends on how the stream was cut into reads.

## Contents
- **Byte sources.** `Source`, `Source.read`, `Source.readExact` and what they return.
- **Frames.** `Format.writeFrame`, `Format.readFrame`, `Format.readFrames`.
- **Components.** `componentBytes`: a list of byte strings behind their lengths.
- **One frame.** `readFrame_whole`, `readFrame_end`, `readFrame_truncated`.
- **Streams.** `readFrames_cut`: the frames before a cut are read, then the stream ends or fails.
-/

namespace Framing

open Durable

variable {n : Nat} {rest : List UInt8} {frames : List (List UInt8)}

/-! ## Byte sources -/

/-- What is left to read: the bytes that the next reads return at most, and after them the end of
    the stream or a failure. -/
structure Source where
  segments : List (List UInt8)
  nonempty : ∀ segment ∈ segments, segment ≠ []
  failure : Option String

variable {source : Source}

namespace Source

/-- All bytes that are left. -/
def bytes (source : Source) : List UInt8 := source.segments.flatten

/-- What one read of at most `n` bytes takes. -/
def takeSome (n : Nat) : List (List UInt8) → List UInt8 × List (List UInt8)
  | [] => ([], [])
  | segment :: rest =>
    if segment.length ≤ n then (segment, rest) else (segment.take n, segment.drop n :: rest)

/-- What repeated reads take until there are `n` bytes; `none` if the segments end before. -/
def takeExact (n : Nat) : List (List UInt8) → Option (List UInt8 × List (List UInt8))
  | [] => if n = 0 then some ([], []) else none
  | segment :: rest =>
    if n = 0 then some ([], segment :: rest)
    else if segment.length ≤ n then
      (takeExact (n - segment.length) rest).map fun (bytes, left) => (segment ++ bytes, left)
    else some (segment.take n, segment.drop n :: rest)

theorem takeSome_nonempty {segments : List (List UInt8)} (h : ∀ segment ∈ segments, segment ≠ []) :
    ∀ segment ∈ (takeSome n segments).2, segment ≠ [] := by
  cases segments with
  | nil => simp [takeSome]
  | cons segment rest =>
    have hr : ∀ s ∈ rest, s ≠ [] := fun s hs => h s (List.mem_cons_of_mem _ hs)
    by_cases hl : segment.length ≤ n
    · rw [takeSome, if_pos hl]
      exact hr
    · rw [takeSome, if_neg hl]
      refine List.forall_mem_cons.mpr ⟨?_, hr⟩
      simpa [List.drop_eq_nil_iff] using hl

theorem takeExact_nonempty : ∀ {segments : List (List UInt8)} {n : Nat} {bytes : List UInt8}
    {left : List (List UInt8)}, takeExact n segments = some (bytes, left) →
    (∀ segment ∈ segments, segment ≠ []) → ∀ segment ∈ left, segment ≠ []
  | [], n, bytes, left, ht, _ => by
    unfold takeExact at ht
    split at ht
    · cases ht
      simp
    · cases ht
  | segment :: rest, n, bytes, left, ht, h => by
    have hr : ∀ s ∈ rest, s ≠ [] := fun s hs => h s (List.mem_cons_of_mem _ hs)
    unfold takeExact at ht
    split at ht
    · cases ht
      exact h
    · split at ht
      · obtain ⟨⟨_, _⟩, hm, heq⟩ := Option.map_eq_some_iff.mp ht
        cases heq
        exact takeExact_nonempty hm hr
      · rename_i hl
        cases ht
        refine List.forall_mem_cons.mpr ⟨?_, hr⟩
        simpa [List.drop_eq_nil_iff] using hl

/-- Read at most `n` bytes; no bytes mean the end of the stream. -/
def read (n : Nat) (source : Source) : Except String (List UInt8 × Source) :=
  match source.segments, source.failure with
  | [], some failure => .error failure
  | _, _ => .ok ((takeSome n source.segments).1,
      ⟨(takeSome n source.segments).2, takeSome_nonempty source.nonempty, source.failure⟩)

/-- Read until `n` bytes are there. -/
def readExact (n : Nat) (source : Source) : Except String (List UInt8 × Source) :=
  match ht : takeExact n source.segments with
  | some (bytes, left) =>
    .ok (bytes, ⟨left, takeExact_nonempty ht source.nonempty, source.failure⟩)
  | none => .error (source.failure.getD "early eof")

theorem takeExact_some : ∀ (segments : List (List UInt8)) {n : Nat}, n ≤ segments.flatten.length →
    ∃ left, takeExact n segments = some (segments.flatten.take n, left) ∧
      left.flatten = segments.flatten.drop n
  | [], n, h => by
    obtain rfl : n = 0 := by simpa using h
    exact ⟨[], rfl, rfl⟩
  | segment :: rest, n, h => by
    rw [List.flatten_cons, List.length_append] at h
    unfold takeExact
    by_cases hz : n = 0
    · subst hz
      exact ⟨segment :: rest, by simp, by simp⟩
    · rw [if_neg hz]
      by_cases hl : segment.length ≤ n
      · obtain ⟨left, ht, hlf⟩ := takeExact_some rest
          (show n - segment.length ≤ rest.flatten.length by omega)
        refine ⟨left, ?_, ?_⟩
        · rw [if_pos hl, ht, Option.map_some, List.flatten_cons, List.take_append,
            List.take_of_length_le hl]
        · rw [hlf, List.flatten_cons, List.drop_append, List.drop_of_length_le hl, List.nil_append]
      · refine ⟨segment.drop n :: rest, ?_, ?_⟩
        · rw [if_neg hl, List.flatten_cons, List.take_append_of_le_length (by omega)]
        · rw [List.flatten_cons, List.flatten_cons, List.drop_append_of_le_length (by omega)]

theorem takeExact_none : ∀ {segments : List (List UInt8)} {n : Nat},
    segments.flatten.length < n → takeExact n segments = none
  | [], n, h => by
    unfold takeExact
    rw [if_neg (by simp at h; omega)]
  | segment :: rest, n, h => by
    rw [List.flatten_cons, List.length_append] at h
    unfold takeExact
    rw [if_neg (by omega), if_pos (by omega), takeExact_none (by omega)]
    rfl

/-- Enough bytes are left. -/
theorem readExact_ok {bytes : List UInt8} (h : source.bytes = bytes ++ rest) :
    ∃ left, source.readExact bytes.length = .ok (bytes, left) ∧
      left.bytes = rest ∧ left.failure = source.failure := by
  have hl : bytes.length ≤ source.segments.flatten.length := by
    have hs : source.segments.flatten.length = (bytes ++ rest).length := congrArg List.length h
    rw [List.length_append] at hs
    omega
  obtain ⟨left, ht, hlf⟩ := takeExact_some _ hl
  have hb : source.segments.flatten = bytes ++ rest := h
  rw [hb, List.take_left] at ht
  rw [hb, List.drop_left] at hlf
  refine ⟨⟨left, takeExact_nonempty ht source.nonempty, source.failure⟩, ?_, hlf, rfl⟩
  unfold readExact
  split
  · rename_i ht'
    cases ht.symm.trans ht'
    rfl
  · rename_i ht'
    cases ht.symm.trans ht'

/-- The stream ends too early. -/
theorem readExact_error (h : source.bytes.length < n) :
    source.readExact n = .error (source.failure.getD "early eof") := by
  unfold readExact
  split
  · rename_i ht
    cases (takeExact_none h).symm.trans ht
  · rfl

/-- A read of one byte while there are any. -/
theorem read_cons {byte : UInt8} (h : source.bytes = byte :: rest) :
    ∃ left, source.read 1 = .ok ([byte], left) ∧
      left.bytes = rest ∧ left.failure = source.failure := by
  obtain ⟨segments, hn, failure⟩ := source
  cases segments with
  | nil => cases h
  | cons segment others =>
    cases segment with
    | nil => exact absurd rfl (hn [] List.mem_cons_self)
    | cons first tail =>
      obtain ⟨rfl, hr⟩ : first = byte ∧ tail ++ others.flatten = rest := by
        simpa [bytes] using h
      cases tail with
      | nil =>
        refine ⟨⟨others, fun s hs => hn s (List.mem_cons_of_mem _ hs), failure⟩, ?_, hr, rfl⟩
        cases failure <;> rfl
      | cons second tail =>
        refine ⟨⟨(second :: tail) :: others, takeSome_nonempty (n := 1) hn, failure⟩, ?_, hr, rfl⟩
        cases failure <;> rfl

theorem segments_eq_nil (h : source.bytes = []) : source.segments = [] := by
  obtain ⟨segments, hn, failure⟩ := source
  cases segments with
  | nil => rfl
  | cons segment others =>
    have hs : segment = [] := (List.append_eq_nil_iff.mp h).1
    exact absurd hs (hn segment List.mem_cons_self)

end Source

/-! ## Frames -/

/-- Messages as payloads: what decoding returns for an encoded value is that value. -/
structure Codec (α : Type) where
  encode : α → Except String (List UInt8)
  decode : List UInt8 → Except String α
  decode_encode : ∀ {value payload}, encode value = .ok payload → decode payload = .ok value

/-- The limit of one framing and the error it reports at each point of failure. -/
structure Format (ε : Type) where
  limit : Nat
  limit_lt : limit < 2 ^ 32
  encodeFailed : String → ε
  unrepresentable : Nat → ε
  tooLarge : Nat → ε
  headerFailed : String → ε
  headerTruncated : String → ε
  badLength : Nat → ε
  payloadTruncated : String → ε
  decodeFailed : String → ε

/-- A length as four bytes, the most significant first. -/
def beBytes (n : Nat) : List UInt8 :=
  [UInt8.ofNat (n / 2 ^ 24), UInt8.ofNat (n / 2 ^ 16), UInt8.ofNat (n / 2 ^ 8), UInt8.ofNat n]

def fromBeBytes (bytes : List UInt8) : Nat :=
  bytes.foldl (fun value byte => value * 256 + byte.toNat) 0

@[simp] theorem beBytes_length (n : Nat) : (beBytes n).length = 4 := rfl

theorem fromBeBytes_beBytes (h : n < 2 ^ 32) : fromBeBytes (beBytes n) = n := by
  simp only [fromBeBytes, beBytes, List.foldl_cons, List.foldl_nil, UInt8.toNat_ofNat']
  omega

/-! ## Components -/

/-- Eight big-endian bytes. -/
def beBytes64 (n : Nat) : List UInt8 :=
  [UInt8.ofNat (n / 2 ^ 56), UInt8.ofNat (n / 2 ^ 48), UInt8.ofNat (n / 2 ^ 40),
    UInt8.ofNat (n / 2 ^ 32)] ++ beBytes n

theorem beBytes64_injective {m : Nat} (hm : m < 2 ^ 64) (hn : n < 2 ^ 64)
    (h : beBytes64 m = beBytes64 n) : m = n := by
  have hv : ∀ k < 2 ^ 64, fromBeBytes (beBytes64 k) = k := by
    simp only [fromBeBytes, beBytes64, beBytes, List.cons_append, List.nil_append, List.foldl_cons,
      List.foldl_nil, UInt8.toNat_ofNat']
    omega
  rw [← hv m hm, h, hv n hn]

/-- Byte strings one after the other, each behind its length. -/
def componentBytes (components : List (List UInt8)) : List UInt8 :=
  components.flatMap fun component => beBytes64 component.length ++ component

/-- The byte strings can be read back. -/
theorem componentBytes_injective {xs ys : List (List UInt8)} (hxs : ∀ x ∈ xs, x.length < 2 ^ 64)
    (hys : ∀ y ∈ ys, y.length < 2 ^ 64) (h : componentBytes xs = componentBytes ys) : xs = ys := by
  induction xs generalizing ys with
  | nil =>
    cases ys with
    | nil => rfl
    | cons y ys => cases h
  | cons x xs ih =>
    cases ys with
    | nil => cases h
    | cons y ys =>
      obtain ⟨hx, hxs'⟩ := List.forall_mem_cons.mp hxs
      obtain ⟨hy, hys'⟩ := List.forall_mem_cons.mp hys
      simp only [componentBytes, List.flatMap_cons, List.append_assoc] at h
      obtain ⟨hl, hb⟩ := List.append_inj h rfl
      obtain ⟨rfl, hr⟩ := List.append_inj hb (beBytes64_injective hx hy hl)
      rw [ih hxs' hys' hr]

namespace Format

variable {ε α : Type}

/-- The bytes of one payload. -/
def frame (format : Format ε) (payload : List UInt8) : Except ε (List UInt8) :=
  if 2 ^ 32 ≤ payload.length then .error (format.unrepresentable payload.length)
  else if payload.length = 0 ∨ format.limit < payload.length then
    .error (format.tooLarge payload.length)
  else .ok (beBytes payload.length ++ payload)

/-- The bytes of one message. -/
def writeFrame (format : Format ε) (codec : Codec α) (value : α) : Except ε (List UInt8) :=
  match codec.encode value with
  | .error failure => .error (format.encodeFailed failure)
  | .ok payload => format.frame payload

/-- Read a payload of the announced length and decode it. -/
def readPayload (format : Format ε) (codec : Codec α) (length : Nat) (source : Source) :
    Except ε (Option α × Source) :=
  if length = 0 ∨ format.limit < length then .error (format.badLength length)
  else match source.readExact length with
    | .error failure => .error (format.payloadTruncated failure)
    | .ok (payload, source) =>
      match codec.decode payload with
      | .error failure => .error (format.decodeFailed failure)
      | .ok value => .ok (some value, source)

/-- Read one message; `none` where the stream ends before the first byte of a prefix. -/
def readFrame (format : Format ε) (codec : Codec α) (source : Source) :
    Except ε (Option α × Source) :=
  match source.read 1 with
  | .error failure => .error (format.headerFailed failure)
  | .ok ([], source) => .ok (none, source)
  | .ok (first, source) =>
    match source.readExact 3 with
    | .error failure => .error (format.headerTruncated failure)
    | .ok (others, source) => format.readPayload codec (fromBeBytes (first ++ others)) source

/-- What up to `calls` reads in a row return: one that finds the end of the stream or fails is the
    last. -/
def readFrames (format : Format ε) (codec : Codec α) : Nat → Source → List (Except ε (Option α))
  | 0, _ => []
  | calls + 1, source =>
    match format.readFrame codec source with
    | .error failure => [.error failure]
    | .ok (none, _) => [.ok none]
    | .ok (some value, source) => .ok (some value) :: format.readFrames codec calls source

/-! ## One frame -/

variable {format : Format ε} {codec : Codec α} {value : α} {frame : List UInt8}

/-- Exactly the payloads within the limit are framed. -/
theorem frame_eq_ok_iff {payload : List UInt8} : format.frame payload = .ok frame ↔
    0 < payload.length ∧ payload.length ≤ format.limit ∧
      frame = beBytes payload.length ++ payload := by
  have hl := format.limit_lt
  unfold Format.frame
  split
  · exact ⟨nofun, fun h => by omega⟩
  · split
    · exact ⟨nofun, fun h => by omega⟩
    · refine ⟨fun h => ?_, fun h => by rw [h.2.2]⟩
      cases h
      exact ⟨by omega, by omega, rfl⟩

/-- What a frame that was written is made of. -/
theorem writeFrame_ok (h : format.writeFrame codec value = .ok frame) :
    ∃ payload, codec.encode value = .ok payload ∧ 0 < payload.length ∧
      payload.length ≤ format.limit ∧ frame = beBytes payload.length ++ payload := by
  unfold writeFrame at h
  split at h
  · cases h
  · rename_i payload hen
    exact ⟨payload, hen, frame_eq_ok_iff.mp h⟩

variable (format codec) in
/-- The three steps of reading a prefix that is there. -/
theorem readFrame_header {length : Nat} (hl : length < 2 ^ 32)
    (h : source.bytes = beBytes length ++ rest) :
    ∃ left, left.bytes = rest ∧ left.failure = source.failure ∧
      format.readFrame codec source = format.readPayload codec length left := by
  obtain ⟨left, hr, hb, hf⟩ := Source.read_cons
    (show source.bytes = UInt8.ofNat (length / 2 ^ 24) ::
      ([UInt8.ofNat (length / 2 ^ 16), UInt8.ofNat (length / 2 ^ 8), UInt8.ofNat length] ++ rest)
      from h)
  obtain ⟨left', hx, hb', hf'⟩ := Source.readExact_ok hb
  have hv := fromBeBytes_beBytes hl
  refine ⟨left', hb', hf'.trans hf, ?_⟩
  simp only [readFrame, hr]
  rw [show left.readExact 3 = _ from hx]
  exact congrArg (fun n => format.readPayload codec n left') hv

/-- A whole frame is read as its message, and nothing after it. -/
theorem readFrame_whole (hw : format.writeFrame codec value = .ok frame)
    (h : source.bytes = frame ++ rest) :
    ∃ left, left.bytes = rest ∧ left.failure = source.failure ∧
      format.readFrame codec source = .ok (some value, left) := by
  obtain ⟨payload, hen, hp, hlm, rfl⟩ := writeFrame_ok hw
  have hlt := format.limit_lt
  rw [List.append_assoc] at h
  obtain ⟨header, hh, hf, hr⟩ := readFrame_header format codec
    (show payload.length < 2 ^ 32 by omega) h
  obtain ⟨left, hx, hl, hf'⟩ := Source.readExact_ok hh
  refine ⟨left, hl, hf'.trans hf, ?_⟩
  rw [hr, readPayload, if_neg (by omega)]
  simp only [hx, codec.decode_encode hen]

variable (format codec) in
/-- Before the first byte of a prefix the end of the stream is no error. -/
theorem readFrame_end (h : source.bytes = []) (hf : source.failure = none) :
    ∃ left, format.readFrame codec source = .ok (none, left) := by
  have hs := Source.segments_eq_nil h
  refine ⟨⟨[], by simp, source.failure⟩, ?_⟩
  obtain ⟨segments, hn, failure⟩ := source
  cases hs
  cases hf
  rfl

variable (format codec) in
/-- A failing stream is an error there as well. -/
theorem readFrame_failure {failure : String} (h : source.bytes = [])
    (hf : source.failure = some failure) :
    format.readFrame codec source = .error (format.headerFailed failure) := by
  have hs := Source.segments_eq_nil h
  obtain ⟨segments, hn, failure⟩ := source
  cases hs
  cases hf
  rfl

/-- A part of a frame is never read as a message. -/
theorem readFrame_truncated (source : Source) (hw : format.writeFrame codec value = .ok frame)
    (hpr : source.bytes <+: frame) (hl : source.bytes.length < frame.length)
    (hn : source.bytes ≠ []) : ∃ error, format.readFrame codec source = .error error := by
  obtain ⟨payload, -, hps, hlm, rfl⟩ := writeFrame_ok hw
  have hlt := format.limit_lt
  by_cases hh : source.bytes.length < 4
  · -- the cut is inside the prefix
    obtain ⟨byte, rest, hb⟩ := List.exists_cons_of_ne_nil hn
    obtain ⟨left, hr, hlf, -⟩ := Source.read_cons hb
    have hs : left.bytes.length < 3 := by
      rw [hb, List.length_cons] at hh
      rw [hlf]
      omega
    refine ⟨format.headerTruncated (left.failure.getD "early eof"), ?_⟩
    simp only [readFrame, hr, Source.readExact_error hs]
  · -- the cut is inside the payload
    obtain ⟨rest, hb⟩ : ∃ rest, source.bytes = beBytes payload.length ++ rest := by
      have hp : beBytes payload.length <+: source.bytes :=
        List.prefix_of_prefix_length_le (List.prefix_append _ _) hpr (by simpa using hh)
      obtain ⟨rest, hrs⟩ := hp
      exact ⟨rest, hrs.symm⟩
    obtain ⟨left, hlf, -, hr⟩ := readFrame_header format codec
      (show payload.length < 2 ^ 32 by omega) hb
    have hs : left.bytes.length < payload.length := by
      rw [hb, List.length_append, List.length_append] at hl
      rw [hlf]
      omega
    rw [hr, readPayload, if_neg (by omega), Source.readExact_error hs]
    exact ⟨_, rfl⟩

/-! ## Streams -/

/-- How many of the frames end within the first `cut` bytes of their stream. -/
def completeFrames : Nat → List (List UInt8) → Nat
  | _, [] => 0
  | cut, frame :: frames =>
    if frame.length ≤ cut then completeFrames (cut - frame.length) frames + 1 else 0

/-- Calls that return these messages, and then one that returns `last`. -/
def replies (values : List α) (last : Except ε (Option α)) : List (Except ε (Option α)) :=
  values.map (fun value => .ok (some value)) ++ [last]

@[simp] theorem replies_nil (last : Except ε (Option α)) : replies [] last = [last] := rfl

@[simp] theorem replies_cons (value : α) (values : List α) (last : Except ε (Option α)) :
    replies (value :: values) last = .ok (some value) :: replies values last := rfl

/-- What the call after the last complete frame returns: the end of the stream is only reported
    at the end of a frame, and only if the stream did end there. -/
def Ends (frames : List (List UInt8)) (cut : Nat) (failure : Option String)
    (last : Except ε (Option α)) : Prop :=
  if (frames.take (completeFrames cut frames)).flatten.length = cut ∧ failure = none then
    last = .ok none
  else ∃ error, last = .error error

theorem ends_whole {cut : Nat} {failure : Option String} {last : Except ε (Option α)}
    (h : frame.length ≤ cut) :
    Ends (frame :: frames) cut failure last ↔ Ends frames (cut - frame.length) failure last := by
  have hs (n : Nat) : frame.length + n = cut ↔ n = cut - frame.length := by omega
  simp only [Ends, completeFrames, if_pos h, List.take_succ_cons, List.flatten_cons,
    List.length_append, hs]

/-- Nothing is complete: only the number of bytes counts. -/
theorem ends_none {cut : Nat} {failure : Option String} {last : Except ε (Option α)}
    (h : completeFrames cut frames = 0) :
    Ends frames cut failure last ↔
      if cut = 0 ∧ failure = none then last = .ok none else ∃ error, last = .error error := by
  simp only [Ends, h, List.take_zero, List.flatten_nil, List.length_nil, eq_comm (a := 0)]

/-- A list of written messages and their frames. -/
def Written (format : Format ε) (codec : Codec α) : List α → List (List UInt8) → Prop :=
  List.Forall₂ fun value frame => format.writeFrame codec value = .ok frame

/-- The first call returns no message, so it is the last. -/
theorem readFrames_last {last : Except ε (Option α)}
    (h : (format.readFrame codec source).map Prod.fst = last)
    (hl : ∀ value, last ≠ .ok (some value)) (calls : Nat) :
    format.readFrames codec calls source = (replies [] last).take calls := by
  cases calls with
  | zero => rfl
  | succ calls =>
    subst h
    simp only [readFrames, replies_nil, List.take_succ_cons, List.take_nil]
    rcases hr : format.readFrame codec source with error | ⟨_ | value, left⟩
    · rfl
    · rfl
    · exact absurd (by rw [hr]; rfl) (hl value)

variable (format codec) in
/-- No byte is left before a frame. -/
theorem readFrames_none (h : source.bytes = []) (hc : completeFrames 0 frames = 0) :
    ∃ last, Ends frames 0 source.failure last ∧
      ∀ calls, format.readFrames codec calls source = (replies [] last).take calls := by
  have hn (last : Except ε (Option α)) : Ends frames 0 source.failure last ↔
      if 0 = 0 ∧ source.failure = none then last = .ok none else ∃ error, last = .error error :=
    ends_none hc
  cases hf : source.failure with
  | none =>
    obtain ⟨left, hr⟩ := readFrame_end format codec h hf
    refine ⟨.ok none, ?_, readFrames_last (by rw [hr]; rfl) nofun⟩
    rw [← hf, hn, if_pos ⟨rfl, hf⟩]
  | some failure =>
    have hr := readFrame_failure format codec h hf
    refine ⟨.error (format.headerFailed failure), ?_, readFrames_last (by rw [hr]; rfl) nofun⟩
    rw [← hf, hn, if_neg (by simp [hf])]
    exact ⟨_, rfl⟩

/-- **Cut streams.** However the bytes before a cut are split into reads, the calls return the
    messages whose frames are complete and then the end of the stream, or an error if the cut is
    not at the end of a frame. -/
theorem readFrames_cut {values : List α} (hwr : Written format codec values frames) :
    ∀ {cut : Nat} {source : Source},
      cut ≤ frames.flatten.length → source.bytes = frames.flatten.take cut →
      ∃ last, Ends frames cut source.failure last ∧ ∀ calls, format.readFrames codec calls source =
          (replies (values.take (completeFrames cut frames)) last).take calls := by
  induction hwr with
  | nil =>
    intro cut source hc hb
    obtain rfl : cut = 0 := by simpa using hc
    simpa [completeFrames] using readFrames_none format codec
      (show source.bytes = [] by simpa using hb) (show completeFrames 0 [] = 0 from rfl)
  | @cons value frame values frames hw _ ih =>
    intro cut source hc hb
    rw [List.flatten_cons, List.length_append] at hc
    rw [List.flatten_cons] at hb
    by_cases hl : frame.length ≤ cut
    · -- the first frame is complete: the rest of the stream is cut that much earlier
      rw [List.take_append, List.take_of_length_le hl] at hb
      obtain ⟨left, hlf, hf, hr⟩ := readFrame_whole hw hb
      obtain ⟨last, hnd, hcl⟩ := ih (by omega) hlf
      refine ⟨last, (ends_whole hl).mpr (hf ▸ hnd), fun calls => ?_⟩
      cases calls with
      | zero => rfl
      | succ calls =>
        simp only [readFrames, hr, hcl, completeFrames, if_pos hl,
          List.take_succ_cons, replies_cons]
    · have hp : source.bytes = frame.take cut := by
        rw [hb, List.take_append_of_le_length (by omega)]
      have hcm : completeFrames cut (frame :: frames) = 0 := by
        rw [completeFrames, if_neg hl]
      rw [hcm, List.take_zero]
      by_cases hz : cut = 0
      · subst hz
        exact readFrames_none format codec (by rw [hp, List.take_zero]) hcm
      · -- the cut is inside the first frame
        have ht : (frame.take cut).length = cut := by
          rw [List.length_take]
          omega
        have hne : frame.take cut ≠ [] := by
          intro hn
          rw [hn] at ht
          exact hz ht.symm
        obtain ⟨error, hr⟩ := readFrame_truncated source hw
          (by rw [hp]; exact List.take_prefix _ _) (by rw [hp]; omega)
          (by rw [hp]; exact hne)
        refine ⟨.error error, (ends_none hcm).mpr ?_, readFrames_last (by rw [hr]; rfl) nofun⟩
        rw [if_neg fun h => hz h.1]
        exact ⟨error, rfl⟩

theorem completeFrames_whole : ∀ frames : List (List UInt8),
    completeFrames frames.flatten.length frames = frames.length
  | [] => rfl
  | frame :: frames => by
    rw [List.flatten_cons, List.length_append, completeFrames, if_pos (Nat.le_add_right _ _),
      Nat.add_sub_cancel_left, completeFrames_whole, List.length_cons]

/-- **Whole streams.** A stream that ends after its last frame is read back as what was written. -/
theorem readFrames_whole {values : List α} (hw : Written format codec values frames)
    (hb : source.bytes = frames.flatten) (hf : source.failure = none) (calls : Nat) :
    format.readFrames codec calls source = (replies values (.ok none)).take calls := by
  obtain ⟨last, hn, hc⟩ := readFrames_cut hw Nat.le.refl (by rw [List.take_length]; exact hb)
  rw [Ends, completeFrames_whole, List.take_length, if_pos ⟨rfl, hf⟩] at hn
  rw [hc, completeFrames_whole, ← hw.length_eq, List.take_length, hn]

end Format

end Framing
