import OciRuntime.Transport.Wire

/-!
# `OciRuntime.Property.Framing` — what is written is what is read

Whatever a reader gets from single reads, it returns the messages whose frames arrived completely,
in order, and tells a stream that ended after a frame from one that was cut inside of it.
-/

namespace OciRuntime

open Framing

/-- **Aligned streams.** Messages written to a connection are read back in order and then the end
    of the stream, however the bytes are split into reads. A stream that stops earlier gives the
    messages whose frames are complete, and after them an error unless it stops between two frames
    without a failure. -/
theorem messages_read_back (transport : Transport) {α : Type} (json : Codec α)
    {messages : List α} {frames : List (List UInt8)}
    (hwrt : List.Forall₂ (fun message frame => transport.writeFrame json message = .ok frame)
      messages frames) (source : Source) :
    (source.bytes = frames.flatten → source.failure = none → ∀ calls,
      transport.readFrames json calls source = (Format.replies messages (.ok none)).take calls) ∧
    (∀ cut ≤ frames.flatten.length, source.bytes = frames.flatten.take cut →
      ∃ last, Format.Ends frames cut source.failure last ∧ ∀ calls,
        transport.readFrames json calls source =
          (Format.replies (messages.take (Format.completeFrames cut frames)) last).take calls) := by
  refine ⟨fun hb hf calls => ?_, fun cut hc hb => ?_⟩
  · exact Format.readFrames_whole hwrt hb hf calls
  · exact Format.readFrames_cut hwrt hc hb

namespace Sample

/-- Messages that are their own payload. -/
def rawJson : Codec (List UInt8) where
  encode := .ok
  decode := .ok
  decode_encode h := by cases h; rfl

/-- Two frames cut inside the second one and read in three pieces. -/
def pieces : Source where
  segments := [[0, 0], [0, 2, 7, 8, 0], [0, 0]]
  nonempty := by decide
  failure := none

end Sample

/-- The first message of two, then an error. -/
theorem messages_read_back_pieces : ∃ last : Result (Option (List UInt8)),
    Format.Ends [[0, 0, 0, 2, 7, 8], [0, 0, 0, 1, 9]] 9 none last ∧ ∀ calls,
      Transport.sdk.readFrames Sample.rawJson calls Sample.pieces =
        (Format.replies [[7, 8]] last).take calls :=
  have hw : List.Forall₂
      (fun message frame => Transport.sdk.writeFrame Sample.rawJson message = .ok frame)
      [[7, 8], [9]] [[0, 0, 0, 2, 7, 8], [0, 0, 0, 1, 9]] :=
    .cons (by decide +kernel) (.cons (by decide +kernel) .nil)
  (messages_read_back .sdk Sample.rawJson hw Sample.pieces).2 9 (by decide) (by decide)

end OciRuntime
