import OciRuntime.Transport.FrameSize

/-!
# `OciRuntime.Property.FrameLimit` — which valid requests fit a frame

Validation bounds payloads in bytes, the transport bounds the JSON text. A byte takes up to three
digits and a comma, and a chunk of output its cursor, stream and markers, so some valid requests
are longer than a frame and some valid reads have longer responses.

## Contents
- **Output.** `outputCeiling`: the longest text of an accepted response, and that it is reached.
- **Result.** `payload_frames_fit_iff`.
-/

namespace OciRuntime

open Durable Json

variable {n protocol requestId : Nat} {chunks : List OutputChunk}

/-! ## Output -/

/-- The digits of the cursors of the `n` positions after `position`. -/
def cursorDigits (position : Nat) : Nat → Nat
  | 0 => 0
  | n + 1 => digitCount (position + 1) + cursorDigits (position + 1) n

theorem cursorDigits_add (pos m n : Nat) : cursorDigits pos (m + n) =
    cursorDigits pos m + cursorDigits (pos + m) n := by
  induction m generalizing pos with
  | zero => simp [cursorDigits]
  | succ m ih =>
    have hp : pos + 1 + m = pos + (m + 1) := by omega
    rw [Nat.add_right_comm, cursorDigits, cursorDigits, ih, hp, Nat.add_assoc]

theorem digitCount_le_cursorDigits (pos : Nat) (h : 0 < n) :
    digitCount (pos + n) ≤ cursorDigits pos n := by
  obtain ⟨m, rfl⟩ : ∃ m, n = m + 1 := ⟨n - 1, by omega⟩
  rw [cursorDigits_add, cursorDigits, cursorDigits, ← Nat.add_assoc pos m 1]
  omega

/-- How many streams end in a batch. -/
def eofCount (chunks : List OutputChunk) : Nat := (chunks.filter (·.eof)).length

theorem byteText_le (data : List UInt8) : byteText data ≤ 4 * data.length := by
  induction data with
  | nil => exact Nat.le.refl
  | cons byte data ih =>
    have hb := digitCount_byte_le byte
    simp only [byteText, List.map_cons, List.sum_cons, List.length_cons] at ih ⊢
    omega

@[simp] theorem outputBytes_cons (chunk : OutputChunk) (chunks : List OutputChunk) :
    outputBytes (chunk :: chunks) = chunk.data.length + outputBytes chunks := rfl

@[simp] theorem chunkText_cons (chunk : OutputChunk) (chunks : List OutputChunk) :
    chunkText (chunk :: chunks) = chunk.json.size + 1 + chunkText chunks := rfl

theorem eofCount_cons (chunk : OutputChunk) (chunks : List OutputChunk) :
    eofCount (chunk :: chunks) = (if chunk.eof then 1 else 0) + eofCount chunks := by
  unfold eofCount
  rw [List.filter_cons]
  split
  · rw [List.length_cons, Nat.add_comm]
  · rw [Nat.zero_add]

/-- **No split is longer than single bytes.** The text of a contiguous batch is at most that of its
    bytes in chunks of their own, three digits each, and of the ends of streams. -/
theorem chunkText_le : ∀ {chunks : List OutputChunk} {pos : Nat}, Contiguous pos chunks →
    pos + outputBytes chunks + eofCount chunks ≤ max pos u64Max ∧
    chunkText chunks ≤ cursorDigits pos (outputBytes chunks + eofCount chunks) +
      57 * outputBytes chunks + 53 * eofCount chunks
  | [], pos, _ => by simp [chunkText, outputBytes, eofCount]
  | chunk :: chunks, pos, ⟨hf, hs, hsp, hr⟩ => by
    obtain ⟨hm, ht⟩ := chunkText_le hr
    rw [outputBytes_cons, eofCount_cons, chunkText_cons, OutputChunk.size_json]
    unfold OutputChunk.width at hs
    cases hef : chunk.eof with
    | true =>
      -- the end of a stream takes one position and no bytes
      simp only [hef, if_true] at hs
      rw [hs] at ht hm
      have hd := cursorDigits_add pos 1 (outputBytes chunks + eofCount chunks)
      rw [show cursorDigits pos 1 = digitCount (pos + 1) from rfl] at hd
      simp only [hf.mp hef, byteText, List.map_nil, List.sum_nil, List.length_nil, if_true, hs]
      rw [show 0 + outputBytes chunks + (1 + eofCount chunks) =
        1 + (outputBytes chunks + eofCount chunks) by omega]
      omega
    | false =>
      have hn : chunk.data ≠ [] := fun h => by simp [hf.mpr h] at hef
      have hp := List.length_pos_of_ne_nil hn
      simp only [hef, Bool.false_eq_true, if_false] at hs ⊢
      rw [hs] at ht hm ⊢
      have hd := cursorDigits_add pos chunk.data.length (outputBytes chunks + eofCount chunks)
      have hl := digitCount_le_cursorDigits pos hp
      have hb := byteText_le chunk.data
      rw [show chunk.data.length + outputBytes chunks + (0 + eofCount chunks) =
        chunk.data.length + (outputBytes chunks + eofCount chunks) by omega]
      omega

/-- A stream ends at most once, so two ends are all. -/
theorem eofCount_le (h : EofIsLast chunks) : eofCount chunks ≤ 2 := by
  have hn : ((chunks.filter (·.eof)).map (·.stream)).Nodup := by
    induction chunks with
    | nil => exact .nil
    | cons chunk chunks ih =>
      rw [List.filter_cons]
      split
      · rename_i hef
        refine List.nodup_cons.mpr ⟨fun hm => ?_, ih h.2⟩
        obtain ⟨later, hl, heq⟩ := List.mem_map.mp hm
        exact h.1 hef later (List.mem_of_mem_filter hl) heq
      · exact ih h.2
  have hs : (chunks.filter (·.eof)).map (·.stream) ⊆ [.stdout, .stderr] := by
    intro stream _
    cases stream <;> simp
  simpa [eofCount] using (hn.subperm hs).length_le

/-- The most data bytes and then ends of streams that a read of `maxBytes` after `position` can
    return before the cursor is exhausted. -/
def mostBytes (position maxBytes : Nat) : Nat := min maxBytes (u64Max - position)

def mostEnds (position maxBytes : Nat) : Nat := min 2 (u64Max - position - mostBytes position maxBytes)

/-- The longest text of the chunks of an accepted response. -/
def outputCeiling (position maxBytes : Nat) : Nat :=
  cursorDigits position (mostBytes position maxBytes + mostEnds position maxBytes) +
    57 * mostBytes position maxBytes + 53 * mostEnds position maxBytes

theorem cursorDigits_mono (pos : Nat) (h : m ≤ n) : cursorDigits pos m ≤ cursorDigits pos n := by
  obtain ⟨k, rfl⟩ := Nat.exists_eq_add_of_le h
  rw [cursorDigits_add]
  exact Nat.le_add_right _ _

theorem chunkText_le_ceiling (hps : pos ≤ u64Max)
    (hc : Contiguous pos chunks) (hb : outputBytes chunks ≤ maxBytes)
    (hef : EofIsLast chunks) : chunkText chunks ≤ outputCeiling pos maxBytes := by
  obtain ⟨hm, ht⟩ := chunkText_le hc
  have hn := eofCount_le hef
  refine ht.trans ?_
  have hp : outputBytes chunks + eofCount chunks ≤
      mostBytes pos maxBytes + mostEnds pos maxBytes := by
    unfold mostBytes mostEnds mostBytes
    omega
  have hd := cursorDigits_mono pos hp
  have hms : outputBytes chunks ≤ mostBytes pos maxBytes := by
    unfold mostBytes
    omega
  unfold outputCeiling
  omega

/-- Bytes of three digits in chunks of their own, after `position`. -/
def byteCells : Nat → Nat → List OutputChunk
  | _, 0 => []
  | position, n + 1 => ⟨position + 1, .stdout, [255], false⟩ :: byteCells (position + 1) n

/-- The ends of some streams. -/
def endCells : Nat → List OutputStream → List OutputChunk
  | _, [] => []
  | position, stream :: streams => ⟨position + 1, stream, [], true⟩ :: endCells (position + 1) streams

/-- The longest response to a read. -/
def longestOutput (position maxBytes : Nat) : List OutputChunk :=
  byteCells position (mostBytes position maxBytes) ++
    endCells (position + mostBytes position maxBytes)
      ([OutputStream.stdout, .stderr].take (mostEnds position maxBytes))

/-- What holds of chunks that come after some bytes of their own. -/
theorem byteCells_append : ∀ {n pos : Nat},
    pos + n ≤ u64Max → Contiguous (pos + n) chunks → EofIsLast chunks →
    Contiguous pos (byteCells pos n ++ chunks) ∧ EofIsLast (byteCells pos n ++ chunks) ∧
      outputBytes (byteCells pos n ++ chunks) = n + outputBytes chunks ∧
      chunkText (byteCells pos n ++ chunks) = cursorDigits pos n + 57 * n + chunkText chunks
  | 0, pos, _, hc, hef => by simpa [byteCells, cursorDigits] using ⟨hc, hef⟩
  | n + 1, pos, hs, hc, hef => by
    have hp : pos + 1 + n = pos + (n + 1) := by omega
    obtain ⟨hr, hrf, hb, ht⟩ := byteCells_append
      (show pos + 1 + n ≤ u64Max by omega) (by rwa [hp]) hef
    have hd : digitCount 255 = 3 := by decide
    refine ⟨⟨by simp [OutputChunk.WellFormed], rfl, by show pos + 1 ≤ u64Max; omega, hr⟩,
      ⟨nofun, hrf⟩, ?_, ?_⟩
    · rw [byteCells, List.cons_append, outputBytes_cons, hb]
      simp only [List.length_cons, List.length_nil]
      omega
    · rw [byteCells, List.cons_append, chunkText_cons, ht, OutputChunk.size_json, cursorDigits]
      simp only [byteText, List.map_cons, List.map_nil, List.sum_cons, List.sum_nil,
        show (255 : UInt8).toNat = 255 from rfl, hd, Bool.false_eq_true, if_false]
      omega

theorem endCells_spec : ∀ {streams : List OutputStream} {pos : Nat}, streams.Nodup →
    pos + streams.length ≤ u64Max →
    Contiguous pos (endCells pos streams) ∧
      (∀ chunk ∈ endCells pos streams, chunk.stream ∈ streams) ∧
      EofIsLast (endCells pos streams) ∧
      outputBytes (endCells pos streams) = 0 ∧
      chunkText (endCells pos streams) = cursorDigits pos streams.length + 53 * streams.length
  | [], pos, _, _ => by simp [endCells, Contiguous, EofIsLast, outputBytes, chunkText, cursorDigits]
  | stream :: streams, pos, hn, hsp => by
    obtain ⟨hnm, hr⟩ := List.nodup_cons.mp hn
    rw [List.length_cons] at hsp
    obtain ⟨hrs, hst, hef, hb, ht⟩ := endCells_spec hr
      (show pos + 1 + streams.length ≤ u64Max by omega)
    refine ⟨⟨by simp [OutputChunk.WellFormed], rfl, by show pos + 1 ≤ u64Max; omega, hrs⟩,
      ?_, ⟨fun _ later hl heq => ?_, hef⟩, ?_, ?_⟩
    · intro chunk hc
      rcases List.mem_cons.mp hc with rfl | hc
      · exact List.mem_cons_self
      · exact List.mem_cons_of_mem _ (hst chunk hc)
    · have hs : later.stream = stream := heq
      exact hnm (hs ▸ hst later hl)
    · rw [endCells, outputBytes_cons, hb]
      rfl
    · rw [endCells, chunkText_cons, ht, OutputChunk.size_json, List.length_cons, cursorDigits]
      simp only [byteText, List.map_nil, List.sum_nil, if_true]
      omega

/-- **The ceiling is reached.** The longest response is an accepted one. -/
theorem longestOutput_spec (maxBytes : Nat) (hp : pos ≤ u64Max) :
    validateOutputChunks (longestOutput pos maxBytes) pos maxBytes = .ok () ∧
      EofIsLast (longestOutput pos maxBytes) ∧
      chunkText (longestOutput pos maxBytes) = outputCeiling pos maxBytes := by
  have hn : ([OutputStream.stdout, .stderr].take (mostEnds pos maxBytes)).length =
      mostEnds pos maxBytes := by
    unfold mostEnds
    simp
  have hs : pos + mostBytes pos maxBytes +
      ([OutputStream.stdout, .stderr].take (mostEnds pos maxBytes)).length ≤ u64Max := by
    rw [hn]
    unfold mostEnds mostBytes
    omega
  obtain ⟨hc, -, hef, hb, ht⟩ := endCells_spec
    (List.Nodup.sublist (List.take_sublist (mostEnds pos maxBytes) _)
      (show [OutputStream.stdout, .stderr].Nodup by decide)) hs
  obtain ⟨hc, hef, hb', ht'⟩ := byteCells_append
    (show pos + mostBytes pos maxBytes ≤ u64Max by omega) hc hef
  refine ⟨validateOutputChunks_eq_ok_iff.mpr ⟨hc, ?_⟩, hef, ?_⟩
  · rw [longestOutput, hb', hb]
    unfold mostBytes
    omega
  · rw [longestOutput, ht', ht, hn, outputCeiling, cursorDigits_add]
    omega

/-! ## Result -/

/-- The numbers of a request are within their machine types, and it is a write, a read or an
    upload. -/
structure ClientMessage.Transfers (message : ClientMessage) : Prop where
  protocol : message.protocol ≤ u64Max
  requestId : message.requestId ≤ u64Max
  numbers : message.request.Representable
  upload : ∀ request, message.request = .file request → request.op = .upload

/-- The payload's text and what stands around it stay within a frame: for a write the digits of its
    bytes, for a read the longest output it admits. -/
def ClientMessage.TextWithinFrame (message : ClientMessage) : Prop :=
  match message.request with
  | .writeStdin request => stdinOverhead message.protocol message.requestId request +
      byteText request.data ≤ SdkWire.maxFrameBytes + 1
  | .readOutput request => outputOverhead message.protocol message.requestId +
      outputCeiling request.afterSequence request.maxBytes ≤ SdkWire.maxFrameBytes + 1
  | .file _ => True

/-- The request is sent, and so is every response within its byte limit. -/
def ClientMessage.Fits (message : ClientMessage) : Prop :=
  (∃ frame, message.send = .ok frame) ∧ ∀ response, message.request.Answers response →
    ∃ frame, (ServerMessage.mk message.protocol message.requestId response).send = .ok frame

theorem ClientMessage.send_iff (msg : ClientMessage) : (∃ frame, msg.send = .ok frame) ↔
    msg.json.size ≤ SdkWire.maxFrameBytes :=
  frame_isOk_iff (by rw [ClientMessage.size_json]; omega)

theorem ServerMessage.send_iff (msg : ServerMessage) : (∃ frame, msg.send = .ok frame) ↔
    msg.json.size ≤ SdkWire.maxFrameBytes :=
  frame_isOk_iff (by rw [ServerMessage.size_json]; omega)

theorem writeStdin_fits_iff (h : (ClientMessage.mk protocol requestId (.writeStdin r)).Transfers) :
    (ClientMessage.mk protocol requestId (.writeStdin r)).Fits ↔
      stdinOverhead protocol requestId r + byteText r.data ≤ SdkWire.maxFrameBytes + 1 := by
  have hp : digitCount protocol ≤ 20 := digitCount_le_twenty h.protocol
  have hr : digitCount requestId ≤ 20 := digitCount_le_twenty h.requestId
  obtain ⟨hc, hcn⟩ := h.numbers
  have hrp : ∀ rp, (WireRequest.writeStdin r).Answers rp →
      ∃ frame, (ServerMessage.mk protocol requestId rp).send = .ok frame := by
    rintro _ ⟨⟩
    rw [ServerMessage.send_iff, ServerMessage.size_json]
    simp [WireResponse.json, textSize_names, SdkWire.maxFrameBytes] at hp hr ⊢
    omega
  have ho : stdinOverhead protocol requestId r ≤ SdkWire.maxFrameBytes := by
    have := r.context.operationId.length_le
    have := r.process.processId.length_le
    have := r.process.container.id.length_le
    have := numberField_le 20 hc
    have := numberField_le 14 hcn
    simp only [stdinOverhead, SdkWire.maxFrameBytes] at *
    omega
  rw [ClientMessage.Fits, ClientMessage.send_iff, ClientMessage.size_writeStdin, and_iff_left hrp]
  omega

theorem readOutput_fits_iff (hv : r.validate = .ok ())
    (h : (ClientMessage.mk protocol requestId (.readOutput r)).Transfers) :
    (ClientMessage.mk protocol requestId (.readOutput r)).Fits ↔
      outputOverhead protocol requestId + outputCeiling r.afterSequence r.maxBytes ≤
        SdkWire.maxFrameBytes + 1 := by
  have hp : digitCount protocol ≤ 20 := digitCount_le_twenty h.protocol
  have hrq : digitCount requestId ≤ 20 := digitCount_le_twenty h.requestId
  obtain ⟨hcn, ha, hw⟩ := h.numbers
  simp only [ReadOutputRequest.validate, validatePositiveBounded, rejectIf_eq_ok, not_or,
    Nat.not_lt] at hv
  have hb : r.maxBytes ≤ u64Max := hv.2.trans (by decide)
  have hr : ∃ frame, (ClientMessage.mk protocol requestId (.readOutput r)).send = .ok frame := by
    have hsz := ReadOutputRequest.size_json_le hcn ha hb hw
    rw [ClientMessage.send_iff, ClientMessage.size_json]
    simp [WireRequest.json, textSize_names, SdkWire.maxFrameBytes] at hp hrq ⊢
    omega
  rw [ClientMessage.Fits, and_iff_right hr]
  constructor
  · -- the longest response is one of them
    intro hal
    obtain ⟨hac, hef, ht⟩ := longestOutput_spec r.maxBytes ha
    have hs := (ServerMessage.send_iff _).mp (hal _ (.readOutput hac hef))
    rw [ServerMessage.size_readOutput, ht] at hs
    dsimp only at hs
    omega
  · rintro hcl _ (@⟨_, chunks, hac, hef⟩)
    obtain ⟨hc, hl⟩ := validateOutputChunks_eq_ok_iff.mp hac
    have ht := chunkText_le_ceiling ha hc hl hef
    have ho : outputOverhead protocol requestId ≤ SdkWire.maxFrameBytes := by
      simp only [outputOverhead, SdkWire.maxFrameBytes]
      omega
    rw [ServerMessage.send_iff, ServerMessage.size_readOutput]
    dsimp only
    omega

theorem upload_fits (hv : r.validate base64 = .ok ())
    (h : (ClientMessage.mk protocol requestId (.file r)).Transfers) :
    (ClientMessage.mk protocol requestId (.file r)).Fits := by
  have hp : digitCount protocol ≤ 20 := digitCount_le_twenty h.protocol
  have hr : digitCount requestId ≤ 20 := digitCount_le_twenty h.requestId
  obtain ⟨ht, hc⟩ := h.numbers
  refine ⟨?_, ?_⟩
  · have hs := FileRequest.size_json_le hv (h.upload r rfl) ht hc
    rw [ClientMessage.send_iff, ClientMessage.size_json]
    simp [WireRequest.json, textSize_names, SdkWire.maxFrameBytes] at hp hr ⊢
    omega
  · rintro _ (_ | _ | ⟨_, hd, ht, hs⟩)
    have hs := FileResponse.size_json_le hd ht hs
    rw [ServerMessage.send_iff, ServerMessage.size_json]
    simp [WireResponse.json, textSize_names, SdkWire.maxFrameBytes] at hp hr ⊢
    omega

/-- **Frames of valid requests.** A valid stdin write, read or upload is sent, and so is every
    response within its byte limit, exactly when its text stays within a frame. -/
theorem payload_frames_fit_iff (base64 : Base64) (message : ClientMessage)
    (hval : message.request.validate base64 = .ok ()) (htrn : message.Transfers) :
    message.Fits ↔ message.TextWithinFrame := by
  obtain ⟨protocol, requestId, request⟩ := message
  cases request with
  | readOutput request => exact readOutput_fits_iff hval htrn
  | writeStdin request => exact writeStdin_fits_iff htrn
  | file request => exact iff_of_true (upload_fits hval htrn) trivial

namespace Sample

/-- A decoder that only checks the alphabet. -/
def base64 : Base64 where
  decode text := if text.toList.all base64Char then .ok [] else .error "invalid symbol"
  alphabet := by
    intro text data h
    split at h
    · rename_i ha
      exact List.all_eq_true.mp ha
    · cases h

def operation : OperationContext := ⟨⟨⟨"write", by decide⟩⟩, none⟩

theorem web_valid : identifierFault "web" = none := by decide

def process : ProcessTarget := ⟨.exact ⟨⟨"web", web_valid⟩⟩ 1, .init⟩

/-- A write on the newest protocol. -/
def write (data : List UInt8) : ClientMessage := ⟨9, 1, .writeStdin ⟨operation, process, data⟩⟩

theorem write_transfers (data : List UInt8) : (write data).Transfers where
  protocol := by simp [write, u64Max]
  requestId := by simp [write, u64Max]
  numbers := by simp [write, WireRequest.Representable, operation, process,
    OperationContext.Representable, ContainerTarget.Representable, ContainerTarget.exact, u64Max]
  upload := nofun

/-- The largest write that validation admits, of bytes with three digits. -/
def fullWrite : ClientMessage := write (List.replicate maxStdinWriteBytes 255)

/-- The largest read that validation admits. -/
def fullRead : ReadOutputRequest := ⟨process, 0, maxOutputReadBytes, none⟩

end Sample

theorem payload_frames_fit_short : (Sample.write [104, 105]).Fits :=
  (payload_frames_fit_iff Sample.base64 (Sample.write [104, 105]) (by decide)
    (Sample.write_transfers _)).mpr (by
      show stdinOverhead 9 1 _ + byteText _ ≤ _
      decide)

theorem byteText_replicate (n : Nat) : byteText (List.replicate n 255) = 4 * n := by
  induction n with
  | zero => rfl
  | succ n ih =>
    have hd : digitCount (255 : UInt8).toNat = 3 := by decide
    rw [byteText] at ih ⊢
    rw [List.replicate_succ, List.map_cons, List.sum_cons, ih, hd]
    omega

/-- Bytes of three digits need four characters each. -/
theorem Sample.write_exceeds (h : SdkWire.maxFrameBytes ≤ 4 * n) (frame : List UInt8) :
    (Sample.write (List.replicate n 255)).send ≠ .ok frame := by
  intro hsn
  have hs := (ClientMessage.send_iff _).mp ⟨frame, hsn⟩
  rw [Sample.write, ClientMessage.size_writeStdin, byteText_replicate] at hs
  unfold stdinOverhead at hs
  omega

theorem Sample.write_valid (h : n ≤ maxStdinWriteBytes) :
    (Sample.write (List.replicate n 255)).request.validate Sample.base64 = .ok () := by
  show WriteStdinRequest.validate _ = _
  rw [WriteStdinRequest.validate, List.length_replicate, if_neg (by omega)]

/-- So many bytes in chunks of their own need 57 characters each. -/
theorem longestOutput_exceeds (hn : n ≤ u64Max) (h : SdkWire.maxFrameBytes ≤ 57 * n)
    (frame : List UInt8) : (ServerMessage.mk 9 1 (.readOutput (longestOutput 0 n))).send ≠
      .ok frame := by
  intro hsn
  have hs := (ServerMessage.send_iff _).mp ⟨frame, hsn⟩
  obtain ⟨-, -, ht⟩ := longestOutput_spec n (Nat.zero_le u64Max)
  have hb : mostBytes 0 n = n := by
    unfold mostBytes
    omega
  rw [ServerMessage.size_readOutput, ht, outputCeiling, hb] at hs
  unfold outputOverhead at hs
  omega

/-- **Full payloads do not fit.** The largest valid write is refused by the transport, and the
    largest valid read has an accepted response that is. -/
theorem full_payloads_exceed_frame : (Sample.fullWrite.request.validate Sample.base64 = .ok () ∧
      ∀ frame, Sample.fullWrite.send ≠ .ok frame) ∧
    (Sample.fullRead.validate = .ok () ∧ ∃ chunks,
      (WireRequest.readOutput Sample.fullRead).Answers (.readOutput chunks) ∧
        ∀ frame, (ServerMessage.mk 9 1 (.readOutput chunks)).send ≠ .ok frame) := by
  have hw : SdkWire.maxFrameBytes ≤ 4 * maxStdinWriteBytes := by decide
  have hr : SdkWire.maxFrameBytes ≤ 57 * maxOutputReadBytes := by decide
  obtain ⟨ha, hef, -⟩ := longestOutput_spec maxOutputReadBytes (Nat.zero_le u64Max)
  exact ⟨⟨Sample.write_valid Nat.le.refl, Sample.write_exceeds hw⟩, by decide,
    longestOutput 0 maxOutputReadBytes, .readOutput ha hef,
    longestOutput_exceeds (by decide) hr⟩

end OciRuntime
