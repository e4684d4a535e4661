import OpticalLink.Proofs.Frame.Tokens

/-!
# Frames among noise

The content of a frame is sent in tokens that neither open nor close a frame, whatever bytes
it has (`Frame.Token.Content`). So a frame is found again between noise, and one that exceeds
the limit is dropped as a whole (`FrameDecoder.feed_segments`). A decoder that is caught in
the middle of something, or that has missed the start of a frame, spends at most one frame to
get back in step (`FrameDecoder.feed_wrap_any`, `FrameDecoder.feed_accepted`).
-/

namespace OpticalLink

namespace Frame

/-! ## Frames as tokens -/

namespace Token

/-- Whether a token neither opens nor closes a frame. -/
def Content (token : Token) : Prop := token ≠ .raw startMarker ∧ token ≠ .raw endMarker

/-- The token that a payload byte is sent as. -/
def ofByte (byte : UInt8) : Token := if isMarker byte then .literal byte else .raw byte

@[simp] theorem byte_ofByte (byte : UInt8) : (ofByte byte).byte = byte := by
  unfold ofByte
  split <;> rfl

/-- A payload byte is sent as its token stands in a stream. -/
theorem wire_ofByte (byte : UInt8) : (ofByte byte).wire = escape byte := by
  unfold ofByte escape
  split <;> rfl

/-- A payload byte that looks like a marker is never sent as one. -/
theorem ofByte_ne_raw {byte marker : UInt8} (marks : isMarker marker = true) :
    ofByte byte ≠ .raw marker := by
  unfold ofByte
  split
  next => exact Token.noConfusion
  next plain =>
    intro same
    injection same with same
    rw [same] at plain
    exact plain marks

/-- Payload bytes are sent as content. -/
theorem content_ofByte (byte : UInt8) : (ofByte byte).Content :=
  ⟨ofByte_ne_raw rfl, ofByte_ne_raw rfl⟩

end Token

/-- The tokens of a payload and the end marker behind it. -/
def bodyTokens (payload : Bytes) : List Token :=
  payload.map Token.ofByte ++ [.raw endMarker]

/-- An escape marker is never a token of its own in a frame, even if the frame is opened by
something else than a start marker. -/
theorem ne_escape_of_mem_frame {opening : Token} (notEscape : opening ≠ .raw escapeMarker)
    (payload : Bytes) : ∀ token ∈ opening :: bodyTokens payload, token ≠ .raw escapeMarker := by
  intro token member
  rcases List.mem_cons.mp member with rfl | member
  · exact notEscape
  · rcases List.mem_append.mp member with sent | last
    · obtain ⟨byte, _, rfl⟩ := List.mem_map.mp sent
      exact Token.ofByte_ne_raw rfl
    · rw [List.mem_singleton.mp last]
      decide

/-- A payload is sent as the tokens of its bytes. -/
theorem escapeAll_eq (payload : Bytes) :
    escapeAll payload = (payload.map Token.ofByte).flatMap Token.wire := by
  rw [List.flatMap_map, escapeAll]
  congr 1
  funext byte
  exact (Token.wire_ofByte byte).symm

/-- A frame is a start marker and its tokens. -/
theorem wrap_eq (payload : Bytes) :
    wrap payload = startMarker :: (bodyTokens payload).flatMap Token.wire := by
  rw [bodyTokens, List.flatMap_append, ← escapeAll_eq]
  rfl

/-! ## Scanning frames -/

variable {limit : Nat} {collected : Bytes} {tokens : List Token}

/-- Outside a frame, nothing is found up to a start marker. -/
theorem scan_outside (quiet : .raw startMarker ∉ tokens) :
    scan limit none tokens = ⟨[], 0, none⟩ := by
  induction tokens with
  | nil => rfl
  | cons token rest inductionHypothesis =>
    have other : token ≠ .raw startMarker := fun same => quiet (same ▸ List.mem_cons_self)
    have others : .raw startMarker ∉ rest := fun member => quiet (List.mem_cons_of_mem token member)
    rw [scan, if_neg other, inductionHypothesis others]

/-- Outside a frame, the rest of a dropped frame is discarded. -/
theorem scan_rest_outside (content : ∀ token ∈ tokens, token.Content) :
    scan limit none (tokens ++ [.raw endMarker]) = ⟨[], 0, none⟩ := by
  refine scan_outside fun member => ?_
  rcases List.mem_append.mp member with inside | last
  · exact (content _ inside).1 rfl
  · exact absurd (List.mem_singleton.mp last) (by decide)

/-- Inside a frame, a token other than an end marker is taken in, or it drops the frame and
nothing is found in what is left of it. -/
theorem scan_rest_cons (limit : Nat) (collected : Bytes) {token : Token}
    (notEnd : token ≠ .raw endMarker) (content : ∀ other ∈ tokens, other.Content) :
    scan limit (some collected) (token :: (tokens ++ [.raw endMarker])) =
      if collected.length + 1 > limit then ⟨[], 1, none⟩
      else scan limit (some (collected ++ [token.byte])) (tokens ++ [.raw endMarker]) := by
  rw [scan, if_neg notEnd, scan_rest_outside content, List.length_append, List.length_singleton]
  rfl

/-- Inside a frame, an end marker closes it. -/
theorem scan_endMarker (limit : Nat) (collected : Bytes) :
    scan limit (some collected) [.raw endMarker] = Scan.emit collected ⟨[], 0, none⟩ := by
  rw [scan, if_pos rfl, scan_nil]

/-- Inside a frame, the rest of it completes a payload if that is within the limit, and drops
the frame otherwise. -/
theorem scan_rest_inside (content : ∀ token ∈ tokens, token.Content)
    (within : collected.length ≤ limit) :
    scan limit (some collected) (tokens ++ [.raw endMarker]) =
      if collected.length + tokens.length ≤ limit then
        Scan.emit (collected ++ tokens.map Token.byte) ⟨[], 0, none⟩
      else ⟨[], 1, none⟩ := by
  induction tokens generalizing collected with
  | nil => simp [scan_endMarker, within]
  | cons token rest inductionHypothesis =>
    have notEnd : token ≠ .raw endMarker := (content token List.mem_cons_self).2
    have others : ∀ other ∈ rest, other.Content :=
      fun other member => content other (List.mem_cons_of_mem token member)
    rw [List.cons_append, scan_rest_cons limit collected notEnd others]
    by_cases exceeds : collected.length + 1 > limit
    · have tooLong : ¬ collected.length + (token :: rest).length ≤ limit := by
        rw [List.length_cons]
        omega
      rw [if_pos exceeds, if_neg tooLong]
    · have fits : (collected ++ [token.byte]).length ≤ limit := by
        rw [List.length_append, List.length_singleton]
        omega
      have size_eq : (collected ++ [token.byte]).length + rest.length =
          collected.length + (token :: rest).length := by
        simp only [List.length_append, List.length_cons, List.length_nil]
        omega
      rw [if_neg exceeds, inductionHypothesis others fits, size_eq, List.append_assoc]
      rfl

/-- The payload bytes of a frame are sent as content. -/
theorem content_of_mem_map_ofByte (payload : Bytes) :
    ∀ token ∈ payload.map Token.ofByte, token.Content := by
  intro token member
  obtain ⟨byte, _, rfl⟩ := List.mem_map.mp member
  exact Token.content_ofByte byte

/-- However much is collected, the rest of a frame closes it. It gives a payload or drops a
frame, but not both. -/
theorem scan_rest_closes (limit : Nat) (collected : Bytes)
    (content : ∀ token ∈ tokens, token.Content) :
    let found := scan limit (some collected) (tokens ++ [.raw endMarker])
    found.frame = none ∧ found.payloads.length + found.oversized ≤ 1 := by
  induction tokens generalizing collected with
  | nil =>
    rw [List.nil_append, scan_endMarker, Scan.emit]
    split <;> simp
  | cons token rest inductionHypothesis =>
    have notEnd : token ≠ .raw endMarker := (content token List.mem_cons_self).2
    have others : ∀ other ∈ rest, other.Content :=
      fun other member => content other (List.mem_cons_of_mem token member)
    rw [List.cons_append, scan_rest_cons limit collected notEnd others]
    split
    next => exact ⟨rfl, Nat.le_refl 1⟩
    next => exact inductionHypothesis (collected ++ [token.byte]) others

/-- Whatever is open, a frame closes it, even if its first token is not seen as a start marker.
It gives a payload or drops a frame, or neither, but not both. -/
theorem scan_closes (limit : Nat) (frame : Option Bytes) {opening : Token}
    (notEnd : opening ≠ .raw endMarker) (content : ∀ token ∈ tokens, token.Content) :
    let found := scan limit frame (opening :: (tokens ++ [.raw endMarker]))
    found.frame = none ∧ found.payloads.length + found.oversized ≤ 1 := by
  cases frame with
  | none =>
    rw [scan]
    split
    next => exact scan_rest_closes limit [] content
    next =>
      rw [scan_rest_outside content]
      exact ⟨rfl, Nat.zero_le 1⟩
  | some collected =>
    rw [scan_rest_cons limit collected notEnd content]
    split
    next => exact ⟨rfl, Nat.le_refl 1⟩
    next => exact scan_rest_closes limit (collected ++ [opening.byte]) content

/-- Whether a payload is handed on. -/
def Accepted (limit : Nat) (payload : Bytes) : Prop :=
  1 ≤ payload.length ∧ payload.length ≤ limit

instance (limit : Nat) (payload : Bytes) : Decidable (Accepted limit payload) :=
  inferInstanceAs (Decidable (_ ∧ _))

/-- Outside a frame, a whole frame is found exactly once. -/
theorem scan_frame (payload : Bytes) :
    scan limit none (.raw startMarker :: bodyTokens payload) =
      ⟨[payload].filter (Accepted limit ·), [payload].countP (limit < ·.length), none⟩ := by
  have content := content_of_mem_map_ofByte payload
  have bytes_eq : (payload.map Token.ofByte).map Token.byte = payload := by
    rw [List.map_map]
    exact (List.map_congr_left fun byte _ => Token.byte_ofByte byte).trans (List.map_id payload)
  rw [scan, if_pos rfl, bodyTokens, scan_rest_inside content (Nat.zero_le limit), List.nil_append,
    bytes_eq]
  by_cases within : payload.length ≤ limit
  · by_cases empty : payload = []
    · simp [Scan.emit, Accepted, empty]
    · have positive : 1 ≤ payload.length := List.length_pos_iff.mpr empty
      simp [Scan.emit, Accepted, empty, within, positive]
  · simp [Accepted, within]

/-- Bytes between frames: outside a frame they open none, and they take nothing of what
follows them. -/
structure IsNoise (bytes : Bytes) : Prop where
  opensNothing : .raw startMarker ∉ tokenize bytes
  complete : endsEscaped bytes = false

/-- A payload with the frame that encoding gives for it. -/
structure Encoded where
  payload : Bytes
  bytes : Bytes
  encoded : ∃ capacity, encode payload capacity = .ok bytes

namespace Encoded

/-- What encoding gives is the frame around the payload. -/
theorem bytes_eq (frame : Encoded) : frame.bytes = wrap frame.payload := by
  obtain ⟨capacity, encoded⟩ := frame.encoded
  exact (encode_eq_ok_iff.mp encoded).2

/-- A payload that can be encoded is shorter than the largest frame. -/
theorem length_payload_le (frame : Encoded) : frame.payload.length ≤ maxLength := by
  obtain ⟨capacity, encoded⟩ := frame.encoded
  exact length_le_of_encode_eq_ok encoded

end Encoded

/-- A part of a stream. -/
inductive Segment where
  | frame (encoded : Encoded)
  | noise (bytes : Bytes) (isNoise : IsNoise bytes)

namespace Segment

/-- A part of a stream as it stands there. -/
def bytes : Segment → Bytes
  | .frame encoded => encoded.bytes
  | .noise bytes _ => bytes

/-- The payload of a part of a stream, if it is a frame. -/
def payload? : Segment → Option Bytes
  | .frame encoded => some encoded.payload
  | .noise _ _ => none

end Segment

end Frame

namespace FrameDecoder

open OpticalLink.Frame (Token Segment Encoded Accepted bodyTokens startMarker endMarker
  escapeMarker)

variable {limit oversized : Nat}

/-- Between frames, a frame is found exactly once. -/
theorem feed_wrap_idle (payload : Bytes) :
    feed ⟨limit, .idle, oversized⟩ (Frame.wrap payload) =
      (⟨limit, .idle, oversized + [payload].countP (limit < ·.length)⟩,
        [payload].filter (Accepted limit ·)) := by
  have opening : Token.raw startMarker ≠ .raw escapeMarker := by decide
  have fed := feed_tokens limit oversized none (Frame.ne_escape_of_mem_frame opening payload)
  rw [Frame.scan_frame] at fed
  rw [Frame.wrap_eq]
  exact fed

/-- Between frames, nothing comes of noise. -/
theorem feed_noise {bytes : Bytes} (noise : Frame.IsNoise bytes) :
    feed ⟨limit, .idle, oversized⟩ bytes = (⟨limit, .idle, oversized⟩, []) := by
  have fed := feed_eq_scan limit oversized none bytes
  rw [Frame.scan_outside noise.opensNothing, noise.complete] at fed
  exact fed

/-- Between frames, the frames of a stream are found in their order. -/
theorem feed_segments (limit oversized : Nat) (segments : List Segment) :
    feed ⟨limit, .idle, oversized⟩ (segments.flatMap Segment.bytes) =
      (⟨limit, .idle,
          oversized + (segments.filterMap Segment.payload?).countP (limit < ·.length)⟩,
        (segments.filterMap Segment.payload?).filter (Accepted limit ·)) := by
  induction segments generalizing oversized with
  | nil => rfl
  | cons segment rest inductionHypothesis =>
    rw [List.flatMap_cons, feed_append]
    cases segment with
    | frame encoded =>
      have payloads_eq : (Segment.frame encoded :: rest).filterMap Segment.payload? =
          [encoded.payload] ++ rest.filterMap Segment.payload? := rfl
      rw [Segment.bytes, encoded.bytes_eq, feed_wrap_idle, inductionHypothesis, payloads_eq,
        List.filter_append, List.countP_append, Nat.add_assoc]
    | noise bytes isNoise =>
      have payloads_eq : (Segment.noise bytes isNoise :: rest).filterMap Segment.payload? =
          rest.filterMap Segment.payload? := rfl
      rw [Segment.bytes, feed_noise isNoise, inductionHypothesis, payloads_eq, List.nil_append]

/-- Of a stream of frames and noise, a new decoder gives exactly the payloads that are not
empty and within its limit, and counts exactly those that exceed it. With the default limit,
no frame that can be encoded exceeds it. -/
theorem feed_frames_among_noise (limit : Nat) (segments : List Segment) :
    let payloads := segments.filterMap Segment.payload?
    let stream := segments.flatMap Segment.bytes
    (withLimit limit).feed stream =
        (⟨limit, .idle, payloads.countP (limit < ·.length)⟩,
          payloads.filter fun payload => 1 ≤ payload.length ∧ payload.length ≤ limit) ∧
      (new.feed stream).1.oversized = 0 := by
  intro payloads stream
  have fed (limit : Nat) : (withLimit limit).feed stream =
      (⟨limit, .idle, payloads.countP (limit < ·.length)⟩, payloads.filter (Accepted limit ·)) := by
    have counted := feed_segments limit 0 segments
    rwa [Nat.zero_add] at counted
  refine ⟨fed limit, ?_⟩
  have none_exceeds : ∀ payload ∈ payloads, ¬ Frame.maxLength < payload.length := by
    intro payload member
    obtain ⟨segment, _, found⟩ := List.mem_filterMap.mp member
    cases segment with
    | frame encoded =>
      rw [← Option.some.inj found]
      exact Nat.not_lt.mpr encoded.length_payload_le
    | noise bytes isNoise => cases found
  rw [new, fed, List.countP_eq_zero]
  simpa using none_exceeds

/-- An escaped start marker is noise, a frame of two bytes is within the limit, an empty one is
skipped, and one of three bytes is dropped. -/
example :
    (withLimit 2).feed ([0x33, 0xF3, 0xF1, 0xF2] ++ Frame.wrap [0xF1, 0xF2] ++ [0xF3, 0xF3] ++
      Frame.wrap [] ++ Frame.wrap [1, 0xF1, 2] ++ Frame.wrap [7]) =
      (⟨2, .idle, 1⟩, [[0xF1, 0xF2], [7]]) := by
  decide

/-! ## Getting back in step -/

/-- A decoder reads the start of a frame as a start marker or, behind an escape marker, as a
byte like any other. -/
theorem exists_feed_wrap_eq (limit oversized : Nat) (frame : Option Bytes) (escaped : Bool)
    (payload : Bytes) :
    ∃ opening, opening ≠ Token.raw endMarker ∧ opening ≠ .raw escapeMarker ∧
      feed ⟨limit, .ofFrame frame escaped, oversized⟩ (Frame.wrap payload) =
        feed ⟨limit, .ofFrame frame false, oversized⟩
          ((opening :: bodyTokens payload).flatMap Token.wire) := by
  cases escaped with
  | false => exact ⟨.raw startMarker, by decide, by decide, by rw [Frame.wrap_eq]; rfl⟩
  | true =>
    refine ⟨.literal startMarker, by decide, by decide, ?_⟩
    rw [Frame.wrap_eq, ← feed_escapeMarker_cons]
    rfl

/-- Whatever a decoder is in the middle of, it is between frames after a frame. It has given a
payload or dropped a frame, or neither. -/
theorem feed_wrap_any (decoder : FrameDecoder) (payload : Bytes) :
    ∃ dropped emitted, decoder.feed (Frame.wrap payload) =
        (⟨decoder.limit, .idle, decoder.oversized + dropped⟩, emitted) ∧
      emitted.length + dropped ≤ 1 := by
  obtain ⟨limit, phase, oversized⟩ := decoder
  obtain ⟨frame, escaped, rfl⟩ := phase.exists_eq_ofFrame
  obtain ⟨opening, notEnd, notEscape, read⟩ :=
    exists_feed_wrap_eq limit oversized frame escaped payload
  have readable := Frame.ne_escape_of_mem_frame notEscape payload
  obtain ⟨closed, atMostOne⟩ := Frame.scan_closes limit frame notEnd
    (Frame.content_of_mem_map_ofByte payload)
  refine ⟨_, _, ?_, atMostOne⟩
  rw [read, feed_tokens limit oversized frame readable]
  rw [← bodyTokens] at closed ⊢
  rw [closed]
  rfl

/-- Between frames, frames within the limit are all found. -/
theorem feed_accepted {frames : List Encoded}
    (within : ∀ encoded ∈ frames,
      1 ≤ encoded.payload.length ∧ encoded.payload.length ≤ limit) :
    feed ⟨limit, .idle, oversized⟩ (frames.flatMap Encoded.bytes) =
      (⟨limit, .idle, oversized⟩, frames.map Encoded.payload) := by
  induction frames with
  | nil => rfl
  | cons encoded rest inductionHypothesis =>
    obtain ⟨positive, fits⟩ := within encoded List.mem_cons_self
    have nonempty : encoded.payload ≠ [] := List.length_pos_iff.mp positive
    have others := inductionHypothesis
      fun other member => within other (List.mem_cons_of_mem encoded member)
    rw [List.flatMap_cons, feed_append, encoded.bytes_eq, feed_wrap nonempty fits, others]
    rfl

end FrameDecoder

end OpticalLink
