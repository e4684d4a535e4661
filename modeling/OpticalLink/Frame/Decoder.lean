import OpticalLink.Frame.Encoding

/-!
# The frame decoder

One byte at a time, the decoder finds frames in a stream and gives out the
unescaped payload of each complete one that is not empty. Its state after a
stream does not depend on how the stream was cut into pieces (`feed_append`).
-/

namespace OpticalLink

/-- Where the decoder stands in the stream. -/
inductive DecoderPhase where
  /-- Between frames. -/
  | idle
  /-- Between frames, the next byte is escaped. -/
  | idleEscaped
  /-- In a frame with the bytes collected so far. -/
  | inside (collected : Array UInt8)
  /-- In a frame, the next byte is escaped. -/
  | insideEscaped (collected : Array UInt8)
deriving DecidableEq, Repr

/-- A frame decoder with its payload limit. -/
structure FrameDecoder where
  limit : Nat
  phase : DecoderPhase
  /-- Frames dropped because they exceeded the limit. -/
  oversized : Nat
deriving DecidableEq, Repr

namespace FrameDecoder

/-- A decoder between frames. -/
def withLimit (limit : Nat) : FrameDecoder := ⟨limit, .idle, 0⟩

/-- A decoder that accepts every frame of legal length. -/
def new : FrameDecoder := withLimit Frame.maxLength

/-- Whether no frame is under way. -/
def isIdle (decoder : FrameDecoder) : Bool :=
  match decoder.phase with
  | .idle | .idleEscaped => true
  | .inside _ | .insideEscaped _ => false

/-- Takes one more byte into the frame; a frame that grows beyond the limit is
dropped. -/
def append (limit oversized : Nat) (collected : Array UInt8) (byte : UInt8) : FrameDecoder :=
  if collected.size + 1 > limit then ⟨limit, .idle, oversized + 1⟩
  else ⟨limit, .inside (collected.push byte), oversized⟩

/-- The decoder after one byte, with the payload that the byte completed. -/
def step (decoder : FrameDecoder) (byte : UInt8) : FrameDecoder × Option Bytes :=
  match decoder with
  | ⟨limit, .idle, oversized⟩ =>
    if byte = Frame.startMarker then (⟨limit, .inside #[], oversized⟩, none)
    else if byte = Frame.escapeMarker then (⟨limit, .idleEscaped, oversized⟩, none)
    else (⟨limit, .idle, oversized⟩, none)
  | ⟨limit, .idleEscaped, oversized⟩ => (⟨limit, .idle, oversized⟩, none)
  | ⟨limit, .inside collected, oversized⟩ =>
    if byte = Frame.escapeMarker then (⟨limit, .insideEscaped collected, oversized⟩, none)
    else if byte = Frame.endMarker then
      (⟨limit, .idle, oversized⟩, if collected.isEmpty then none else some collected.toList)
    else (append limit oversized collected byte, none)
  | ⟨limit, .insideEscaped collected, oversized⟩ =>
    (append limit oversized collected byte, none)

/-- One step of `feed`. -/
def feedStep (state : FrameDecoder × Array Bytes) (byte : UInt8) :
    FrameDecoder × Array Bytes :=
  match state with
  | (decoder, payloads) =>
    match decoder.step byte with
    | (next, none) => (next, payloads)
    | (next, some payload) => (next, payloads.push payload)

/-- The decoder after a piece of the stream, with the payloads completed in it. -/
def feed (decoder : FrameDecoder) (bytes : Bytes) : FrameDecoder × List Bytes :=
  let (next, payloads) := bytes.foldl feedStep (decoder, #[])
  (next, payloads.toList)

/-- Payloads found earlier stand before those found later. -/
theorem foldl_feedStep (decoder : FrameDecoder) (payloads : Array Bytes) (bytes : Bytes) :
    bytes.foldl feedStep (decoder, payloads) =
      ((bytes.foldl feedStep (decoder, #[])).1,
        payloads ++ (bytes.foldl feedStep (decoder, #[])).2) := by
  induction bytes generalizing decoder payloads with
  | nil => simp
  | cons byte rest ih =>
    simp only [List.foldl_cons, feedStep]
    split
    next next stepped => rw [ih]
    next next payload stepped =>
      rw [ih, ih next (#[].push payload)]
      simp

/-- A stream may be cut anywhere. -/
theorem feed_append (decoder : FrameDecoder) (first second : Bytes) :
    decoder.feed (first ++ second) =
      (((decoder.feed first).1.feed second).1,
        (decoder.feed first).2 ++ ((decoder.feed first).1.feed second).2) := by
  simp only [feed, List.foldl_append]
  rw [foldl_feedStep]
  simp

end FrameDecoder

end OpticalLink
