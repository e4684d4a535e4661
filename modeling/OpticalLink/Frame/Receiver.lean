import OpticalLink.Frame.Decoder

/-!
# Receivers

A receiver turns a byte stream into messages: it decodes frames, reads their
payloads and counts what it delivers and what it has to drop.
-/

namespace OpticalLink

/-- What became of the frames of a stream. -/
structure FrameStats where
  /-- Messages handed on. -/
  delivered : Nat
  /-- Frames dropped for their length. -/
  oversized : Nat
  /-- Frames whose payload is no message. -/
  rejected : Nat
deriving DecidableEq, Repr, Inhabited

/-- A frame decoder with the counters of the messages behind it. -/
structure Receiver where
  decoder : FrameDecoder
  delivered : Nat
  rejected : Nat
deriving DecidableEq, Repr

namespace Receiver

/-- A receiver at the start of a stream, with a payload limit. -/
def withLimit (limit : Nat) : Receiver := ⟨.withLimit limit, 0, 0⟩

/-- A receiver at the start of a stream. -/
def new : Receiver := withLimit Frame.maxLength

/-- The counters so far. -/
def stats (receiver : Receiver) : FrameStats :=
  ⟨receiver.delivered, receiver.decoder.oversized, receiver.rejected⟩

/-- The receiver after one byte, with the message that the byte completed. -/
def step (receiver : Receiver) (byte : UInt8) : Receiver × Option Message :=
  match receiver with
  | ⟨decoder, delivered, rejected⟩ =>
    match decoder.step byte with
    | (decoder, none) => (⟨decoder, delivered, rejected⟩, none)
    | (decoder, some payload) =>
      match Message.parse payload with
      | .ok message => (⟨decoder, delivered + 1, rejected⟩, some message)
      | .error _ => (⟨decoder, delivered, rejected + 1⟩, none)

/-- One step of `feed`. -/
def feedStep (state : Receiver × Array Message) (byte : UInt8) : Receiver × Array Message :=
  match state with
  | (receiver, messages) =>
    match receiver.step byte with
    | (next, none) => (next, messages)
    | (next, some message) => (next, messages.push message)

/-- The receiver after a piece of the stream, with the messages completed in it. -/
def feed (receiver : Receiver) (bytes : Bytes) : Receiver × List Message :=
  let (next, messages) := bytes.foldl feedStep (receiver, #[])
  (next, messages.toList)

end Receiver

end OpticalLink
