import OpticalLink.Frame.Decoder

/-!
# The frame decoder with one buffer

The decoder as it is laid out: four states, one buffer that they share, and a count of 64 bits.
Between frames the buffer may still hold bytes; the next start marker clears it. A count that is
raised from its largest value wraps around to zero, or stops the program where sums are checked.
-/

namespace OpticalLink

/-- What becomes of a sum that has no room in its word. -/
inductive Overflow where
  | wraps
  | stops
deriving DecidableEq, Repr

/-- The next value of a count, or nothing if the program stops. -/
def Overflow.next? : Overflow → UInt64 → Option UInt64
  | .wraps, count => some (count + 1)
  | .stops, count => if count.toNat + 1 < UInt64.size then some (count + 1) else none

/-- Where a decoder stands in the stream. -/
inductive DecoderState where
  | waitStart
  | waitStartEscape
  | inFrame
  | afterEscape
deriving DecidableEq, Repr

/-- A frame decoder with one buffer for all its states. -/
structure BufferedDecoder where
  state : DecoderState
  buffer : Array UInt8
  limit : Nat
  /-- Frames dropped because they exceeded the limit. -/
  oversized : UInt64
deriving DecidableEq, Repr

namespace BufferedDecoder

/-- A decoder between frames. -/
def withLimit (limit : Nat) : BufferedDecoder := ⟨.waitStart, #[], limit, 0⟩

/-- Whether no frame is under way. -/
def isIdle (decoder : BufferedDecoder) : Bool :=
  decoder.state = .waitStart ∨ decoder.state = .waitStartEscape

variable (overflow : Overflow) (decoder : BufferedDecoder)

/-- Takes one more byte into the buffer, or drops the frame if that exceeds the limit. -/
def append (byte : UInt8) : Option BufferedDecoder :=
  let buffer := decoder.buffer.push byte
  if buffer.size > decoder.limit then
    (overflow.next? decoder.oversized).map fun oversized =>
      { decoder with state := .waitStart, buffer := #[], oversized }
  else some { decoder with buffer }

/-- The decoder after one byte, with the payload that the byte completed, unless the program
stops. -/
def step (byte : UInt8) : Option (BufferedDecoder × Option Bytes) :=
  match decoder.state with
  | .waitStart =>
    if byte = Frame.startMarker then
      some ({ decoder with state := .inFrame, buffer := #[] }, none)
    else if byte = Frame.escapeMarker then some ({ decoder with state := .waitStartEscape }, none)
    else some (decoder, none)
  | .waitStartEscape => some ({ decoder with state := .waitStart }, none)
  | .inFrame =>
    if byte = Frame.escapeMarker then some ({ decoder with state := .afterEscape }, none)
    else if byte = Frame.endMarker then
      if decoder.buffer.isEmpty then some ({ decoder with state := .waitStart }, none)
      else some ({ decoder with state := .waitStart, buffer := #[] }, some decoder.buffer.toList)
    else (decoder.append overflow byte).map (·, none)
  | .afterEscape => ({ decoder with state := .inFrame }.append overflow byte).map (·, none)

/-- The decoder after a piece of the stream, with the payloads completed in it, unless the program
stops. -/
def feed : BufferedDecoder → Bytes → Option (BufferedDecoder × List Bytes)
  | decoder, [] => some (decoder, [])
  | decoder, byte :: rest => do
    let (next, payload?) ← decoder.step overflow byte
    let (last, payloads) ← feed next rest
    return (last, payload?.toList ++ payloads)

end BufferedDecoder

end OpticalLink
