import OpticalLink.Fault
import OpticalLink.Message.Summary
import OpticalLink.Message.Wire

/-!
# Frames

A frame is a payload between a start and an end marker. A payload byte that
looks like a marker is sent behind an escape marker.
-/

namespace OpticalLink

/-- Why a message cannot be framed, sent or received. -/
inductive FrameError where
  /-- The frame would exceed a size limit. -/
  | tooLarge (size limit : Nat)
  /-- The message itself cannot be written. -/
  | message (error : MessageError)
  /-- The channel failed. -/
  | transport (error : TransportError)
deriving DecidableEq, Repr

/-- The text of a frame error. -/
def FrameError.text : FrameError → String
  | .tooLarge size limit =>
    "frame too large (" ++ toString size ++ " bytes, max " ++ toString limit ++ ")"
  | .message error => "frame payload error: " ++ error.text
  | .transport error => "frame transport error: " ++ error.text

namespace Frame

/-- Opens a frame. -/
def startMarker : UInt8 := 0xF1

/-- Closes a frame. -/
def endMarker : UInt8 := 0xF2

/-- Stands before a payload byte that looks like a marker. -/
def escapeMarker : UInt8 := 0xF3

/-- The largest frame, on the wire and unescaped. -/
def maxLength : Nat := 131070

/-- Whether a byte must not stand for itself inside a frame. -/
def isMarker (byte : UInt8) : Bool :=
  byte == startMarker || byte == endMarker || byte == escapeMarker

/-- A payload byte as it is sent. -/
def escape (byte : UInt8) : Bytes :=
  if isMarker byte then [escapeMarker, byte] else [byte]

/-- A whole payload as it is sent, without the outer markers. -/
def escapeAll (payload : Bytes) : Bytes := payload.flatMap escape

/-- The frame around a payload. -/
def wrap (payload : Bytes) : Bytes :=
  startMarker :: escapeAll payload ++ [endMarker]

/-- The size of the frame around a payload. -/
def wrappedSize (payload : Bytes) : Nat :=
  payload.length + payload.countP isMarker + 2

/-- The frame around a payload, if it is within `capacity` and `maxLength`. -/
def encode (payload : Bytes) (capacity : Nat) : Except FrameError Bytes :=
  let size := wrappedSize payload
  let limit := min capacity maxLength
  if size > limit then .error (.tooLarge size limit) else .ok (wrap payload)

/-- Appends the frame around a payload to a buffer, which stays as it is if there is no such
frame. -/
def appendTo (payload buffer : Bytes) (capacity : Nat) : Except FrameError Unit × Bytes :=
  match encode payload capacity with
  | .error error => (.error error, buffer)
  | .ok frame => (.ok (), buffer ++ frame)

/-- The frame around a serialized message. -/
def ofMessage (message : Message) (capacity : Nat) : Except FrameError Bytes :=
  encode message.serialize capacity

/-- The predicted size is the size of the frame. -/
theorem length_wrap (payload : Bytes) : (wrap payload).length = wrappedSize payload := by
  have escaped : (escapeAll payload).length = payload.length + payload.countP isMarker := by
    induction payload with
    | nil => rfl
    | cons byte rest ih =>
      simp only [escapeAll, List.flatMap_cons, List.length_append, List.length_cons,
        List.countP_cons] at ih ⊢
      rw [ih]
      by_cases marker : isMarker byte <;> simp [escape, marker] <;> omega
  simp [wrap, wrappedSize, escaped]

variable {payload frame : Bytes} {capacity : Nat}

/-- A frame within both limits is made. -/
theorem encode_of_fits (fits : wrappedSize payload ≤ min capacity maxLength) :
    encode payload capacity = .ok (wrap payload) :=
  if_neg (Nat.not_lt.mpr fits)

/-- A frame that exceeds a limit is not made. -/
theorem encode_of_exceeds (exceeds : min capacity maxLength < wrappedSize payload) :
    encode payload capacity =
      .error (.tooLarge (wrappedSize payload) (min capacity maxLength)) :=
  if_pos exceeds

/-- The frame that is made is the one around the payload, and within both limits. -/
theorem encode_eq_ok_iff :
    encode payload capacity = .ok frame ↔
      wrappedSize payload ≤ min capacity maxLength ∧ frame = wrap payload := by
  constructor
  · intro encoded
    rcases Nat.lt_or_ge (min capacity maxLength) (wrappedSize payload) with exceeds | fits
    · rw [encode_of_exceeds exceeds] at encoded
      cases encoded
    · rw [encode_of_fits fits] at encoded
      exact ⟨fits, (Except.ok.inj encoded).symm⟩
  · rintro ⟨fits, rfl⟩
    exact encode_of_fits fits

/-- A payload that can be framed is shorter than the largest frame. -/
theorem length_le_of_encode_eq_ok (encoded : encode payload capacity = .ok frame) :
    payload.length ≤ maxLength := by
  have fits := (encode_eq_ok_iff.mp encoded).1
  rw [wrappedSize] at fits
  omega

end Frame

end OpticalLink
