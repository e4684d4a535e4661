import OpticalLink.Proofs.Link.Sending
import OpticalLink.Proofs.Message.Kinds

/-!
# Requests

What a host asks for is a command, with a position to move to and a measured power as far as they are
given. `Message.request` is the family of these messages: they are canonical, and so short that each
of them fits a frame, whatever its values.
-/

namespace OpticalLink

namespace Message

/-- A command, and behind it a position and a power if they are given. -/
def request (command : Command) (target : Option Position) (reading : Option UInt16) : Message :=
  let bare := ofCommand command
  let aimed := target.elim bare bare.addMotorPosition
  reading.elim aimed aimed.addPowerReading

variable (command : Command) (target : Option Position) (reading : Option UInt16)

/-- The fields of a request. -/
theorem fields_request : (request command target reading).fields =
    ⟨.command, [command.code]⟩ ::
      ((target.map Position.encode).map (Field.mk .motorPosition)).toList ++
      ((reading.map BigEndian.bytes16).map (Field.mk .powerReading)).toList := by
  cases target <;> cases reading <;> rfl

/-- A request is canonical. -/
theorem canonical_request : (request command target reading).Canonical := by
  have bare : (ofCommand command).Canonical := @FieldKind.canonical_add .command .empty command nofun
  have aimed : (target.elim (ofCommand command) (ofCommand command).addMotorPosition).Canonical := by
    cases target with
    | none => exact bare
    | some position => exact @FieldKind.canonical_add .motorPosition _ position bare
  cases reading with
  | none => exact aimed
  | some power => exact @FieldKind.canonical_add .powerReading _ power aimed

/-- A request with all its fields takes 31 bytes. -/
theorem serializedSize_request_le : (request command target reading).serializedSize ≤ 31 := by
  cases target with
  | none =>
    cases reading with
    | none => exact (by decide : 11 ≤ 31)
    | some power => exact (by decide : 16 ≤ 31)
  | some position =>
    cases reading with
    | none => exact (by decide : 26 ≤ 31)
    | some power => exact Nat.le_refl 31

/-- The frame of a request has 64 bytes at most, even if all the bytes are markers. -/
theorem length_wrap_request_le :
    (Frame.wrap (request command target reading).serialize).length ≤ 64 := by
  have bound := Frame.wrappedSize_le (request command target reading).serialize
  have size := serializedSize_request_le command target reading
  rw [length_serialize] at bound
  rw [Frame.length_wrap]
  omega

/-- A request fits a frame. -/
theorem wrappedSize_request_le :
    Frame.wrappedSize (request command target reading).serialize ≤ Frame.maxLength := by
  rw [← Frame.length_wrap]
  exact Nat.le_trans (length_wrap_request_le command target reading) (by decide)

/-- A request is shorter than a frame. -/
theorem length_request_le :
    (request command target reading).serialize.length ≤ Frame.maxLength := by
  have fits := wrappedSize_request_le command target reading
  rw [Frame.wrappedSize] at fits
  omega

/-- A new receiver finds in the frame of a request that request, and nothing else. -/
theorem feed_request :
    Receiver.new.feed (Frame.wrap (request command target reading).serialize) =
      (⟨.new, 1, 0⟩, [request command target reading]) :=
  Receiver.feed_frame (canonical_request command target reading)
    (length_request_le command target reading)

/-- The position of a request is read back. -/
theorem motorPosition?_request : (request command target reading).motorPosition? = target := by
  have value : (request command target reading).value? .motorPosition =
      target.map Position.encode := by
    cases target <;> cases reading <;> rfl
  rw [motorPosition?, value]
  cases target with
  | none => rfl
  | some position =>
    have decoded := Position.decode?_encode_append position []
    rw [List.append_nil] at decoded
    rw [Option.map_some, Option.bind_some, decoded]

end Message

end OpticalLink
