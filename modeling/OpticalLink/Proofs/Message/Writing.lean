import OpticalLink.Proofs.Message.Language

/-!
# Messages in buffers

Three things are worked out apart from each other when a message is written: the size that it is
announced with, the lengths in the headers of its fields, and the bytes themselves. The lengths
saturate at what a header can carry, and the checksum is taken from the place in the buffer at which
the message begins.

`Message.appendTo_of_built` brings them together. Whatever the buffer holds, the same bytes are
added to it, as many as announced, or none at all, and no length in them saturates.
-/

namespace OpticalLink.Message

variable {message : Message} {buffer : Bytes} {capacity : Nat}

/-- The size of some fields on the wire is the one they are counted with. -/
theorem length_flatMap_wire (fields : List Field) :
    (fields.flatMap Field.wire).length = fieldsSize fields := by
  induction fields with
  | nil => rfl
  | cons first rest inductionHypothesis =>
    rw [List.flatMap_cons, List.length_append, inductionHypothesis, Field.length_wire, fieldsSize]

/-- The size of a message on the wire is the one it is counted with. -/
theorem length_serialize (message : Message) :
    message.serialize.length = message.serializedSize := by
  rw [length_serialize_eq, fieldBytes, length_flatMap_wire, serializedSize]

/-- What a buffer held before has no part in what is written behind it. -/
theorem writeTo_eq (message : Message) (buffer : Bytes) :
    message.writeTo buffer = buffer ++ message.serialize := by
  simp only [writeTo, serialize, List.drop_left, List.append_assoc]

/-- A message within the capacity is written. -/
theorem appendTo_of_fits (fits : message.serializedSize ≤ capacity) :
    message.appendTo buffer capacity =
      (.ok message.serializedSize, buffer ++ message.serialize) := by
  simp only [appendTo, if_neg (Nat.not_lt.mpr fits), writeTo_eq]

/-- A message that exceeds the capacity leaves the buffer as it is. -/
theorem appendTo_of_exceeds (exceeds : capacity < message.serializedSize) :
    message.appendTo buffer capacity =
      (.error (.bufferTooSmall message.serializedSize capacity), buffer) := by
  simp only [appendTo, if_pos exceeds]

/-- A message is written exactly if its size is within the capacity. -/
theorem exists_appendTo_eq_ok_iff :
    (∃ count, (message.appendTo buffer capacity).1 = .ok count) ↔
      message.serializedSize ≤ capacity := by
  constructor
  · rintro ⟨count, written⟩
    refine Nat.not_lt.mp fun exceeds => ?_
    rw [appendTo_of_exceeds exceeds] at written
    cases written
  · intro fits
    rw [appendTo_of_fits fits]
    exact ⟨_, rfl⟩

/-- A message that comes from builders or from reading is announced with the size that it has on the
wire. A buffer takes it in exactly if that size is within the capacity. Then the size is returned,
and behind what the buffer held stands the serialized message, whose checksum is over its own fields
alone. Otherwise the error names the size and the capacity, and the buffer stays as it is. Every
value fits its header, which therefore carries its true length. -/
theorem appendTo_of_built {message : Message} (built : message.Built) (buffer : Bytes)
    (capacity : Nat) :
    let size := message.serializedSize
    let appended := message.appendTo buffer capacity
    size = message.serialize.length ∧
    ((∃ count, appended.1 = .ok count) ↔ size ≤ capacity) ∧
    (size ≤ capacity → appended.1 = .ok size ∧ appended.2 = buffer ++ message.serialize ∧
      appended.2 = buffer ++ message.fieldBytes ++ checksumField message.fieldBytes) ∧
    (capacity < size → appended = (.error (.bufferTooSmall size capacity), buffer)) ∧
    ∀ field ∈ message.fields, field.value.length ≤ 65535 ∧
      field.length.toNat = field.value.length := by
  intro size appended
  refine ⟨message.length_serialize.symm, exists_appendTo_eq_ok_iff, fun fits => ?_,
    appendTo_of_exceeds, fun field member => ?_⟩
  · have written : appended = (.ok size, buffer ++ message.serialize) := appendTo_of_fits fits
    refine ⟨congrArg Prod.fst written, congrArg Prod.snd written, ?_⟩
    rw [written, List.append_assoc]
    rfl
  · have fits : field.value.length ≤ maxValueLength := (built.fits field member).2
    exact ⟨fits, Field.toNat_length fits⟩

/-- A buffer that ends like the header of a checksum field takes in a message with the unknown tag
that has the same code, if there is room for all of it. -/
theorem appendTo_of_built_unknown_tag :
    let message := (ofReply .statusReport).push (.unknown 3) [1, 2]
    message.Built ∧
      message.appendTo [0xFF, 3, 0, 4] 16 =
        (.ok 16, [0xFF, 3, 0, 4, 2, 0, 1, 1, 3, 0, 2, 1, 2, 3, 0, 4, 0, 0, 0, 12]) ∧
      message.appendTo [0xFF, 3, 0, 4] 15 = (.error (.bufferTooSmall 16 15), [0xFF, 3, 0, 4]) := by
  intro message
  have built : message.Built := .raw (.reply .empty .statusReport) (.unknown 3) [1, 2] rfl
  obtain ⟨-, -, written, -⟩ := appendTo_of_built built [0xFF, 3, 0, 4] 16
  obtain ⟨-, -, -, refused, -⟩ := appendTo_of_built built [0xFF, 3, 0, 4] 15
  obtain ⟨count, content, -⟩ := written (by decide)
  have serialized : message.serialize = [2, 0, 1, 1, 3, 0, 2, 1, 2, 3, 0, 4, 0, 0, 0, 12] := by
    decide
  rw [serialized] at content
  exact ⟨built, Prod.ext count content, refused (by decide)⟩

end OpticalLink.Message
