import OpticalLink.Message.Basic

/-!
# Messages on the wire

A message is written as its fields followed by a checksum field over all bytes
before it. Reading cuts complete fields off the front until a checksum field
is due, then judges what stands there; bytes behind the checksum are not
looked at.
-/

namespace OpticalLink

/-- The sum of all bytes modulo 2^32. -/
def checksum (bytes : Bytes) : UInt32 :=
  bytes.foldl (fun sum byte => sum + byte.toUInt32) 0

/-- The tag code that ends a message. -/
def checksumCode : UInt8 := 3

/-- Bytes of the checksum field. -/
def checksumFieldSize : Nat := fieldHeaderSize + 4

/-- The checksum field over the given bytes. -/
def checksumField (covered : Bytes) : Bytes :=
  checksumCode :: 0 :: 4 :: BigEndian.bytes32 (checksum covered)

namespace Message

/-- The fields of a message as they stand on the wire. -/
def fieldBytes (message : Message) : Bytes :=
  message.fields.flatMap Field.wire

/-- The bytes of a message, checksum field included. -/
def serialize (message : Message) : Bytes :=
  let covered := message.fieldBytes
  covered ++ checksumField covered

/-- The size of some fields on the wire. -/
def fieldsSize : List Field → Nat
  | [] => 0
  | field :: rest => field.wireSize + fieldsSize rest

/-- The size of a message on the wire. -/
def serializedSize (message : Message) : Nat := fieldsSize message.fields + checksumFieldSize

/-- Writes a message behind what a buffer holds. The checksum is taken over what stands in the
buffer from there on. -/
def writeTo (message : Message) (buffer : Bytes) : Bytes :=
  let written := buffer ++ message.fieldBytes
  written ++ checksumField (written.drop buffer.length)

/-- Writes a message into a buffer if its size is within `capacity`, and returns
that size. The buffer stays as it is otherwise. -/
def appendTo (message : Message) (buffer : Bytes) (capacity : Nat) :
    Except MessageError Nat × Bytes :=
  let size := message.serializedSize
  if size > capacity then (.error (.bufferTooSmall size capacity), buffer)
  else (.ok size, message.writeTo buffer)

end Message

/-- Cuts one complete field off the front: its code, its value and the rest. -/
def cutField? : Bytes → Option (UInt8 × Bytes × Bytes)
  | code :: high :: low :: rest =>
    (splitExactly? (BigEndian.word16 high low).toNat rest).map fun (value, rest) =>
      (code, value, rest)
  | _ => none

/-- What is cut off is shorter by the header and the value. -/
theorem length_of_cutField? {data value rest : Bytes} {code : UInt8}
    (cut : cutField? data = some (code, value, rest)) :
    data.length = fieldHeaderSize + value.length + rest.length := by
  unfold cutField? at cut
  split at cut
  next first high low tail =>
    obtain ⟨⟨front, behind⟩, split, same⟩ := Option.map_eq_some_iff.mp cut
    simp only [Prod.mk.injEq] at same
    obtain ⟨rfl, rfl, rfl⟩ := same
    obtain ⟨rfl, _⟩ := splitExactly?_eq_some split
    simp only [List.length_cons, List.length_append, fieldHeaderSize]
    omega
  next => simp at cut

/-- The data behind a run of complete fields. -/
structure FieldRun where
  fields : List Field
  offset : Nat
  rest : Bytes
deriving DecidableEq, Repr

/-- Continues a run of fields that has reached `offset`. -/
def cutFieldsFrom (fields : Array Field) (offset : Nat) (data : Bytes) : FieldRun :=
  match _cut : cutField? data with
  | none => ⟨fields.toList, offset, data⟩
  | some (code, value, rest) =>
    if code = checksumCode then ⟨fields.toList, offset, data⟩
    else
      cutFieldsFrom (fields.push ⟨Tag.ofCode code, value⟩)
        (offset + fieldHeaderSize + value.length) rest
termination_by data.length
decreasing_by
  have := length_of_cutField? _cut
  simp only [fieldHeaderSize] at this
  omega

/-- The longest run of complete fields before a checksum field. -/
def cutFields (data : Bytes) : FieldRun := cutFieldsFrom #[] 0 data

namespace Message

/-- Reads a message. -/
def parse (data : Bytes) : Except MessageError Message :=
  let run := cutFields data
  if run.rest.isEmpty then .error .missingChecksum
  else
    match cutField? run.rest with
    | none => .error (.truncated run.offset)
    | some (_, value, _) =>
      if value.length ≠ 4 then .error (.invalidChecksumLength (UInt16.ofNat value.length))
      else
        match BigEndian.read32? value with
        | none => .error (.truncated run.offset)
        | some (expected, _) =>
          let computed := checksum (data.take run.offset)
          if expected ≠ computed then .error (.checksumMismatch expected computed)
          else .ok ⟨run.fields⟩

end Message

end OpticalLink
