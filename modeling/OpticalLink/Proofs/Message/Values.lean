import OpticalLink.Message.Basic

/-!
# The bytes of typed values

A typed value is read from the front of a field value: it needs its number of bytes, and does not
look at what follows them. `ReadsFront` says this of a reader once for all types, and
`ReadsFront.map_encode` that what it reads is written with the very bytes that it was read from.
A reading of power is a number of ten thousandths of a milliwatt: `milliwattsOfReading_eq` says
that the division gives the same number of type `Float` as reading the decimal fraction does.
-/

namespace OpticalLink

/-- The first bytes of a value, if it has as many. -/
def front? (size : Nat) (value : Bytes) : Option Bytes :=
  if size ≤ value.length then some (value.take size) else none

theorem front?_of_lt {size : Nat} {value : Bytes} (short : value.length < size) :
    front? size value = none :=
  if_neg (Nat.not_le.mpr short)

theorem front?_append (front rest : Bytes) : front? front.length (front ++ rest) = some front := by
  have enough : front.length ≤ (front ++ rest).length := by
    rw [List.length_append]
    exact Nat.le_add_right _ _
  rw [front?, if_pos enough, List.take_left]

/-- Whether the first field with a tag is missing or shorter than some size. -/
def Message.Lacks (message : Message) (tag : Tag) (size : Nat) : Prop :=
  ∀ value, message.value? tag = some value → value.length < size

/-- A reader takes a value from the first bytes, whatever follows them, and none from fewer. -/
structure ReadsFront {Value : Type} (read : Bytes → Option Value) (encode : Value → Bytes)
    (size : Nat) : Prop where
  length_encode : ∀ value, (encode value).length = size
  read_cases : ∀ bytes, (bytes.length < size ∧ read bytes = none) ∨
    ∃ value rest, bytes = encode value ++ rest ∧ read bytes = some value

namespace ReadsFront

variable {Value : Type} {read : Bytes → Option Value} {encode : Value → Bytes} {size : Nat}

/-- What is read is written with the bytes that it was read from. -/
theorem map_encode (reads : ReadsFront read encode size) (bytes : Bytes) :
    (read bytes).map encode = front? size bytes := by
  rcases reads.read_cases bytes with ⟨short, nothing⟩ | ⟨value, rest, rfl, found⟩
  · rw [nothing, front?_of_lt short, Option.map_none]
  · rw [found, ← reads.length_encode value, front?_append, Option.map_some]

/-- Nothing is read from a value that is too short, and only then. -/
theorem eq_none_iff (reads : ReadsFront read encode size) {bytes : Bytes} :
    read bytes = none ↔ bytes.length < size := by
  have written := reads.map_encode bytes
  rw [← Option.map_eq_none_iff (f := encode), written, front?]
  simp

/-- Nothing is read under a tag exactly if the first field with it is missing or too short. -/
theorem bind_value?_eq_none_iff (reads : ReadsFront read encode size) {message : Message}
    {tag : Tag} : (message.value? tag).bind read = none ↔ message.Lacks tag size := by
  rw [Option.bind_eq_none_iff, Message.Lacks]
  exact forall₂_congr fun value _ => reads.eq_none_iff

end ReadsFront

/-! ## Words -/

/-- The front of some bytes is a 16-bit word, unless there are less than two. -/
theorem BigEndian.read16?_cases (bytes : Bytes) :
    (bytes.length < 2 ∧ read16? bytes = none) ∨
      ∃ word rest, bytes = bytes16 word ++ rest ∧ read16? bytes = some (word, rest) := by
  cases read : read16? bytes with
  | some found => exact .inr ⟨found.1, found.2, eq_of_read16?_eq_some read, rfl⟩
  | none =>
    match bytes with
    | [] | [_] => exact .inl ⟨by simp, rfl⟩
    | _ :: _ :: _ => cases read

/-- The front of some bytes is a 32-bit word, unless there are less than four. -/
theorem BigEndian.read32?_cases (bytes : Bytes) :
    (bytes.length < 4 ∧ read32? bytes = none) ∨
      ∃ word rest, bytes = bytes32 word ++ rest ∧ read32? bytes = some (word, rest) := by
  cases read : read32? bytes with
  | some found => exact .inr ⟨found.1, found.2, eq_of_read32?_eq_some read, rfl⟩
  | none =>
    match bytes with
    | [] | [_] | [_, _] | [_, _, _] => exact .inl ⟨by simp, rfl⟩
    | _ :: _ :: _ :: _ :: _ => cases read

/-- Four bytes are a word. -/
theorem BigEndian.exists_eq_bytes32 {value : Bytes} (size : value.length = 4) :
    ∃ word, value = bytes32 word := by
  rcases read32?_cases value with ⟨short, _⟩ | ⟨word, rest, written, _⟩
  · omega
  · have lengths := congrArg List.length written
    rw [List.length_append, length_bytes32, size] at lengths
    have nothing : rest = [] := List.length_eq_zero_iff.mp (by omega)
    exact ⟨word, by rw [written, nothing, List.append_nil]⟩

/-- The bytes of a word tell the word. -/
theorem BigEndian.bytes32_inj {first second : UInt32} :
    bytes32 first = bytes32 second ↔ first = second := by
  constructor
  · intro same
    have read := congrArg (fun value => read32? (value ++ [])) same
    simpa only [read32?_bytes32_append, Option.some.injEq, Prod.mk.injEq, and_true] using read
  · rintro rfl
    rfl

/-- The front of some bytes is a signed word, unless there are less than four. -/
theorem BigEndian.readSigned32?_cases (bytes : Bytes) :
    (bytes.length < 4 ∧ readSigned32? bytes = none) ∨
      ∃ word rest, bytes = bytesSigned32 word ++ rest ∧
        readSigned32? bytes = some (word, rest) := by
  rcases read32?_cases bytes with ⟨short, nothing⟩ | ⟨word, rest, written, read⟩
  · exact .inl ⟨short, by rw [readSigned32?, nothing]; rfl⟩
  · have signed : bytesSigned32 word.toInt32 = bytes32 word := by
      rw [bytesSigned32, UInt32.toUInt32_toInt32]
    exact .inr ⟨word.toInt32, rest, by rw [signed, written], by rw [readSigned32?, read]; rfl⟩

/-! ## Types -/

open BigEndian (bytesSigned32 readSigned32? readSigned32?_cases length_bytesSigned32)

/-- Three signed words are read one after the other. -/
theorem readsFront_threeWords {Value : Type} {build : Int32 → Int32 → Int32 → Value}
    {encode : Value → Bytes} (length_encode : ∀ value, (encode value).length = 12)
    (encode_build : ∀ x y z,
      encode (build x y z) = bytesSigned32 x ++ bytesSigned32 y ++ bytesSigned32 z) :
    ReadsFront (fun bytes => do
      let (x, bytes) ← readSigned32? bytes
      let (y, bytes) ← readSigned32? bytes
      let (z, _) ← readSigned32? bytes
      return build x y z) encode 12 where
  length_encode := length_encode
  read_cases bytes := by
    rcases readSigned32?_cases bytes with ⟨short, nothing⟩ | ⟨x, rest, rfl, -⟩
    · exact .inl ⟨by omega, by simp [nothing]⟩
    rcases readSigned32?_cases rest with ⟨short, nothing⟩ | ⟨y, rest, rfl, -⟩
    · refine .inl ⟨?_, by simp [nothing]⟩
      rw [List.length_append, length_bytesSigned32]
      omega
    rcases readSigned32?_cases rest with ⟨short, nothing⟩ | ⟨z, rest, rfl, -⟩
    · refine .inl ⟨?_, by simp [nothing]⟩
      rw [List.length_append, List.length_append, length_bytesSigned32, length_bytesSigned32]
      omega
    · exact .inr ⟨build x y z, rest, by simp [encode_build], by simp⟩

theorem readsFront_position : ReadsFront Position.decode? Position.encode 12 :=
  readsFront_threeWords (fun _ => rfl) (fun _ _ _ => rfl)

theorem readsFront_acceleration : ReadsFront Acceleration.decode? Acceleration.encode 12 :=
  readsFront_threeWords (fun _ => rfl) (fun _ _ _ => rfl)

theorem readsFront_encoderReading :
    ReadsFront EncoderReading.decode? EncoderReading.encode 8 where
  length_encode _ := rfl
  read_cases bytes := by
    rcases readSigned32?_cases bytes with ⟨short, nothing⟩ | ⟨x, rest, rfl, -⟩
    · exact .inl ⟨by omega, by simp [EncoderReading.decode?, nothing]⟩
    rcases readSigned32?_cases rest with ⟨short, nothing⟩ | ⟨y, rest, rfl, -⟩
    · refine .inl ⟨?_, by simp [EncoderReading.decode?, nothing]⟩
      rw [List.length_append, length_bytesSigned32]
      omega
    · exact .inr ⟨⟨x, y⟩, rest, by simp [EncoderReading.encode], by simp [EncoderReading.decode?]⟩

theorem readsFront_sfpCalibration :
    ReadsFront SfpCalibration.decode? SfpCalibration.encode 8 where
  length_encode _ := rfl
  read_cases bytes := by
    rcases BigEndian.read32?_cases bytes with ⟨short, nothing⟩ | ⟨x, rest, rfl, -⟩
    · exact .inl ⟨by omega, by simp [SfpCalibration.decode?, nothing]⟩
    rcases BigEndian.read32?_cases rest with ⟨short, nothing⟩ | ⟨y, rest, rfl, -⟩
    · refine .inl ⟨?_, by simp [SfpCalibration.decode?, nothing]⟩
      rw [List.length_append, BigEndian.length_bytes32]
      omega
    · exact .inr ⟨⟨x, y⟩, rest, by simp [SfpCalibration.encode], by simp [SfpCalibration.decode?]⟩

/-- A code is read from one byte. -/
theorem readsFront_code {Code : Type} {code : Code → UInt8} {ofCode : UInt8 → Code}
    (code_ofCode : ∀ byte, code (ofCode byte) = byte) :
    ReadsFront (fun value => value.head?.map ofCode) (fun value => [code value]) 1 where
  length_encode _ := rfl
  read_cases bytes := by
    cases bytes with
    | nil => exact .inl ⟨Nat.zero_lt_one, rfl⟩
    | cons byte rest => exact .inr ⟨ofCode byte, rest, by rw [code_ofCode]; rfl, rfl⟩

theorem readsFront_number16 : ReadsFront Message.number16? BigEndian.bytes16 2 where
  length_encode _ := rfl
  read_cases bytes := by
    rcases BigEndian.read16?_cases bytes with ⟨short, nothing⟩ | ⟨word, rest, written, read⟩
    · exact .inl ⟨short, by rw [Message.number16?, nothing]; rfl⟩
    · exact .inr ⟨word, rest, written, by rw [Message.number16?, read]; rfl⟩

theorem readsFront_number32 : ReadsFront Message.number32? BigEndian.bytes32 4 where
  length_encode _ := rfl
  read_cases bytes := by
    rcases BigEndian.read32?_cases bytes with ⟨short, nothing⟩ | ⟨word, rest, written, read⟩
    · exact .inl ⟨short, by rw [Message.number32?, nothing]; rfl⟩
    · exact .inr ⟨word, rest, written, by rw [Message.number32?, read]; rfl⟩

/-! ## Power -/

/-- A reading is divided as the decimal fraction with four places is read. -/
theorem milliwattsOfReading_eq (reading : UInt16) :
    milliwattsOfReading reading = Float.ofScientific reading.toNat true 4 := by
  have exact : reading.toNat < 2 ^ 53 ∧ 4 ≤ 22 :=
    ⟨by have := reading.toNat_lt; omega, by decide⟩
  have units : Float.exactlyRepresentablePowersOfTen[4] = powerUnitsPerMilliwatt := by
    decide +kernel
  -- A float is made of a word through its number, whatever the size of the word.
  have whole : reading.toNat.toUInt64.toFloat = reading.toFloat := by
    have widened : reading.toNat.toUInt64 = reading.toUInt64 := by simp [Nat.toUInt64]
    have number : reading.toUInt64.toNat = reading.toNat := reading.toNat_toUInt64
    rw [widened, UInt64.toFloat, UInt16.toFloat, Float.Model.ofUInt16, Float.Model.ofUInt64]
    unfold Float.Model.UnpackedFloat.ofUInt16 Float.Model.UnpackedFloat.ofUInt64
    rw [number]
  rw [Float.ofScientific, dif_pos exact, if_pos rfl, units, whole, milliwattsOfReading]

/-- The power that the two bytes of a reading stand for: so many ten thousandths of a milliwatt. -/
def Milliwatts.ofBytes? : Bytes → Option Milliwatts
  | [high, low] => some (Float.ofScientific (high.toNat * 256 + low.toNat) true 4)
  | _ => none

/-- The bytes of a reading stand for the power that the reading does. -/
theorem Milliwatts.ofBytes?_bytes16 (reading : UInt16) :
    ofBytes? (BigEndian.bytes16 reading) = some (milliwattsOfReading reading) := by
  have whole : (UInt8.ofNat (reading.toNat / 256)).toNat * 256 + (UInt8.ofNat reading.toNat).toNat =
      reading.toNat := by
    have bound := reading.toNat_lt
    simp only [UInt8.toNat_ofNat']
    omega
  rw [BigEndian.bytes16, ofBytes?, whole, milliwattsOfReading_eq]

end OpticalLink
