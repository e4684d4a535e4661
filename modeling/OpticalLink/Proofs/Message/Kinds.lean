import OpticalLink.Proofs.Message.Language
import OpticalLink.Proofs.Message.Values

/-!
# Kinds of fields

Nine kinds of fields hold a typed value. Each has a tag of its own, a builder that adds such a field
and an accessor that reads the first one. `FieldKind` is the family of them: its laws are stated
once, and say that an accessor finds what the builder of its kind added unless an earlier field with
the tag is in front, and that no accessor notices the fields of another kind.

`FieldKind.read?_of_parse_add` carries this over the wire, and says what accessors make of any other
values: they look at the first bytes of the first field with their tag, and at nothing else.
-/

namespace OpticalLink

/-- What a field with a typed value holds. -/
inductive FieldKind where
  | command
  | reply
  | motorPosition
  | encoderReading
  | acceleration
  | sfpCalibration
  | powerReading
  | currentReading
  | errorReport
deriving DecidableEq, Repr

namespace FieldKind

/-- The type of the values of a kind. -/
abbrev Value : FieldKind → Type
  | .command => Command
  | .reply => Reply
  | .motorPosition => Position
  | .encoderReading => EncoderReading
  | .acceleration => Acceleration
  | .sfpCalibration => SfpCalibration
  | .powerReading => UInt16
  | .currentReading => UInt16
  | .errorReport => UInt32

/-- The tag of a kind. -/
def tag : FieldKind → Tag
  | .command => .command
  | .reply => .reply
  | .motorPosition => .motorPosition
  | .encoderReading => .encoderValue
  | .acceleration => .accelerometerValue
  | .sfpCalibration => .sfpCalibration
  | .powerReading => .powerReading
  | .currentReading => .currentReading
  | .errorReport => .errorReport

/-- How many bytes a value of a kind takes. -/
def size : FieldKind → Nat
  | .command => 1
  | .reply => 1
  | .motorPosition => 12
  | .encoderReading => 8
  | .acceleration => 12
  | .sfpCalibration => 8
  | .powerReading => 2
  | .currentReading => 2
  | .errorReport => 4

/-- The builder of a kind. -/
def add : (kind : FieldKind) → Message → kind.Value → Message
  | .command => Message.addCommand
  | .reply => Message.addReply
  | .motorPosition => Message.addMotorPosition
  | .encoderReading => Message.addEncoderReading
  | .acceleration => Message.addAcceleration
  | .sfpCalibration => Message.addSfpCalibration
  | .powerReading => Message.addPowerReading
  | .currentReading => Message.addCurrentReading
  | .errorReport => Message.addErrorReport

/-- The accessor of a kind. -/
def read? : (kind : FieldKind) → Message → Option kind.Value
  | .command => Message.command?
  | .reply => Message.reply?
  | .motorPosition => Message.motorPosition?
  | .encoderReading => Message.encoderReading?
  | .acceleration => Message.acceleration?
  | .sfpCalibration => Message.sfpCalibration?
  | .powerReading => Message.powerReading?
  | .currentReading => Message.currentReading?
  | .errorReport => Message.errorReport?

/-- The value that a written one is read back as. A command or reply comes back as the one that its
code stands for, all other values as they are. -/
def reread : (kind : FieldKind) → kind.Value → kind.Value
  | .command => fun command => Command.ofCode command.code
  | .reply => fun reply => Reply.ofCode reply.code
  | .motorPosition | .encoderReading | .acceleration | .sfpCalibration | .powerReading
  | .currentReading | .errorReport => id

/-! ## Layouts -/

/-- The bytes of a value. -/
def encode : (kind : FieldKind) → kind.Value → Bytes
  | .command => fun command => [command.code]
  | .reply => fun reply => [reply.code]
  | .motorPosition => Position.encode
  | .encoderReading => EncoderReading.encode
  | .acceleration => Acceleration.encode
  | .sfpCalibration => SfpCalibration.encode
  | .powerReading => BigEndian.bytes16
  | .currentReading => BigEndian.bytes16
  | .errorReport => BigEndian.bytes32

/-- The value at the front of some bytes. -/
def decode? : (kind : FieldKind) → Bytes → Option kind.Value
  | .command => fun value => value.head?.map Command.ofCode
  | .reply => fun value => value.head?.map Reply.ofCode
  | .motorPosition => Position.decode?
  | .encoderReading => EncoderReading.decode?
  | .acceleration => Acceleration.decode?
  | .sfpCalibration => SfpCalibration.decode?
  | .powerReading => Message.number16?
  | .currentReading => Message.number16?
  | .errorReport => Message.number32?

variable {kind other : FieldKind}

/-- A tag tells the kind. -/
theorem tag_inj : kind.tag = other.tag ↔ kind = other := by
  cases kind <;> cases other <;> decide

/-- No kind has the tag that ends a message. -/
theorem tag_ne_checksum (kind : FieldKind) : kind.tag ≠ .checksum := by
  cases kind <;> decide

/-- Every kind has a canonical tag that does not end a message. -/
theorem exists_code_tag (kind : FieldKind) :
    ∃ code, code ≠ checksumCode ∧ kind.tag = Tag.ofCode code := by
  refine ⟨kind.tag.code, ?_⟩
  cases kind <;> decide

/-- A value is read from the first bytes. -/
theorem readsFront (kind : FieldKind) : ReadsFront kind.decode? kind.encode kind.size := by
  cases kind with
  | command => exact readsFront_code Command.code_ofCode
  | reply => exact readsFront_code Reply.code_ofCode
  | motorPosition => exact readsFront_position
  | encoderReading => exact readsFront_encoderReading
  | acceleration => exact readsFront_acceleration
  | sfpCalibration => exact readsFront_sfpCalibration
  | powerReading => exact readsFront_number16
  | currentReading => exact readsFront_number16
  | errorReport => exact readsFront_number32

/-- What was written is read back, whatever follows it. -/
theorem decode?_encode_append (kind : FieldKind) (value : kind.Value) (rest : Bytes) :
    kind.decode? (kind.encode value ++ rest) = some (kind.reread value) := by
  cases kind with
  | command | reply => rfl
  | motorPosition => exact Position.decode?_encode_append value rest
  | encoderReading => exact EncoderReading.decode?_encode_append value rest
  | acceleration => exact Acceleration.decode?_encode_append value rest
  | sfpCalibration => exact SfpCalibration.decode?_encode_append value rest
  | powerReading | currentReading =>
    exact congrArg (Option.map Prod.fst) (BigEndian.read16?_bytes16_append value rest)
  | errorReport => exact congrArg (Option.map Prod.fst) (BigEndian.read32?_bytes32_append value rest)

/-- A written value is read back. -/
theorem decode?_encode (kind : FieldKind) (value : kind.Value) :
    kind.decode? (kind.encode value) = some (kind.reread value) := by
  rw [← List.append_nil (kind.encode value), decode?_encode_append]

/-- Bytes behind the value are not looked at. -/
theorem decode?_take (kind : FieldKind) (bytes : Bytes) :
    kind.decode? (bytes.take kind.size) = kind.decode? bytes := by
  rcases kind.readsFront.read_cases bytes with ⟨short, _⟩ | ⟨value, rest, rfl, _⟩
  · rw [List.take_of_length_le (Nat.le_of_lt short)]
  · rw [← kind.readsFront.length_encode value, List.take_left, decode?_encode,
      decode?_encode_append]

/-- Every value fits the header of its field. -/
theorem length_encode_le (value : kind.Value) : (kind.encode value).length ≤ maxValueLength := by
  rw [kind.readsFront.length_encode]
  cases kind <;> decide

/-! ## Builders and accessors -/

/-- A builder adds one field with the tag of its kind. -/
theorem add_eq (kind : FieldKind) (message : Message) (value : kind.Value) :
    kind.add message value = message.push kind.tag (kind.encode value) := by
  cases kind <;> rfl

/-- An accessor reads the value of the first field with the tag of its kind. -/
theorem read?_eq (kind : FieldKind) (message : Message) :
    kind.read? message = (message.value? kind.tag).bind kind.decode? := by
  cases kind <;> rfl

end FieldKind

namespace Message

variable {message : Message} {tag other : Tag} {value : Bytes}

/-- A field is found behind all others, if none of them has its tag. -/
theorem field?_push (message : Message) (tag other : Tag) (value : Bytes) :
    (message.push tag value).field? other =
      (message.field? other).or (if tag = other then some ⟨tag, value⟩ else none) := by
  rw [field?, push, List.find?_append, ← field?, List.find?_singleton]
  simp only [beq_iff_eq]

end Message

namespace FieldKind

variable {kind other : FieldKind} {message : Message}

/-- What a builder adds is read by the accessor of its kind if there was no such field. -/
theorem read?_add_self (value : kind.Value) (missing : message.field? kind.tag = none) :
    kind.read? (kind.add message value) = some (kind.reread value) := by
  rw [read?_eq, add_eq, Message.value?, Message.field?_push, missing, if_pos rfl, Option.none_or,
    Option.map_some, Option.bind_some, decode?_encode]

/-- What a builder adds is passed over if there was such a field. -/
theorem read?_add_of_isSome (value : kind.Value) (present : (message.field? kind.tag).isSome) :
    kind.read? (kind.add message value) = kind.read? message := by
  rw [read?_eq, read?_eq, add_eq, Message.value?, Message.value?, Message.field?_push,
    Option.or_of_isSome present]

/-- What a builder adds is not noticed by the accessor of another kind. -/
theorem read?_add_of_ne (value : kind.Value) (different : other ≠ kind) :
    other.read? (kind.add message value) = other.read? message := by
  have tags : kind.tag ≠ other.tag := fun same => different (tag_inj.mp same).symm
  rw [read?_eq, read?_eq, add_eq, Message.value?, Message.value?, Message.field?_push,
    if_neg tags, Option.or_none]

/-- Nothing is read exactly if the first field is missing or too short. -/
theorem read?_eq_none_iff (kind : FieldKind) (message : Message) :
    kind.read? message = none ↔ message.field? kind.tag = none ∨
      ∃ field, message.field? kind.tag = some field ∧ field.value.length < kind.size := by
  rw [read?_eq, Message.value?]
  cases message.field? kind.tag with
  | none => simp
  | some field => simp [kind.readsFront.eq_none_iff]

/-- An accessor looks at the first bytes of the first field with its tag alone. -/
theorem read?_congr {first second : Message}
    (same : (first.value? kind.tag).map (List.take kind.size) =
      (second.value? kind.tag).map (List.take kind.size)) :
    kind.read? first = kind.read? second := by
  have front (message : Message) : kind.read? message =
      ((message.value? kind.tag).map (List.take kind.size)).bind kind.decode? := by
    rw [read?_eq, Option.bind_map]
    congr 1
    funext bytes
    exact (kind.decode?_take bytes).symm
  rw [front first, front second, same]

/-- A builder keeps messages canonical. -/
theorem canonical_add (value : kind.Value) (canonical : message.Canonical) :
    (kind.add message value).Canonical := by
  rw [add_eq]
  exact Message.forall_fields_push canonical ⟨kind.exists_code_tag, length_encode_le value⟩

/-- A builder adds a typed value to a canonical message, and the written message is read back. The
accessor of its kind returns the value, unless the message had a field with the tag before: then
it returns what it returned before. All other accessors return what they returned before. Whatever
the fields of a message hold, an accessor returns nothing exactly if the first field with its tag
is missing or shorter than the layout, and it depends on no more than the bytes of the layout at
the front of that field. -/
theorem read?_of_parse_add (built : message.Built)
    (tags : ∀ field ∈ message.fields, field.tag.Canonical) (kind : FieldKind)
    (value : kind.Value) :
    (∃ received, Message.parse (kind.add message value).serialize = .ok received ∧
      (message.field? kind.tag = none → kind.read? received = some (kind.reread value)) ∧
      ((message.field? kind.tag).isSome → kind.read? received = kind.read? message) ∧
      (∀ other, other ≠ kind → other.read? received = other.read? message) ∧
      (kind ≠ .powerReading ∨ (message.field? .powerReading).isSome →
        received.power? = message.power?)) ∧
    (∀ (any : Message) (other : FieldKind), other.read? any = none ↔
      any.field? other.tag = none ∨
        ∃ field, any.field? other.tag = some field ∧ field.value.length < other.size) ∧
    (∀ (first second : Message) (other : FieldKind),
      (first.value? other.tag).map (List.take other.size) =
        (second.value? other.tag).map (List.take other.size) →
      other.read? first = other.read? second) := by
  refine ⟨⟨kind.add message value, ?_, read?_add_self value, read?_add_of_isSome value,
    fun other => read?_add_of_ne value, ?_⟩, fun any other => other.read?_eq_none_iff any,
    fun first second other => read?_congr⟩
  · exact Message.parse_eq_ok_iff.mpr
      ⟨canonical_add value (built.canonical tags), List.prefix_rfl⟩
  · intro unaffected
    have reading : FieldKind.powerReading.read? (kind.add message value) =
        FieldKind.powerReading.read? message := by
      rcases unaffected with different | present
      · exact read?_add_of_ne value different.symm
      · by_cases same : kind = .powerReading
        · subst same
          exact read?_add_of_isSome value present
        · exact read?_add_of_ne value (Ne.symm same)
    exact congrArg (Option.map milliwattsOfReading) reading

/-- A report has a position field of three bytes. A position that is added behind it is not read,
and a command with the code of a listed one is read as that one. -/
theorem read?_of_parse_add_behind_short_field :
    let message := (Message.ofReply .statusReport).push .motorPosition [0, 0, 0]
    message.Built ∧
      (∃ received, Message.parse (message.addMotorPosition ⟨1, -2, 3⟩).serialize = .ok received ∧
        received.motorPosition? = none ∧ received.reply? = some .statusReport) ∧
      ∃ received, Message.parse (message.addCommand (.unknown 2)).serialize = .ok received ∧
        received.command? = some .moveMotor := by
  intro message
  have built : message.Built := .raw (.reply .empty .statusReport) .motorPosition [0, 0, 0] rfl
  have tags : ∀ field ∈ message.fields, field.tag.Canonical := by decide
  obtain ⟨⟨first, firstRead, _, passedOver, others, _⟩, nothing_iff, _⟩ :=
    read?_of_parse_add built tags .motorPosition ⟨1, -2, 3⟩
  obtain ⟨⟨second, secondRead, returned, _⟩, _⟩ :=
    read?_of_parse_add built tags .command (.unknown 2)
  have short : FieldKind.motorPosition.read? message = none :=
    (nothing_iff message .motorPosition).mpr (.inr ⟨_, rfl, by decide⟩)
  exact ⟨built, ⟨first, firstRead, (passedOver rfl).trans short, others .reply (by decide)⟩,
    second, secondRead, returned rfl⟩

end FieldKind

end OpticalLink
