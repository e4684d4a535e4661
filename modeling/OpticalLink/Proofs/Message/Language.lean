import OpticalLink.Message.Wire

/-!
# The language of messages

Reading accepts exactly what writing produces. `Message.Canonical` names the messages
that can be written at all: every tag has a code of its own other than the one that ends
a message, and every value fits its header. `Message.parse_eq_ok_iff` characterises the
accepted byte strings by the written form, and `Message.Built` covers the messages that
the builders and the reader can bring about.
-/

namespace OpticalLink

/-- A tag that some wire code stands for. An unknown tag with a listed code is none. -/
def Tag.Canonical (tag : Tag) : Prop := ∃ code, tag = Tag.ofCode code

/-- A tag is canonical exactly when its own code stands for it. -/
theorem Tag.canonical_iff {tag : Tag} : tag.Canonical ↔ Tag.ofCode tag.code = tag := by
  constructor
  · rintro ⟨code, rfl⟩
    rw [Tag.code_ofCode]
  · intro same
    exact ⟨tag.code, same.symm⟩

instance (tag : Tag) : Decidable tag.Canonical := decidable_of_iff _ Tag.canonical_iff.symm

/-- The checksum tag is the one whose code ends a message. -/
theorem Tag.ofCode_eq_checksum_iff {code : UInt8} :
    Tag.ofCode code = .checksum ↔ code = checksumCode := by
  constructor
  · intro same
    rw [← Tag.code_ofCode code, same]
    rfl
  · rintro rfl
    rfl

/-- A field that reads back as it was written. -/
structure Field.Canonical (field : Field) : Prop where
  /-- The tag has a code, and that code does not end a message. -/
  tag : ∃ code, code ≠ checksumCode ∧ field.tag = Tag.ofCode code
  /-- The header can carry the length. -/
  length : field.value.length ≤ maxValueLength

/-- A message whose fields all read back as they were written. -/
def Message.Canonical (message : Message) : Prop := ∀ field ∈ message.fields, field.Canonical

/-! ## One field -/

namespace Field

/-- The header of a value that fits carries its exact length. -/
theorem toNat_length {field : Field} (fits : field.value.length ≤ maxValueLength) :
    field.length.toNat = field.value.length := by
  simp only [length, maxValueLength, UInt16.toNat_ofNat'] at fits ⊢
  omega

/-- The size that a field takes is the size that it is counted with. -/
@[simp] theorem length_wire (field : Field) : field.wire.length = field.wireSize := by
  simp only [wire, wireSize, fieldHeaderSize, List.length_append, List.length_cons,
    BigEndian.length_bytes16]

/-- The codes of canonical fields do not end a message. -/
theorem Canonical.code_ne {field : Field} (canonical : field.Canonical) :
    field.tag.code ≠ checksumCode := by
  obtain ⟨code, different, same⟩ := canonical.tag
  rwa [same, Tag.code_ofCode]

/-- A canonical tag survives the way through its code. -/
theorem Canonical.ofCode_code {field : Field} (canonical : field.Canonical) :
    Tag.ofCode field.tag.code = field.tag := by
  obtain ⟨code, _, same⟩ := canonical.tag
  rw [same, Tag.code_ofCode]

end Field

/-- Behind a code and a length, the value is split off. -/
theorem cutField?_header (code : UInt8) (length : UInt16) (rest : Bytes) :
    cutField? (code :: (BigEndian.bytes16 length ++ rest)) =
      (splitExactly? length.toNat rest).map fun (value, rest) => (code, value, rest) := by
  have word := BigEndian.read16?_bytes16_append length []
  simp only [BigEndian.bytes16, List.cons_append, List.nil_append, BigEndian.read16?,
    Option.some.injEq, Prod.mk.injEq, and_true] at word
  simp only [BigEndian.bytes16, List.cons_append, List.nil_append, cutField?, word]

/-- A written field is cut off whole, whatever follows it. -/
theorem cutField?_wire_append {field : Field} (fits : field.value.length ≤ maxValueLength)
    (rest : Bytes) :
    cutField? (field.wire ++ rest) = some (field.tag.code, field.value, rest) := by
  rw [Field.wire, List.cons_append, List.cons_append, List.append_assoc, cutField?_header,
    Field.toNat_length fits, splitExactly?_append, Option.map_some]

/-- What is cut off was written as a field with that code and value. -/
theorem eq_of_cutField?_eq_some {data value rest : Bytes} {code : UInt8}
    (cut : cutField? data = some (code, value, rest)) :
    data = (Field.mk (Tag.ofCode code) value).wire ++ rest ∧
      value.length ≤ maxValueLength := by
  unfold cutField? at cut
  split at cut
  next first high low tail =>
    obtain ⟨⟨front, behind⟩, split, same⟩ := Option.map_eq_some_iff.mp cut
    simp only [Prod.mk.injEq] at same
    obtain ⟨rfl, rfl, rfl⟩ := same
    obtain ⟨rfl, size⟩ := splitExactly?_eq_some split
    have bound := (BigEndian.word16 high low).toNat_lt
    have fits : front.length ≤ maxValueLength := by
      simp only [maxValueLength]
      omega
    have header : (Field.mk (Tag.ofCode first) front).length = BigEndian.word16 high low := by
      apply UInt16.toNat_inj.mp
      rw [Field.toNat_length fits, size]
    have word : [high, low] = BigEndian.bytes16 (BigEndian.word16 high low) ++ [] :=
      BigEndian.eq_of_read16?_eq_some rfl
    refine ⟨?_, fits⟩
    rw [List.append_nil] at word
    simp only [Field.wire, header, ← word, Tag.code_ofCode, List.cons_append, List.nil_append]
  next => simp at cut

/-- The checksum field is written like any other. -/
theorem checksumField_eq_wire (covered : Bytes) :
    checksumField covered = (Field.mk .checksum (BigEndian.bytes32 (checksum covered))).wire := by
  simp only [checksumField, Field.wire, Field.length, BigEndian.length_bytes32]
  rfl

/-- A checksum field is cut off as its four bytes. -/
theorem cutField?_checksumField_append (covered rest : Bytes) :
    cutField? (checksumField covered ++ rest) =
      some (checksumCode, BigEndian.bytes32 (checksum covered), rest) := by
  rw [checksumField_eq_wire]
  exact cutField?_wire_append (by simp [maxValueLength]) rest

/-! ## Runs of fields -/

/-- Whether no further field of a message can be cut off: what comes first is cut
short or is a checksum field. -/
def EndsFields (data : Bytes) : Prop :=
  ∀ code value rest, cutField? data = some (code, value, rest) → code = checksumCode

/-- A checksum field ends a run of fields. -/
theorem endsFields_checksumField_append (covered rest : Bytes) :
    EndsFields (checksumField covered ++ rest) := by
  intro code value behind cut
  rw [cutField?_checksumField_append, Option.some.injEq, Prod.mk.injEq] at cut
  exact cut.1.symm

/-- A run stops where no further field can be cut off. -/
theorem cutFieldsFrom_of_ends {fields : Array Field} {offset : Nat} {data : Bytes}
    (ends : EndsFields data) : cutFieldsFrom fields offset data = ⟨fields.toList, offset, data⟩ := by
  rw [cutFieldsFrom]
  split
  next => rfl
  next code value rest cut => rw [if_pos (ends code value rest cut)]

/-- A run takes in a field that does not end it. -/
theorem cutFieldsFrom_of_cut {fields : Array Field} {offset : Nat} {data value rest : Bytes}
    {code : UInt8} (cut : cutField? data = some (code, value, rest))
    (different : code ≠ checksumCode) :
    cutFieldsFrom fields offset data =
      cutFieldsFrom (fields.push ⟨Tag.ofCode code, value⟩)
        (offset + fieldHeaderSize + value.length) rest := by
  rw [cutFieldsFrom]
  split
  next none => simp [none] at cut
  next code' value' rest' cut' =>
    rw [cut', Option.some.injEq, Prod.mk.injEq, Prod.mk.injEq] at cut
    obtain ⟨rfl, rfl, rfl⟩ := cut
    rw [if_neg different]

/-- A run takes in all canonical fields that were written before its end. -/
theorem cutFieldsFrom_wire_append {written : List Field} {rest : Bytes}
    (canonical : ∀ field ∈ written, field.Canonical) (ends : EndsFields rest)
    (fields : Array Field) (offset : Nat) :
    cutFieldsFrom fields offset (written.flatMap Field.wire ++ rest) =
      ⟨fields.toList ++ written, offset + (written.flatMap Field.wire).length, rest⟩ := by
  induction written generalizing fields offset with
  | nil => simpa using cutFieldsFrom_of_ends ends
  | cons field written inductionHypothesis =>
    have first : field.Canonical := canonical field List.mem_cons_self
    have others : ∀ other ∈ written, other.Canonical :=
      fun other member => canonical other (List.mem_cons_of_mem field member)
    have cut := cutField?_wire_append first.length (written.flatMap Field.wire ++ rest)
    rw [List.flatMap_cons, List.append_assoc, cutFieldsFrom_of_cut cut first.code_ne,
      first.ofCode_code, inductionHypothesis others]
    simp only [Array.toList_push, List.append_assoc, List.singleton_append, List.length_append,
      Field.length_wire, Field.wireSize, FieldRun.mk.injEq, true_and, and_true]
    omega

/-- The fields that a run takes in are canonical and stand in the data as written. -/
theorem exists_of_cutFieldsFrom (fields : Array Field) (offset : Nat) (data : Bytes) :
    ∃ written : List Field, (∀ field ∈ written, field.Canonical) ∧
      ∃ rest, EndsFields rest ∧ data = written.flatMap Field.wire ++ rest := by
  fun_induction cutFieldsFrom fields offset data with
  | case1 fields offset data none =>
    refine ⟨[], by simp, data, ?_, rfl⟩
    intro code value rest cut
    rw [none] at cut
    cases cut
  | case2 fields offset data value rest cut =>
    refine ⟨[], by simp, data, ?_, rfl⟩
    intro code' value' rest' cut'
    rw [cut, Option.some.injEq, Prod.mk.injEq] at cut'
    exact cut'.1.symm
  | case3 fields offset data code value rest cut different inductionHypothesis =>
    obtain ⟨written, canonical, behind, ends, rfl⟩ := inductionHypothesis
    obtain ⟨data_eq, fits⟩ := eq_of_cutField?_eq_some cut
    refine ⟨⟨Tag.ofCode code, value⟩ :: written, ?_, behind, ends, ?_⟩
    · intro field member
      rcases List.mem_cons.mp member with rfl | member
      · exact ⟨⟨code, different, rfl⟩, fits⟩
      · exact canonical field member
    · rw [data_eq, List.flatMap_cons, List.append_assoc]

/-- The parts of some data that a run of fields has to name. -/
structure FieldRun.Splits (run : FieldRun) (data : Bytes) : Prop where
  canonical : ∀ field ∈ run.fields, field.Canonical
  data_eq : data = run.fields.flatMap Field.wire ++ run.rest
  offset_eq : run.offset = (run.fields.flatMap Field.wire).length
  ends : EndsFields run.rest

/-- Every byte string splits in exactly one way into written fields and an end. -/
theorem cutFields_eq_iff {data : Bytes} {run : FieldRun} :
    cutFields data = run ↔ run.Splits data := by
  constructor
  · rintro rfl
    obtain ⟨written, canonical, rest, ends, rfl⟩ := exists_of_cutFieldsFrom #[] 0 data
    have run_eq := cutFieldsFrom_wire_append canonical ends #[] 0
    rw [List.nil_append, Nat.zero_add] at run_eq
    rw [cutFields, run_eq]
    exact ⟨canonical, rfl, rfl, ends⟩
  · rintro ⟨canonical, rfl, offset_eq, ends⟩
    rw [cutFields, cutFieldsFrom_wire_append canonical ends, List.nil_append, Nat.zero_add,
      ← offset_eq]

/-! ## Whole messages -/

namespace Message

/-- A message whose written form stands at the front is accepted. -/
theorem parse_serialize_append {message : Message} (canonical : message.Canonical)
    (rest : Bytes) : parse (message.serialize ++ rest) = .ok message := by
  have run_eq : cutFields (message.serialize ++ rest) =
      ⟨message.fields, message.fieldBytes.length, checksumField message.fieldBytes ++ rest⟩ :=
    cutFields_eq_iff.mpr
      ⟨canonical, List.append_assoc .., rfl, endsFields_checksumField_append _ _⟩
  have nonempty : (checksumField message.fieldBytes ++ rest).isEmpty = false := rfl
  have read := BigEndian.read32?_bytes32_append (checksum message.fieldBytes) []
  rw [List.append_nil] at read
  have covered : (message.serialize ++ rest).take message.fieldBytes.length =
      message.fieldBytes := by
    rw [serialize, List.append_assoc]
    exact List.take_left
  simp only [parse, run_eq, nonempty, cutField?_checksumField_append, read, covered,
    BigEndian.length_bytes32, ne_eq, not_true_eq_false, Bool.false_eq_true, if_false]

/-- An accepted message stands at the front as written, and its fields are canonical. -/
theorem eq_append_of_parse_eq_ok {data : Bytes} {message : Message}
    (accepted : parse data = .ok message) :
    message.Canonical ∧ (cutFields data).offset = message.fieldBytes.length ∧
      ∃ rest, data = message.serialize ++ rest := by
  obtain ⟨run, run_eq⟩ : ∃ run, cutFields data = run := ⟨_, rfl⟩
  obtain ⟨canonical, rfl, offset_eq, ends⟩ := cutFields_eq_iff.mp run_eq
  simp only [parse, run_eq, offset_eq, List.take_left] at accepted
  -- Each failing branch of the reader contradicts the acceptance.
  split at accepted
  next => cases accepted
  next =>
  split at accepted
  next => cases accepted
  next code value rest cut =>
  split at accepted
  next => cases accepted
  next size =>
  split at accepted
  next => cases accepted
  next expected behind read =>
  split at accepted
  next => cases accepted
  next agrees =>
  cases accepted
  have value_eq : value = BigEndian.bytes32 expected := by
    have written := BigEndian.eq_of_read32?_eq_some read
    have lengths := congrArg List.length written
    rw [List.length_append, BigEndian.length_bytes32, Decidable.not_not.mp size] at lengths
    have nothing : behind = [] := List.length_eq_zero_iff.mp (by omega)
    rw [written, nothing, List.append_nil]
  obtain ⟨rest_eq, _⟩ := eq_of_cutField?_eq_some cut
  rw [ends code value rest cut, value_eq, Decidable.not_not.mp agrees] at rest_eq
  refine ⟨canonical, by rw [run_eq, offset_eq]; rfl, rest, ?_⟩
  rw [rest_eq, serialize, fieldBytes, checksumField_eq_wire, List.append_assoc]
  rfl

/-- A message is accepted exactly where its written form stands at the front. -/
theorem parse_eq_ok_iff {data : Bytes} {message : Message} :
    parse data = .ok message ↔ message.Canonical ∧ message.serialize <+: data := by
  constructor
  · intro accepted
    obtain ⟨canonical, _, rest, rfl⟩ := eq_append_of_parse_eq_ok accepted
    exact ⟨canonical, List.prefix_append _ _⟩
  · rintro ⟨canonical, rest, rfl⟩
    exact parse_serialize_append canonical rest

/-- A checksum field has one size, whatever it is about. -/
theorem length_checksumField (covered : Bytes) :
    (checksumField covered).length = checksumFieldSize := rfl

/-- The size of a written message, with the checksum field apart. -/
theorem length_serialize_eq (message : Message) :
    message.serialize.length = message.fieldBytes.length + checksumFieldSize := by
  rw [serialize, List.length_append, length_checksumField]

/-- A written message is at least its checksum. -/
theorem serialize_ne_nil (message : Message) : message.serialize ≠ [] :=
  List.append_ne_nil_of_right_ne_nil _ nofun

/-- Reading consumes the fields it returns and the checksum field behind them. -/
theorem serialize_eq_take_of_parse_eq_ok {data : Bytes} {message : Message}
    (accepted : parse data = .ok message) :
    message.serialize = data.take ((cutFields data).offset + checksumFieldSize) := by
  obtain ⟨_, offset_eq, rest, rfl⟩ := eq_append_of_parse_eq_ok accepted
  rw [offset_eq, ← length_serialize_eq, List.take_left]

/-! ## Messages that can be brought about -/

/-- The messages that come from the builders and from reading. -/
inductive Built : Message → Prop where
  | empty : Built .empty
  | raw {message result : Message} (prior : Built message) (tag : Tag) (value : Bytes)
      (added : message.addRaw tag value = .ok result) : Built result
  | command {message : Message} (prior : Built message) (command : Command) :
      Built (message.addCommand command)
  | reply {message : Message} (prior : Built message) (reply : Reply) :
      Built (message.addReply reply)
  | motorPosition {message : Message} (prior : Built message) (position : Position) :
      Built (message.addMotorPosition position)
  | encoderReading {message : Message} (prior : Built message) (reading : EncoderReading) :
      Built (message.addEncoderReading reading)
  | acceleration {message : Message} (prior : Built message) (sample : Acceleration) :
      Built (message.addAcceleration sample)
  | sfpCalibration {message : Message} (prior : Built message) (calibration : SfpCalibration) :
      Built (message.addSfpCalibration calibration)
  | powerReading {message : Message} (prior : Built message) (reading : UInt16) :
      Built (message.addPowerReading reading)
  | currentReading {message : Message} (prior : Built message) (reading : UInt16) :
      Built (message.addCurrentReading reading)
  | errorReport {message : Message} (prior : Built message) (code : UInt32) :
      Built (message.addErrorReport code)
  | parsed {data : Bytes} {message : Message} (read : parse data = .ok message) :
      Built message

/-- What holds of the fields so far and of a new one holds of all fields. -/
theorem forall_fields_push {message : Message} {tag : Tag} {value : Bytes}
    {property : Field → Prop} (prior : ∀ field ∈ message.fields, property field)
    (added : property ⟨tag, value⟩) :
    ∀ field ∈ (message.push tag value).fields, property field := by
  intro field member
  rcases List.mem_append.mp member with member | member
  · exact prior field member
  · rwa [List.mem_singleton.mp member]

/-- Neither the builders nor the reader bring about a checksum tag or a value that
does not fit its header. -/
theorem Built.fits {message : Message} (built : message.Built) :
    ∀ field ∈ message.fields, field.tag ≠ .checksum ∧ field.value.length ≤ maxValueLength := by
  induction built with
  | empty =>
    intro field member
    cases member
  | raw prior tag value added inductionHypothesis =>
    simp only [addRaw] at added
    split at added
    next => cases added
    next different =>
    split at added
    next => cases added
    next fits =>
    cases added
    exact forall_fields_push inductionHypothesis ⟨different, Nat.not_lt.mp fits⟩
  | command _ _ inductionHypothesis | reply _ _ inductionHypothesis
  | motorPosition _ _ inductionHypothesis | encoderReading _ _ inductionHypothesis
  | acceleration _ _ inductionHypothesis | sfpCalibration _ _ inductionHypothesis
  | powerReading _ _ inductionHypothesis | currentReading _ _ inductionHypothesis
  | errorReport _ _ inductionHypothesis =>
    refine forall_fields_push inductionHypothesis ⟨Tag.noConfusion, ?_⟩
    simp [maxValueLength, Position.encode, EncoderReading.encode, Acceleration.encode,
      SfpCalibration.encode]
  | parsed read =>
    intro field member
    have canonical := (parse_eq_ok_iff.mp read).1 field member
    obtain ⟨code, different, same⟩ := canonical.tag
    rw [same, ne_eq, Tag.ofCode_eq_checksum_iff]
    exact ⟨different, canonical.length⟩

/-- A message that was brought about with canonical tags alone is canonical. -/
theorem Built.canonical {message : Message} (built : message.Built)
    (tags : ∀ field ∈ message.fields, field.tag.Canonical) : message.Canonical := by
  intro field member
  obtain ⟨code, same⟩ := tags field member
  obtain ⟨different, fits⟩ := built.fits field member
  rw [same, ne_eq, Tag.ofCode_eq_checksum_iff] at different
  exact ⟨⟨code, different, same⟩, fits⟩

/-- A reply by itself is canonical. -/
theorem canonical_ofReply (reply : Reply) : (ofReply reply).Canonical :=
  (Built.reply .empty reply).canonical fun field member =>
    ⟨2, by rw [List.mem_singleton.mp member]; rfl⟩

/-- The report of a position is canonical. -/
theorem canonical_positionReport (position : Position) :
    ((ofReply .statusReport).addMotorPosition position).Canonical := by
  have built : ((ofReply .statusReport).addMotorPosition position).Built :=
    .motorPosition (.reply .empty .statusReport) position
  refine built.canonical fun field member => ?_
  rcases List.mem_cons.mp member with rfl | member
  · exact ⟨2, rfl⟩
  · rw [List.mem_singleton.mp member]
    exact ⟨4, rfl⟩

/-- Reading accepts exactly the written forms of canonical messages, with anything
behind them. It consumes the written form, and every message that was brought about
with canonical tags is read back from its written form. -/
theorem parse_language (data : Bytes) (message : Message) :
    (parse data = .ok message ↔
      (∀ field ∈ message.fields, ∃ code, code ≠ checksumCode ∧ field.tag = Tag.ofCode code) ∧
      (∀ field ∈ message.fields, field.value.length ≤ maxValueLength) ∧
      message.serialize <+: data) ∧
    (parse data = .ok message →
      message.serialize = data.take ((cutFields data).offset + checksumFieldSize)) ∧
    (message.Built → (∀ field ∈ message.fields, field.tag.Canonical) →
      parse message.serialize = .ok message) := by
  refine ⟨?_, serialize_eq_take_of_parse_eq_ok, ?_⟩
  · rw [parse_eq_ok_iff]
    constructor
    · rintro ⟨canonical, written⟩
      exact ⟨fun field member => (canonical field member).tag,
        fun field member => (canonical field member).length, written⟩
    · rintro ⟨tags, lengths, written⟩
      exact ⟨fun field member => ⟨tags field member, lengths field member⟩, written⟩
  · intro built tags
    exact parse_eq_ok_iff.mpr ⟨built.canonical tags, List.prefix_rfl⟩

/-- A report with an empty field of an unlisted tag is read back, whatever follows. -/
theorem parse_language_unlisted_tag :
    let message := (ofReply .statusReport).push (.unknown 200) []
    parse (message.serialize ++ [0xFF]) = .ok message ∧
      message.serialize = (message.serialize ++ [0xFF]).take
        ((cutFields (message.serialize ++ [0xFF])).offset + checksumFieldSize) ∧
      message.Built ∧ parse message.serialize = .ok message := by
  intro message
  have tags : ∀ field ∈ message.fields, ∃ code, code ≠ checksumCode ∧
      field.tag = Tag.ofCode code := by
    intro field member
    simp only [message, ofReply, addReply, push, empty, List.nil_append, List.mem_append,
      List.mem_singleton] at member
    rcases member with rfl | rfl
    · exact ⟨2, by decide, rfl⟩
    · exact ⟨200, by decide, rfl⟩
  have built : message.Built := .raw (.reply .empty .statusReport) (.unknown 200) [] rfl
  have language := parse_language (message.serialize ++ [0xFF]) message
  have accepted : parse (message.serialize ++ [0xFF]) = .ok message :=
    language.1.mpr ⟨tags, fun field member => (built.fits field member).2,
      List.prefix_append _ _⟩
  refine ⟨accepted, language.2.1 accepted, built, ?_⟩
  exact (parse_language message.serialize message).2.2 built fun field member =>
    (tags field member).imp fun _ tag => tag.2

end Message

end OpticalLink
