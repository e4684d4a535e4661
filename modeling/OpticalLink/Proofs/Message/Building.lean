import OpticalLink.Proofs.Message.Kinds
import OpticalLink.Proofs.Message.Verdicts

/-!
# Messages from builder calls

A message is assembled by any builder calls in a row, and a call that fails leaves it as it is.
Whether a call fails depends on the call alone: on its tag, which may be any value, and on the size
of its value. `Message.assemble` is the message that comes of it, and its fields are those of the
calls that do not fail.

The tag that ends a message is refused by its name, but not by its code: an unknown tag may carry
the same code, and then the first field with it is read as the checksum field of the fields before
it. `Message.parse_assemble` proves that the written message is read back whole exactly if no call
smuggles that code in, and what becomes of it otherwise.
-/

namespace OpticalLink

/-- A call of a builder: any tag and value at all, or a typed value. -/
inductive BuilderCall where
  | raw (tag : Tag) (value : Bytes)
  | typed (kind : FieldKind) (value : kind.Value)

namespace BuilderCall

/-- The field that a call is to add. -/
def field : BuilderCall → Field
  | raw tag value => ⟨tag, value⟩
  | typed kind value => ⟨kind.tag, kind.encode value⟩

/-- The result of a call. -/
def perform : BuilderCall → Message → Except MessageError Message
  | raw tag value, message => message.addRaw tag value
  | typed kind value, message => .ok (kind.add message value)

/-- Whether a call succeeds: its tag is not the checksum tag, and its value fits a header. -/
def Succeeds (call : BuilderCall) : Prop :=
  call.field.tag ≠ .checksum ∧ call.field.value.length ≤ maxValueLength

instance (call : BuilderCall) : Decidable call.Succeeds := by
  unfold Succeeds
  infer_instance

/-- The message after a call. -/
def apply (message : Message) (call : BuilderCall) : Message :=
  match call.perform message with
  | .ok result => result
  | .error _ => message

variable {call : BuilderCall}

/-- Typed values are always accepted. -/
theorem succeeds_typed (kind : FieldKind) (value : kind.Value) :
    (typed kind value).Succeeds :=
  ⟨kind.tag_ne_checksum, FieldKind.length_encode_le value⟩

/-- A call that succeeds adds its field at the end. -/
theorem perform_of_succeeds (succeeds : call.Succeeds) (message : Message) :
    call.perform message = .ok (message.push call.field.tag call.field.value) := by
  obtain ⟨allowed, fits⟩ := succeeds
  cases call with
  | raw tag value => exact (if_neg allowed).trans (if_neg (Nat.not_lt.mpr fits))
  | typed kind value => exact congrArg Except.ok (kind.add_eq message value)

/-- Every other call fails, for its tag or else for its size. -/
theorem perform_of_not_succeeds (fails : ¬ call.Succeeds) (message : Message) :
    call.perform message = .error (if call.field.tag = .checksum then .reservedTag checksumCode
      else .valueTooLong call.field.tag.code call.field.value.length) := by
  cases call with
  | raw tag value =>
    by_cases reserved : tag = .checksum
    · subst reserved
      rfl
    · have long : maxValueLength < value.length :=
        Nat.lt_of_not_le fun fits => fails ⟨reserved, fits⟩
      rw [perform, Message.addRaw, field, if_neg reserved, if_neg reserved, if_pos long]
  | typed kind value => exact absurd (succeeds_typed kind value) fails

/-- Which calls succeed does not depend on the message. -/
theorem perform_eq_ok_iff (call : BuilderCall) (message : Message) :
    (∃ result, call.perform message = .ok result) ↔ call.Succeeds := by
  constructor
  · rintro ⟨result, performed⟩
    refine Decidable.byContradiction fun fails => ?_
    rw [perform_of_not_succeeds fails] at performed
    cases performed
  · intro succeeds
    exact ⟨_, perform_of_succeeds succeeds message⟩

/-- A call that succeeds adds its field, and any other changes nothing. -/
theorem fields_apply (message : Message) (call : BuilderCall) :
    (apply message call).fields =
      message.fields ++ if call.Succeeds then [call.field] else [] := by
  by_cases succeeds : call.Succeeds
  · rw [apply, perform_of_succeeds succeeds, if_pos succeeds]
    rfl
  · rw [apply, perform_of_not_succeeds succeeds, if_neg succeeds, List.append_nil]

/-- A call that fails leaves the message as it is. -/
theorem apply_of_not_succeeds (fails : ¬ call.Succeeds) (message : Message) :
    apply message call = message := by
  rw [apply, perform_of_not_succeeds fails]

end BuilderCall

/-- The fields of the calls that succeed. -/
def addedFields (calls : List BuilderCall) : List Field :=
  (calls.filter fun call => call.Succeeds).map BuilderCall.field

namespace Message

/-- The message that comes of some calls in a row, from the message without fields. -/
def assemble (calls : List BuilderCall) : Message := calls.foldl BuilderCall.apply .empty

/-- The fields of calls in a row are added in their order. -/
theorem fields_foldl_apply (message : Message) (calls : List BuilderCall) :
    (calls.foldl BuilderCall.apply message).fields = message.fields ++ addedFields calls := by
  induction calls generalizing message with
  | nil => exact (List.append_nil _).symm
  | cons call calls inductionHypothesis =>
    rw [List.foldl_cons, inductionHypothesis, BuilderCall.fields_apply, List.append_assoc,
      addedFields, addedFields, List.filter_cons]
    by_cases succeeds : call.Succeeds <;> simp [succeeds]

/-- An assembled message has the fields of the calls that succeed. -/
theorem fields_assemble (calls : List BuilderCall) :
    (assemble calls).fields = addedFields calls :=
  fields_foldl_apply .empty calls

/-- The fields of calls that succeed have no checksum tag, and their values fit. -/
theorem of_mem_addedFields {calls : List BuilderCall} {field : Field}
    (member : field ∈ addedFields calls) :
    field.tag ≠ .checksum ∧ field.value.length ≤ maxValueLength := by
  obtain ⟨call, isCall, rfl⟩ := List.mem_map.mp member
  exact of_decide_eq_true (List.mem_filter.mp isCall).2

/-! ## Smuggled codes -/

end Message

/-- Two tags have the code that ends a message: the checksum tag, and an unknown one. -/
theorem Tag.code_eq_checksumCode_iff {tag : Tag} :
    tag.code = checksumCode ↔ tag = .checksum ∨ tag = .unknown checksumCode := by
  cases tag <;> simp [Tag.code, checksumCode]

namespace Message

section Smuggled

variable {message : Message} {before after : List Field} {field : Field}
  (fits : ∀ other ∈ message.fields, other.value.length ≤ maxValueLength)
  (fields_eq : message.fields = before ++ field :: after)
  (codes : ∀ other ∈ before, other.tag.code ≠ checksumCode)
  (code : field.tag.code = checksumCode)
include fits fields_eq codes code

/-- The first field with the code that ends a message is read as the checksum field of the fields
before it, and nothing behind it is looked at. -/
theorem parse_of_checksumCode :
    (field.value.length ≠ 4 → parse message.serialize =
      .error (.invalidChecksumLength (UInt16.ofNat field.value.length))) ∧
    ∀ expected, field.value = BigEndian.bytes32 expected → parse message.serialize =
      if expected = checksum (before.flatMap Field.wire) then .ok ⟨before.map Field.reread⟩
      else .error (.checksumMismatch expected (checksum (before.flatMap Field.wire))) := by
  have canonical : ∀ other ∈ before.map Field.reread, other.Canonical :=
    canonical_map_reread (fun other member => fits other (by simp [fields_eq, member])) codes
  have fieldFits : field.value.length ≤ maxValueLength := fits field (by simp [fields_eq])
  have whole := serialize_eq_append fields_eq
  rw [List.append_assoc, ← flatMap_wire_reread before, ← field.wire_reread,
    Field.reread_of_checksumCode code] at whole
  rw [whole]
  constructor
  · intro wrong
    exact parse_wrong_length canonical fieldFits wrong _
  · intro expected value_eq
    rw [value_eq, parse_four_bytes canonical, flatMap_wire_reread]

/-- Only the fields before that field can be accepted. -/
theorem eq_of_parse_of_checksumCode {read : Message}
    (accepted : parse message.serialize = .ok read) : read = ⟨before.map Field.reread⟩ := by
  obtain ⟨wrongSize, fourBytes⟩ := parse_of_checksumCode fits fields_eq codes code
  by_cases size : field.value.length = 4
  · obtain ⟨expected, value_eq⟩ := BigEndian.exists_eq_bytes32 size
    rw [fourBytes expected value_eq] at accepted
    split at accepted
    next => exact (Except.ok.inj accepted).symm
    next => cases accepted
  · rw [wrongSize size] at accepted
    cases accepted

end Smuggled

/-- A written message is read back with all its codes and values exactly if none of its fields has
the code that ends a message. -/
theorem exists_parse_same_iff {message : Message}
    (fits : ∀ field ∈ message.fields, field.value.length ≤ maxValueLength) :
    (∃ read, parse message.serialize = .ok read ∧
        read.fields.map (fun field => (field.tag.code, field.value)) =
          message.fields.map fun field => (field.tag.code, field.value)) ↔
      ∀ field ∈ message.fields, field.tag.code ≠ checksumCode := by
  constructor
  · rintro ⟨read, accepted, same⟩
    rcases eq_or_exists_checksumCode message.fields with
      codes | ⟨before, first, after, split, codes, code⟩
    · exact codes
    · -- The first such field cuts the message off, so that fields are missing.
      have short := eq_of_parse_of_checksumCode fits split codes code accepted
      have fewer : before.length = message.fields.length := by
        simpa only [short, List.length_map] using congrArg List.length same
      rw [split, List.length_append, List.length_cons] at fewer
      omega
  · intro codes
    refine ⟨⟨message.fields.map Field.reread⟩, parse_serialize_of_codes fits codes, ?_⟩
    simp [Field.reread, Function.comp_def]

/-- Calls of builders in a row make the message whose fields are those of the calls that succeed.
The written message is read back with the codes and values of all these fields exactly if no call
smuggled in the unknown tag with the code that ends a message. The first field with that tag is
read as the checksum field of the fields before it: it is refused for its size or its sum, or it
is accepted, and then it is lost with all fields behind it. -/
theorem parse_assemble (calls : List BuilderCall) :
    let message := assemble calls
    let added := addedFields calls
    message.fields = added ∧
    (∀ call prior, (∃ result, BuilderCall.perform call prior = .ok result) ↔ call.Succeeds) ∧
    (∀ call, ¬ call.Succeeds → assemble (calls ++ [call]) = message) ∧
    ((∃ read, parse message.serialize = .ok read ∧
        read.fields.map (fun field => (field.tag.code, field.value)) =
          added.map fun field => (field.tag.code, field.value)) ↔
      ∀ field ∈ added, field.tag ≠ .unknown checksumCode) ∧
    (∀ before field after, added = before ++ field :: after →
      (∀ other ∈ before, other.tag ≠ .unknown checksumCode) →
      field.tag = .unknown checksumCode →
      (field.value.length ≠ 4 → parse message.serialize =
        .error (.invalidChecksumLength (UInt16.ofNat field.value.length))) ∧
      ∀ expected, field.value = BigEndian.bytes32 expected → parse message.serialize =
        if expected = checksum (before.flatMap Field.wire) then .ok ⟨before.map Field.reread⟩
        else .error (.checksumMismatch expected (checksum (before.flatMap Field.wire)))) := by
  intro message added
  have fields_eq : message.fields = added := fields_assemble calls
  have fits : ∀ field ∈ message.fields, field.value.length ≤ maxValueLength := by
    rw [fields_eq]
    exact fun field member => (of_mem_addedFields member).2
  have code_iff {field : Field} (member : field ∈ added) :
      field.tag.code = checksumCode ↔ field.tag = .unknown checksumCode := by
    rw [Tag.code_eq_checksumCode_iff]
    exact or_iff_right (of_mem_addedFields member).1
  refine ⟨fields_eq, BuilderCall.perform_eq_ok_iff, ?_, ?_, ?_⟩
  · intro call fails
    rw [assemble, List.foldl_append]
    exact BuilderCall.apply_of_not_succeeds fails _
  · rw [← fields_eq, exists_parse_same_iff fits, fields_eq]
    exact forall₂_congr fun field member => not_congr (code_iff member)
  · intro before field after split first here
    have isAdded {other : Field} (member : other ∈ before ++ field :: after) : other ∈ added :=
      split ▸ member
    refine parse_of_checksumCode fits (fields_eq.trans split) (fun other member => ?_)
      ((code_iff (isAdded (by simp))).mpr here)
    exact (not_congr (code_iff (isAdded (List.mem_append_left _ member)))).mpr (first other member)

/-- An unknown tag with the code that ends a message passes the builder, and the written message is
accepted as one without any field. -/
theorem assembled_field_read_as_checksum :
    let message := assemble [.raw (.unknown 3) [0, 0, 0, 0]]
    message.fields = [⟨.unknown 3, [0, 0, 0, 0]⟩] ∧
      message.serialize = [3, 0, 4, 0, 0, 0, 0, 3, 0, 4, 0, 0, 0, 7] ∧
      parse message.serialize = .ok .empty ∧
      ¬ ∃ read, parse message.serialize = .ok read ∧
        read.fields.map (fun field => (field.tag.code, field.value)) =
          message.fields.map fun field => (field.tag.code, field.value) := by
  intro message
  have accepted : parse message.serialize = .ok .empty :=
    parse_eq_ok_iff.mpr ⟨fun field member => absurd member List.not_mem_nil, by decide⟩
  refine ⟨rfl, by decide, accepted, ?_⟩
  rintro ⟨read, readAccepted, same⟩
  rw [accepted] at readAccepted
  cases readAccepted
  cases same

end Message

end OpticalLink
