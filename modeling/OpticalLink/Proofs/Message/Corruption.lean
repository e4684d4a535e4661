import OpticalLink.Proofs.Message.Endings

/-!
# Changed bytes

The checksum of a message adds up all bytes before it, so one changed byte always changes the
sum (`checksum_set_ne`). Reading compares the sum with the first checksum field that it comes
to, though, and a changed tag or length may bring it to another one than was written.
`Message.Misread` names these cases, and `Message.parse_changed_byte` proves that there are no
others: every change that leaves the fields where they are is reported as a wrong sum.
-/

namespace OpticalLink

/-! ## Sums -/

/-- The first byte adds to the sum of the others. -/
theorem checksum_cons (byte : UInt8) (rest : Bytes) :
    checksum (byte :: rest) = byte.toUInt32 + checksum rest := by
  have goesOn (start : UInt32) : rest.foldl (fun sum byte => sum + byte.toUInt32) start =
      start + checksum rest := by
    induction rest generalizing start with
    | nil => simp [checksum]
    | cons next rest inductionHypothesis =>
      have fromZero : checksum (next :: rest) = next.toUInt32 + checksum rest := by
        rw [checksum, List.foldl_cons, inductionHypothesis, UInt32.zero_add]
      rw [List.foldl_cons, inductionHypothesis, fromZero, UInt32.add_assoc]
  rw [checksum, List.foldl_cons, goesOn, UInt32.zero_add]

/-- A byte that changes changes the sum. -/
theorem checksum_set_ne {bytes : Bytes} {position : Nat} {byte : UInt8}
    (inside : position < bytes.length) (changed : bytes[position]? ≠ some byte) :
    checksum (bytes.set position byte) ≠ checksum bytes := by
  induction bytes generalizing position with
  | nil => cases inside
  | cons first rest inductionHypothesis =>
    cases position with
    | zero =>
      intro same
      rw [List.set_cons_zero, checksum_cons, checksum_cons, UInt32.add_left_inj,
        UInt8.toUInt32_inj] at same
      exact changed (by rw [same]; rfl)
    | succ position =>
      intro same
      rw [List.set_cons_succ, checksum_cons, checksum_cons, UInt32.add_right_inj] at same
      exact inductionHypothesis (Nat.lt_of_succ_lt_succ inside) changed same

/-- A checksum field tells the sum that it was written for. -/
theorem checksum_eq_of_checksumField_append_eq {first second firstRest secondRest : Bytes}
    (same : checksumField first ++ firstRest = checksumField second ++ secondRest) :
    checksum first = checksum second := by
  have cut := congrArg cutField? same
  rw [cutField?_checksumField_append, cutField?_checksumField_append] at cut
  have values : BigEndian.bytes32 (checksum first) = BigEndian.bytes32 (checksum second) := by
    injection cut with parts
    injection parts with _ parts
    injection parts
  exact BigEndian.bytes32_inj.mp values

/-! ## Where a byte stands -/

/-- A change in the length of a field leaves its tag and its value. -/
theorem Field.wire_set_length (field : Field) {index : Nat} (index_lt : index < 2) (byte : UInt8) :
    field.wire.set (1 + index) byte =
      field.tag.code :: ((BigEndian.bytes16 field.length).set index byte ++ field.value) := by
  rw [wire, Nat.add_comm, List.cons_append, List.set_cons_succ,
    List.set_append_left _ _ (by simpa using index_lt)]

/-- Every byte before the checksum field stands in some field. -/
theorem exists_field_at {fields : List Field} {position : Nat}
    (inside : position < (fields.flatMap Field.wire).length) :
    ∃ before field after index, fields = before ++ field :: after ∧
      position = (before.flatMap Field.wire).length + index ∧ index < field.wireSize := by
  induction fields generalizing position with
  | nil => cases inside
  | cons first rest inductionHypothesis =>
    by_cases here : position < first.wireSize
    · exact ⟨[], first, rest, position, rfl, (Nat.zero_add position).symm, here⟩
    · have later : position - first.wireSize < (rest.flatMap Field.wire).length := by
        rw [List.flatMap_cons, List.length_append, Field.length_wire] at inside
        omega
      obtain ⟨before, field, after, index, rfl, position_eq, index_lt⟩ := inductionHypothesis later
      refine ⟨first :: before, field, after, index, rfl, ?_, index_lt⟩
      rw [List.flatMap_cons, List.length_append, Field.length_wire]
      omega

namespace Message

variable {message accepted : Message} {position : Nat} {byte : UInt8}
  {before after : List Field} {field : Field} {index : Nat}

/-- The bytes before the checksum field, around one field. -/
theorem fieldBytes_eq (fields_eq : message.fields = before ++ field :: after) :
    message.fieldBytes =
      before.flatMap Field.wire ++ (field.wire ++ after.flatMap Field.wire) := by
  rw [fieldBytes, fields_eq, List.flatMap_append, List.flatMap_cons]

/-- A change in a field leaves what stands before and behind the field. -/
theorem serialize_set (fields_eq : message.fields = before ++ field :: after)
    (index_lt : index < field.wireSize) (byte : UInt8) :
    message.serialize.set ((before.flatMap Field.wire).length + index) byte =
      before.flatMap Field.wire ++ (field.wire.set index byte ++
        (after.flatMap Field.wire ++ checksumField message.fieldBytes)) := by
  have split : message.serialize = before.flatMap Field.wire ++ (field.wire ++
      (after.flatMap Field.wire ++ checksumField message.fieldBytes)) := by
    simp only [serialize, fieldBytes_eq fields_eq, List.append_assoc]
  rw [split, List.set_append_right _ _ (Nat.le_add_right _ _), Nat.add_sub_cancel_left,
    List.set_append_left _ _ (by rwa [Field.length_wire])]

/-! ## Changes that leave the fields where they are -/

/-- A change of a byte that keeps every field where it is: a value changes, or a tag does and
does not become the code that ends a message. -/
def KeepsLayout (message : Message) (position : Nat) (byte : UInt8) : Prop :=
  ∃ before field after index, message.fields = before ++ field :: after ∧
    position = (before.flatMap Field.wire).length + index ∧ index < field.wireSize ∧
    (index = 0 ∧ byte ≠ checksumCode ∨ fieldHeaderSize ≤ index)

/-- A field is canonical again after such a change. -/
theorem exists_wire_eq_set (canonical : field.Canonical)
    (keeps : index = 0 ∧ byte ≠ checksumCode ∨ fieldHeaderSize ≤ index) :
    ∃ changed : Field, changed.Canonical ∧ changed.wire = field.wire.set index byte := by
  rcases keeps with ⟨rfl, different⟩ | inValue
  · refine ⟨⟨Tag.ofCode byte, field.value⟩, ⟨⟨byte, different, rfl⟩, canonical.length⟩, ?_⟩
    simp only [Field.wire, Field.length, Tag.code_ofCode]
    rfl
  · obtain ⟨offset, rfl⟩ := Nat.exists_eq_add_of_le inValue
    refine ⟨⟨field.tag, field.value.set offset byte⟩, ⟨canonical.tag, ?_⟩, ?_⟩
    · rw [List.length_set]
      exact canonical.length
    · have header : (field.tag.code :: BigEndian.bytes16 field.length).length = fieldHeaderSize :=
        rfl
      rw [Field.wire, Field.wire, List.set_append_right _ _ (by omega), header,
        Nat.add_sub_cancel_left]
      simp only [Field.length, List.length_set]

/-- Canonical fields with the checksum field of other bytes are refused for their sum. -/
theorem parse_eq_mismatch (canonical : message.Canonical) {other : Bytes}
    (different : checksum other ≠ checksum message.fieldBytes) :
    parse (message.fieldBytes ++ checksumField other) =
      .error (.checksumMismatch (checksum other) (checksum message.fieldBytes)) := by
  have result := parse_four_bytes canonical (checksum other) []
  rw [List.append_nil, ← checksumField_eq_wire] at result
  exact result.trans (if_neg different)

/-- A change that keeps every field where it is shows in the sum. -/
theorem parse_set_of_keepsLayout (canonical : message.Canonical)
    (covered : position < message.fieldBytes.length)
    (changed : message.fieldBytes[position]? ≠ some byte)
    (keeps : message.KeepsLayout position byte) :
    parse (message.serialize.set position byte) =
      .error (.checksumMismatch (checksum message.fieldBytes)
        (checksum (message.fieldBytes.set position byte))) := by
  obtain ⟨before, field, after, index, fields_eq, rfl, index_lt, kept⟩ := keeps
  have fieldCanonical : field.Canonical := canonical field (by simp [fields_eq])
  obtain ⟨other, otherCanonical, other_eq⟩ := exists_wire_eq_set fieldCanonical kept
  have wholeCanonical : Message.Canonical ⟨before ++ other :: after⟩ := by
    intro member isMember
    rcases List.mem_append.mp isMember with earlier | later
    · exact canonical member (by simp [fields_eq, earlier])
    · rcases List.mem_cons.mp later with rfl | later
      · exact otherCanonical
      · exact canonical member (by simp [fields_eq, later])
  have corrupted_eq : message.serialize.set ((before.flatMap Field.wire).length + index) byte =
      fieldBytes ⟨before ++ other :: after⟩ ++ checksumField message.fieldBytes := by
    have whole_eq : fieldBytes ⟨before ++ other :: after⟩ = _ := fieldBytes_eq rfl
    rw [serialize_set fields_eq index_lt, ← other_eq, whole_eq]
    simp only [List.append_assoc]
  have bytes_eq : fieldBytes ⟨before ++ other :: after⟩ =
      message.fieldBytes.set ((before.flatMap Field.wire).length + index) byte := by
    rw [serialize, List.set_append_left _ _ covered] at corrupted_eq
    exact (List.append_cancel_right corrupted_eq).symm
  have different : checksum message.fieldBytes ≠
      checksum (fieldBytes ⟨before ++ other :: after⟩) := by
    rw [bytes_eq]
    exact (checksum_set_ne covered changed).symm
  rw [corrupted_eq, parse_eq_mismatch wholeCanonical different, bytes_eq]

/-! ## Changes that are read as something else -/

/-- A changed byte that goes unnoticed, with the message that is accepted. -/
inductive Misread (message : Message) (position : Nat) (byte : UInt8) (accepted : Message) : Prop
  /-- The tag of a field becomes the code that ends a message, and the value of the field happens
  to be the sum of all bytes before it. -/
  | tag {field : Field} {after : List Field}
      (fields_eq : message.fields = accepted.fields ++ field :: after)
      (position_eq : position = accepted.fieldBytes.length)
      (byte_eq : byte = checksumCode)
      (value_eq : field.value = BigEndian.bytes32 (checksum accepted.fieldBytes))
  /-- The length of a field changes. What stands behind the field as it is announced now
  happens to be complete fields and a checksum field over all that is read. -/
  | length {before after more : List Field} {field : Field} {value rest : Bytes} {index : Nat}
      (fields_eq : message.fields = before ++ field :: after)
      (accepted_eq : accepted.fields = before ++ ⟨field.tag, value⟩ :: more)
      (canonical : accepted.Canonical)
      (position_eq : position = (before.flatMap Field.wire).length + 1 + index)
      (index_lt : index < 2)
      (length_eq : BigEndian.bytes16 (Field.mk field.tag value).length =
        (BigEndian.bytes16 field.length).set index byte)
      (bytes_eq : value ++ more.flatMap Field.wire ++ checksumField accepted.fieldBytes ++ rest =
        field.value ++ after.flatMap Field.wire ++ checksumField message.fieldBytes)

/-- Where canonical fields are read, the fields that are known to stand there come first. -/
theorem exists_eq_append_of_wire_append_eq {read written : List Field} {ending rest : Bytes}
    (readCanonical : ∀ field ∈ read, field.Canonical)
    (writtenCanonical : ∀ field ∈ written, field.Canonical) (ends : EndsFields ending)
    (same : read.flatMap Field.wire ++ ending = written.flatMap Field.wire ++ rest) :
    ∃ more, read = written ++ more ∧ rest = more.flatMap Field.wire ++ ending := by
  obtain ⟨run, run_eq⟩ : ∃ run, cutFields rest = run := ⟨_, rfl⟩
  obtain ⟨canonical, rest_eq, _, runEnds⟩ := cutFields_eq_iff.mp run_eq
  have asRead : cutFields (read.flatMap Field.wire ++ ending) =
      ⟨read, (read.flatMap Field.wire).length, ending⟩ :=
    cutFields_eq_iff.mpr ⟨readCanonical, rfl, rfl, ends⟩
  have asWritten : cutFields (read.flatMap Field.wire ++ ending) =
      ⟨written ++ run.fields, ((written ++ run.fields).flatMap Field.wire).length, run.rest⟩ := by
    refine cutFields_eq_iff.mpr ⟨?_, ?_, rfl, runEnds⟩
    · intro field member
      exact (List.mem_append.mp member).elim (writtenCanonical field) (canonical field)
    · rw [same, List.flatMap_append, List.append_assoc, ← rest_eq]
  injection asRead.symm.trans asWritten with fields_eq _ ending_eq
  exact ⟨run.fields, fields_eq, by rw [ending_eq, ← rest_eq]⟩

/-- A misread message stands at the front of the changed bytes. -/
theorem Misread.parse_eq_ok (canonical : message.Canonical)
    (misread : message.Misread position byte accepted) :
    parse (message.serialize.set position byte) = .ok accepted := by
  cases misread with
  | @tag field after fields_eq position_eq byte_eq value_eq =>
    have acceptedCanonical : accepted.Canonical := fun other member =>
      canonical other (by simp [fields_eq, member])
    have header : field.wire.set 0 byte = checksumField accepted.fieldBytes := by
      rw [checksumField_eq_wire, byte_eq, ← value_eq]
      rfl
    have inside : 0 < field.wireSize := by
      simp only [Field.wireSize, fieldHeaderSize]
      omega
    have corrupted := serialize_set fields_eq inside byte
    rw [Nat.add_zero, header] at corrupted
    rw [position_eq, fieldBytes, corrupted, ← List.append_assoc]
    exact parse_serialize_append acceptedCanonical _
  | @length before after more field value rest index fields_eq accepted_eq acceptedCanonical
      position_eq index_lt length_eq bytes_eq =>
    have inside : 1 + index < field.wireSize := by
      simp only [Field.wireSize, fieldHeaderSize]
      omega
    have corrupted := serialize_set fields_eq inside byte
    rw [← Nat.add_assoc, ← position_eq] at corrupted
    have whole : message.serialize.set position byte = accepted.serialize ++ rest := by
      have acceptedBytes := fieldBytes_eq accepted_eq
      rw [corrupted, field.wire_set_length index_lt, ← length_eq, serialize]
      generalize checksumField accepted.fieldBytes = ending at bytes_eq ⊢
      simp only [acceptedBytes, Field.wire, List.cons_append, List.append_assoc] at bytes_eq ⊢
      rw [bytes_eq]
    rw [whole]
    exact parse_serialize_append acceptedCanonical rest

/-- A message that is accepted in spite of a change ends before the message that was written. -/
theorem length_serialize_lt_of_parse_set (covered : position < message.fieldBytes.length)
    (changed : message.fieldBytes[position]? ≠ some byte)
    (read : parse (message.serialize.set position byte) = .ok accepted) :
    accepted.serialize.length < message.serialize.length := by
  obtain ⟨_, rest, whole⟩ := parse_eq_ok_iff.mp read
  rw [serialize, serialize, List.set_append_left _ _ covered, List.append_assoc] at whole
  have lengths := congrArg List.length whole
  simp only [List.length_append, List.length_set, length_checksumField] at lengths
  have different : accepted.fieldBytes.length ≠ message.fieldBytes.length := by
    intro same
    have sameLength : accepted.fieldBytes.length =
        (message.fieldBytes.set position byte).length := by
      rw [same, List.length_set]
    obtain ⟨bytes_eq, fields⟩ := List.append_inj whole sameLength
    have sums := checksum_eq_of_checksumField_append_eq
      (fields.trans (List.append_nil _).symm)
    rw [bytes_eq] at sums
    exact checksum_set_ne covered changed sums
  rw [length_serialize_eq, length_serialize_eq]
  omega

/-- Where a tag has become the code of the checksum field, only the value can be the sum. -/
theorem value_eq_of_tag_changed {more : List Field} {covered rest tail : Bytes}
    (fits : field.value.length ≤ maxValueLength)
    (canonical : ∀ other ∈ more, other.Canonical)
    (same : field.wire.set 0 checksumCode ++ tail =
      more.flatMap Field.wire ++ (checksumField covered ++ rest)) :
    more = [] ∧ field.value = BigEndian.bytes32 (checksum covered) := by
  cases more with
  | nil =>
    have asField : field.wire.set 0 checksumCode = (Field.mk .checksum field.value).wire := rfl
    have alike : (Field.mk .checksum field.value).value.length ≤ maxValueLength := fits
    have first := cutField?_wire_append alike tail
    rw [← asField, same, List.flatMap_nil, List.nil_append, cutField?_checksumField_append,
      Option.some.injEq, Prod.mk.injEq, Prod.mk.injEq] at first
    exact ⟨rfl, first.2.1.symm⟩
  | cons other more =>
    rw [List.flatMap_cons, Field.wire, Field.wire] at same
    injection same with code_eq
    exact absurd code_eq.symm (canonical other List.mem_cons_self).code_ne

/-- Where a length has changed, a field with the new length is read. -/
theorem exists_value_of_length_changed {more : List Field} {covered rest tail : Bytes}
    (index_lt : index < 2) (fieldCanonical : field.Canonical)
    (canonical : ∀ other ∈ more, other.Canonical)
    (same : field.wire.set (1 + index) byte ++ tail =
      more.flatMap Field.wire ++ (checksumField covered ++ rest)) :
    ∃ value others, more = ⟨field.tag, value⟩ :: others ∧
      BigEndian.bytes16 (Field.mk field.tag value).length =
        (BigEndian.bytes16 field.length).set index byte ∧
      value ++ others.flatMap Field.wire ++ checksumField covered ++ rest =
        field.value ++ tail := by
  rw [field.wire_set_length index_lt, List.cons_append, List.append_assoc] at same
  cases more with
  | nil =>
    injection same with code_eq
    exact absurd code_eq fieldCanonical.code_ne
  | cons other others =>
    have otherCanonical := canonical other List.mem_cons_self
    rw [List.flatMap_cons, Field.wire, List.cons_append, List.cons_append, List.cons_append,
      List.append_assoc, List.append_assoc] at same
    injection same with code_eq behind
    obtain ⟨length_eq, bytes_eq⟩ := List.append_inj behind (by simp)
    have tag_eq : field.tag = other.tag := by
      rw [← fieldCanonical.ofCode_code, code_eq, otherCanonical.ofCode_code]
    refine ⟨other.value, others, ?_, ?_, ?_⟩
    · rw [tag_eq]
    · exact length_eq.symm
    · rw [bytes_eq]
      simp only [List.append_assoc]

/-- A change is not noticed only if the message is misread. -/
theorem misread_of_parse_eq_ok (canonical : message.Canonical)
    (covered : position < message.fieldBytes.length)
    (changed : message.fieldBytes[position]? ≠ some byte)
    (read : parse (message.serialize.set position byte) = .ok accepted) :
    message.Misread position byte accepted := by
  obtain ⟨before, field, after, index, fields_eq, position_eq, index_lt⟩ := exists_field_at covered
  by_cases keeps : index = 0 ∧ byte ≠ checksumCode ∨ fieldHeaderSize ≤ index
  · have refused := parse_set_of_keepsLayout canonical covered changed
      ⟨before, field, after, index, fields_eq, position_eq, index_lt, keeps⟩
    rw [read] at refused
    cases refused
  · obtain ⟨acceptedCanonical, rest, whole⟩ := parse_eq_ok_iff.mp read
    have beforeCanonical : ∀ other ∈ before, other.Canonical :=
      fun other member => canonical other (by simp [fields_eq, member])
    rw [position_eq, serialize_set fields_eq index_lt, serialize, List.append_assoc] at whole
    obtain ⟨more, accepted_eq, more_eq⟩ := exists_eq_append_of_wire_append_eq acceptedCanonical
      beforeCanonical (endsFields_checksumField_append _ rest) whole
    have moreCanonical : ∀ other ∈ more, other.Canonical :=
      fun other member => acceptedCanonical other (by simp [accepted_eq, member])
    have fieldCanonical : field.Canonical := canonical field (by simp [fields_eq])
    obtain ⟨rfl, rfl⟩ | ⟨offset, rfl, offset_lt⟩ : index = 0 ∧ byte = checksumCode ∨
        ∃ offset, index = 1 + offset ∧ offset < 2 := by
      rw [not_or, not_and, Decidable.not_not, fieldHeaderSize, Nat.not_le] at keeps
      by_cases first : index = 0
      · exact .inl ⟨first, keeps.1 first⟩
      · exact .inr ⟨index - 1, by omega, by omega⟩
    · obtain ⟨rfl, value_eq⟩ :=
        value_eq_of_tag_changed fieldCanonical.length moreCanonical more_eq
      rw [List.append_nil] at accepted_eq
      rw [← accepted_eq] at fields_eq position_eq
      exact .tag fields_eq position_eq rfl value_eq
    · obtain ⟨value, others, rfl, length_eq, bytes_eq⟩ :=
        exists_value_of_length_changed offset_lt fieldCanonical moreCanonical more_eq
      rw [← Nat.add_assoc] at position_eq
      rw [← List.append_assoc] at bytes_eq
      exact .length fields_eq accepted_eq acceptedCanonical position_eq offset_lt length_eq bytes_eq

/-- One byte before the checksum field of a written message changes. What is received is refused,
unless the message is misread: a tag becomes the code of the checksum field and the value behind
it is the sum so far, or a length changes and complete fields lead to a checksum field from
there. A misread message always loses bytes at its end. A change that keeps every field where
it is is reported as a wrong sum. -/
theorem parse_changed_byte (built : message.Built)
    (tags : ∀ field ∈ message.fields, field.tag.Canonical)
    (covered : position < message.fieldBytes.length)
    (changed : message.serialize[position]? ≠ some byte) :
    let received := message.serialize.set position byte
    ((∃ error, parse received = .error error) ↔
        ∀ accepted, ¬ message.Misread position byte accepted) ∧
      (∀ accepted, parse received = .ok accepted ↔ message.Misread position byte accepted) ∧
      (∀ accepted, parse received = .ok accepted →
        accepted.serialize.length < message.serialize.length) ∧
      (message.KeepsLayout position byte →
        parse received = .error (.checksumMismatch (checksum message.fieldBytes)
          (checksum (message.fieldBytes.set position byte)))) := by
  intro received
  have canonical : message.Canonical := built.canonical tags
  have changedCovered : message.fieldBytes[position]? ≠ some byte := by
    rwa [serialize, List.getElem?_append_left covered] at changed
  have accepted_iff (accepted : Message) :
      parse received = .ok accepted ↔ message.Misread position byte accepted :=
    ⟨misread_of_parse_eq_ok canonical covered changedCovered, Misread.parse_eq_ok canonical⟩
  refine ⟨?_, accepted_iff, fun accepted => length_serialize_lt_of_parse_set covered changedCovered,
    parse_set_of_keepsLayout canonical covered changedCovered⟩
  constructor
  · rintro ⟨error, refused⟩ accepted misread
    rw [(accepted_iff accepted).mpr misread] at refused
    cases refused
  · intro noMisreading
    cases outcome : parse received with
    | error error => exact ⟨error, rfl⟩
    | ok accepted => exact absurd ((accepted_iff accepted).mp outcome) (noMisreading accepted)

/-- A value that looks like a checksum field becomes one when the length before it is set to
zero. A change within that value is noticed. -/
theorem parse_changed_byte_embedded_checksum :
    let message : Message := ⟨[⟨.unknown 200, [3, 0, 4, 0, 0, 0, 200]⟩]⟩
    message.Built ∧ 5 < message.fieldBytes.length ∧
      parse (message.serialize.set 2 0) = .ok ⟨[⟨.unknown 200, []⟩]⟩ ∧
      parse (message.serialize.set 5 9) = .error (.checksumMismatch 414 419) := by
  intro message
  have built : message.Built :=
    .raw .empty (.unknown 200) [3, 0, 4, 0, 0, 0, 200] rfl
  have tags : ∀ field ∈ message.fields, field.tag.Canonical := by decide
  have shorter : Message.Canonical ⟨[⟨.unknown 200, []⟩]⟩ := by
    intro field member
    rw [List.mem_singleton.mp member]
    exact ⟨⟨200, by decide, rfl⟩, Nat.zero_le _⟩
  have misread : message.Misread 2 0 ⟨[⟨.unknown 200, []⟩]⟩ :=
    @Misread.length message 2 0 _ [] [] [] ⟨.unknown 200, [3, 0, 4, 0, 0, 0, 200]⟩ []
      (checksumField message.fieldBytes) 1 rfl rfl shorter rfl (by decide) rfl rfl
  have keeps : message.KeepsLayout 5 9 :=
    ⟨[], ⟨.unknown 200, [3, 0, 4, 0, 0, 0, 200]⟩, [], 5, rfl, rfl, by decide, by decide⟩
  have lengthCovered : 2 < message.fieldBytes.length := by decide
  have lengthChanged : message.serialize[2]? ≠ some 0 := by decide
  have valueCovered : 5 < message.fieldBytes.length := by decide
  have valueChanged : message.serialize[5]? ≠ some 9 := by decide
  obtain ⟨_, accepted_iff, _, _⟩ := parse_changed_byte built tags lengthCovered lengthChanged
  obtain ⟨_, _, _, noticed⟩ := parse_changed_byte built tags valueCovered valueChanged
  exact ⟨built, valueCovered, (accepted_iff _).mpr misread, noticed keeps⟩

/-- The report of error 5 is accepted as a report without an error code when one bit of a tag
changes: the bytes before the code add up to 5. -/
theorem error_code_read_as_checksum :
    let report := (ofReply .errorReport).addErrorReport 5
    report.Built ∧ (∀ field ∈ report.fields, field.tag.Canonical) ∧
      4 < report.fieldBytes.length ∧ report.serialize[4]? = some 7 ∧
      parse (report.serialize.set 4 3) = .ok (ofReply .errorReport) := by
  intro report
  have built : report.Built := .errorReport (.reply .empty .errorReport) 5
  have tags : ∀ field ∈ report.fields, field.tag.Canonical := by decide
  have misread : report.Misread 4 3 (ofReply .errorReport) :=
    .tag (rfl : report.fields = [⟨.reply, [2]⟩] ++ ⟨.errorReport, BigEndian.bytes32 5⟩ :: [])
      rfl rfl rfl
  exact ⟨built, tags, by decide, rfl, misread.parse_eq_ok (built.canonical tags)⟩

end Message

end OpticalLink
