import OpticalLink.Proofs.Message.Corruption
import Mathlib.Logic.ExistsUnique

/-!
# Verdicts

Reading ends in one of five ways, and what stands behind the longest opening of the data decides
which. `IsLongestOpening` is about the data alone: complete fields, none of them a checksum field,
and no longer run of them at the front. `Message.Judged` states each result as an equivalence over
the opening and what stands behind it, and `Message.verdicts` proves it of all byte strings.

A result that was reached at a checksum field is final: bytes behind that field change nothing. A
proper part of a written message is therefore accepted only if the message holds a checksum field
of its own before its end. `Message.EmbedsChecksum` is exactly this case. Canonical tags exclude it;
a field of the unknown tag whose code is the one that ends a message does not.
-/

namespace OpticalLink

/-! ## Openings -/

/-- Complete fields at the front of some data, none of them a checksum field. -/
structure IsOpening (fields : List Field) (data : Bytes) : Prop where
  canonical : ∀ field ∈ fields, field.Canonical
  written : fields.flatMap Field.wire <+: data

/-- The most such fields that there are. -/
structure IsLongestOpening (fields : List Field) (data : Bytes) : Prop where
  opening : IsOpening fields data
  longest : ∀ others, IsOpening others data → others.length ≤ fields.length

/-- Every opening is the first part of what reading cuts off. -/
theorem IsOpening.exists_eq_append {fields : List Field} {data : Bytes}
    (opening : IsOpening fields data) : ∃ more, (cutFields data).fields = fields ++ more := by
  obtain ⟨run, run_eq⟩ : ∃ run, cutFields data = run := ⟨_, rfl⟩
  obtain ⟨canonical, data_eq, _, ends⟩ := cutFields_eq_iff.mp run_eq
  obtain ⟨rest, rest_eq⟩ := opening.written
  obtain ⟨more, fields_eq, _⟩ := Message.exists_eq_append_of_wire_append_eq canonical
    opening.canonical ends (data_eq.symm.trans rest_eq.symm)
  exact ⟨more, by rw [run_eq, fields_eq]⟩

/-- What reading cuts off is an opening. -/
theorem isOpening_cutFields (data : Bytes) : IsOpening (cutFields data).fields data := by
  obtain ⟨run, run_eq⟩ : ∃ run, cutFields data = run := ⟨_, rfl⟩
  obtain ⟨canonical, data_eq, _, _⟩ := cutFields_eq_iff.mp run_eq
  rw [run_eq]
  exact ⟨canonical, run.rest, data_eq.symm⟩

/-- Reading cuts off the longest opening. -/
theorem isLongestOpening_iff {fields : List Field} {data : Bytes} :
    IsLongestOpening fields data ↔ (cutFields data).fields = fields := by
  constructor
  · rintro ⟨opening, longest⟩
    obtain ⟨more, fields_eq⟩ := opening.exists_eq_append
    have bound := longest _ (isOpening_cutFields data)
    rw [fields_eq, List.length_append] at bound
    have nothing : more = [] := List.length_eq_zero_iff.mp (by omega)
    rw [fields_eq, nothing, List.append_nil]
  · rintro rfl
    refine ⟨isOpening_cutFields data, fun others opening => ?_⟩
    obtain ⟨more, fields_eq⟩ := opening.exists_eq_append
    rw [fields_eq, List.length_append]
    exact Nat.le_add_right _ _

/-! ## All results -/

namespace Message

/-- Each result of reading some data, by the fields at its front and what stands behind them. -/
structure Judged (fields : List Field) (data : Bytes) : Prop where
  /-- The checksum is missing exactly where the data ends with the fields. -/
  missing : parse data = .error .missingChecksum ↔
    (fields.flatMap Field.wire).length = data.length
  /-- The data is cut short exactly where the rest is, and the place is that of the rest. -/
  truncated (offset : Nat) : parse data = .error (.truncated offset) ↔
    offset = (fields.flatMap Field.wire).length ∧
      (fields.flatMap Field.wire).length < data.length ∧
      CutShort (data.drop (fields.flatMap Field.wire).length)
  /-- Otherwise a complete checksum field stands there, and its value decides. -/
  otherwise (inside : (fields.flatMap Field.wire).length < data.length)
    (complete : ¬ CutShort (data.drop (fields.flatMap Field.wire).length)) :
    ∃ value behind, value.length ≤ maxValueLength ∧
      data.drop (fields.flatMap Field.wire).length = (Field.mk .checksum value).wire ++ behind ∧
      (∀ length, parse data = .error (.invalidChecksumLength length) ↔
        value.length ≠ 4 ∧ length.toNat = value.length) ∧
      (∀ expected computed, parse data = .error (.checksumMismatch expected computed) ↔
        value = BigEndian.bytes32 expected ∧ computed = checksum (fields.flatMap Field.wire) ∧
        expected ≠ computed) ∧
      (∀ message, parse data = .ok message ↔
        value = BigEndian.bytes32 (checksum (fields.flatMap Field.wire)) ∧ message = ⟨fields⟩)

/-- Every byte string is judged by its longest opening. -/
theorem judged {fields : List Field} {data : Bytes} (longest : IsLongestOpening fields data) :
    Judged fields data := by
  obtain ⟨run, run_eq⟩ : ∃ run, cutFields data = run := ⟨_, rfl⟩
  obtain ⟨canonical, rfl, _, ends⟩ := cutFields_eq_iff.mp run_eq
  obtain rfl : run.fields = fields := by rw [← isLongestOpening_iff.mp longest, run_eq]
  have rest_eq : (run.fields.flatMap Field.wire ++ run.rest).drop
      (run.fields.flatMap Field.wire).length = run.rest := List.drop_left
  rcases ends.cases with nothing | ⟨nonempty, short⟩ | ⟨value, behind, fits, checksum_eq⟩
  · have result := parse_fields canonical
    constructor <;> simp [nothing, result]
  · have result := parse_cutShort canonical nonempty short
    have inside : 0 < run.rest.length := List.length_pos_iff.mpr nonempty
    constructor
    · simp [result, nonempty]
    · intro offset
      simp [result, short, inside, eq_comm]
    · intro _ complete
      rw [rest_eq] at complete
      exact absurd short complete
  · have complete := not_cutShort_wire_append
      (show (Field.mk .checksum value).value.length ≤ _ from fits) behind
    have conclusive := conclusive_parse_of_checksum canonical fits behind
    rw [← checksum_eq] at complete conclusive
    constructor
    · refine iff_of_false (fun missing => by rwa [missing] at conclusive) ?_
      rw [List.length_append, checksum_eq]
      simp [Field.wire]
    · intro offset
      refine iff_of_false (fun truncated => by rwa [truncated] at conclusive) ?_
      rw [rest_eq]
      exact fun short => complete short.2.2
    · intro _ _
      refine ⟨value, behind, fits, rest_eq.trans checksum_eq, ?_⟩
      rw [checksum_eq]
      exact checksum_results canonical fits behind

/-- A result that was reached at a checksum field stays when bytes are added. -/
theorem parse_append_of_conclusive {data : Bytes} (conclusive : Conclusive (parse data))
    (more : Bytes) : parse (data ++ more) = parse data := by
  obtain ⟨run, run_eq⟩ : ∃ run, cutFields data = run := ⟨_, rfl⟩
  obtain ⟨canonical, rfl, _, ends⟩ := cutFields_eq_iff.mp run_eq
  rcases ends.cases with nothing | ⟨nonempty, short⟩ | ⟨value, behind, fits, checksum_eq⟩
  · rw [nothing, List.append_nil, parse_fields canonical] at conclusive
    cases conclusive
  · rw [parse_cutShort canonical nonempty short] at conclusive
    cases conclusive
  · rw [checksum_eq, List.append_assoc, List.append_assoc]
    exact parse_checksum_behind canonical fits _ _

/-! ## Parts of a written message -/

end Message

/-- The field as it is read from its written form. -/
def Field.reread (field : Field) : Field := ⟨Tag.ofCode field.tag.code, field.value⟩

/-- A field is written as it is read back. -/
@[simp] theorem Field.wire_reread (field : Field) : field.reread.wire = field.wire := by
  simp only [reread, wire, length, Tag.code_ofCode]

/-- What is read back is canonical, unless it is a checksum field or does not fit. -/
theorem Field.canonical_reread {field : Field} (fits : field.value.length ≤ maxValueLength)
    (different : field.tag.code ≠ checksumCode) : field.reread.Canonical :=
  ⟨⟨field.tag.code, different, rfl⟩, fits⟩

/-- A field with the code that ends a message is read back as a checksum field. -/
theorem Field.reread_of_checksumCode {field : Field} (code : field.tag.code = checksumCode) :
    field.reread = ⟨.checksum, field.value⟩ := by
  rw [reread, code]
  rfl

/-- Fields are written as they are read back. -/
theorem flatMap_wire_reread (fields : List Field) :
    (fields.map Field.reread).flatMap Field.wire = fields.flatMap Field.wire := by
  simp only [List.flatMap_map, Field.wire_reread]

namespace Message

variable {message : Message}

/-- Whether one of the fields is written as the checksum field of those before it. -/
def EmbedsChecksum (message : Message) : Prop :=
  ∃ before field after, message.fields = before ++ field :: after ∧
    (∀ other ∈ before, other.tag.code ≠ checksumCode) ∧
    field.wire = checksumField (before.flatMap Field.wire)

/-- The first field that is written with the code of a checksum field, if there is one. -/
theorem eq_or_exists_checksumCode (fields : List Field) :
    (∀ field ∈ fields, field.tag.code ≠ checksumCode) ∨
      ∃ before field after, fields = before ++ field :: after ∧
        (∀ other ∈ before, other.tag.code ≠ checksumCode) ∧ field.tag.code = checksumCode := by
  cases found : fields.find? fun field => field.tag.code == checksumCode with
  | none =>
    refine .inl fun field member same => ?_
    simpa [same] using List.find?_eq_none.mp found field member
  | some field =>
    obtain ⟨same, before, after, rfl, others⟩ := List.find?_eq_some_iff_append.mp found
    refine .inr ⟨before, field, after, rfl, fun other member => ?_, by simpa using same⟩
    simpa using others other member

/-- Fields without the code of a checksum field are read back canonical. -/
theorem canonical_map_reread {fields : List Field}
    (fits : ∀ field ∈ fields, field.value.length ≤ maxValueLength)
    (codes : ∀ field ∈ fields, field.tag.code ≠ checksumCode) :
    ∀ field ∈ fields.map Field.reread, field.Canonical := by
  intro field member
  obtain ⟨original, isMember, rfl⟩ := List.mem_map.mp member
  exact Field.canonical_reread (fits original isMember) (codes original isMember)

/-- A message is written as it is read back. -/
theorem serialize_map_reread (message : Message) :
    serialize ⟨message.fields.map Field.reread⟩ = message.serialize := by
  simp only [serialize, fieldBytes, flatMap_wire_reread]

/-- A message without the code of a checksum field is read back, with the tags of its codes. -/
theorem parse_serialize_of_codes
    (fits : ∀ field ∈ message.fields, field.value.length ≤ maxValueLength)
    (codes : ∀ field ∈ message.fields, field.tag.code ≠ checksumCode) :
    parse message.serialize = .ok ⟨message.fields.map Field.reread⟩ :=
  parse_eq_ok_iff.mpr
    ⟨canonical_map_reread fits codes, serialize_map_reread message ▸ List.prefix_rfl⟩

/-- A written message, cut behind one of its fields. -/
theorem serialize_eq_append {before after : List Field} {field : Field}
    (fields_eq : message.fields = before ++ field :: after) :
    message.serialize = before.flatMap Field.wire ++ field.wire ++
      (after.flatMap Field.wire ++ checksumField message.fieldBytes) := by
  simp only [serialize, fieldBytes_eq fields_eq, List.append_assoc]

/-- A proper part of a written message is accepted exactly if the message embeds a checksum. -/
theorem exists_accepted_part_iff
    (fits : ∀ field ∈ message.fields, field.value.length ≤ maxValueLength) :
    (∃ front accepted, front <+: message.serialize ∧ front ≠ message.serialize ∧
      parse front = .ok accepted) ↔ message.EmbedsChecksum := by
  constructor
  · rintro ⟨front, accepted, part, different, read⟩
    obtain ⟨canonical, written⟩ := parse_eq_ok_iff.mp read
    have whole : parse message.serialize = .ok accepted :=
      parse_eq_ok_iff.mpr ⟨canonical, written.trans part⟩
    rcases eq_or_exists_checksumCode message.fields with
      codes | ⟨before, field, after, fields_eq, codes, code⟩
    · -- The whole message is read back, so the part that is accepted is the whole.
      obtain rfl : _ = accepted :=
        Except.ok.inj ((parse_serialize_of_codes fits codes).symm.trans whole)
      rw [serialize_map_reread] at written
      exact absurd (part.eq_of_length_le written.length_le) different
    · refine ⟨before, field, after, fields_eq, codes, ?_⟩
      have beforeCanonical : ∀ other ∈ before.map Field.reread, other.Canonical :=
        canonical_map_reread (fun other member => fits other (by simp [fields_eq, member])) codes
      have fieldFits : field.value.length ≤ maxValueLength := fits field (by simp [fields_eq])
      have wire_eq : field.wire = (Field.mk .checksum field.value).wire := by
        rw [← Field.reread_of_checksumCode code, Field.wire_reread]
      rw [serialize_eq_append fields_eq, wire_eq, List.append_assoc, ← flatMap_wire_reread before,
        (checksum_results beforeCanonical fieldFits _).2.2] at whole
      rw [wire_eq, checksumField_eq_wire, whole.1, flatMap_wire_reread]
  · rintro ⟨before, field, after, fields_eq, codes, wire_eq⟩
    have beforeCanonical : ∀ other ∈ before.map Field.reread, other.Canonical :=
      canonical_map_reread (fun other member => fits other (by simp [fields_eq, member])) codes
    have front_eq : serialize ⟨before.map Field.reread⟩ =
        before.flatMap Field.wire ++ field.wire := by
      rw [serialize, fieldBytes, flatMap_wire_reread, wire_eq]
    have whole_eq := serialize_eq_append fields_eq
    refine ⟨before.flatMap Field.wire ++ field.wire, ⟨before.map Field.reread⟩,
      ⟨_, whole_eq.symm⟩, ?_, parse_eq_ok_iff.mpr ⟨beforeCanonical, front_eq ▸ List.prefix_rfl⟩⟩
    rw [whole_eq]
    simp [checksumField]

/-- Canonical tags leave no room for a checksum field among the fields. -/
theorem Canonical.not_embedsChecksum (canonical : message.Canonical) :
    ¬ message.EmbedsChecksum := by
  rintro ⟨before, field, after, fields_eq, _, wire_eq⟩
  have different := (canonical field (by simp [fields_eq])).code_ne
  rw [Field.wire, checksumField] at wire_eq
  exact different (List.cons.inj wire_eq).1

/-! ## The verdicts -/

/-- Every byte string has one longest opening, and what stands behind it decides the result of
reading. A result that was reached at a checksum field stays when bytes are added. A proper part
of a written message is accepted exactly if the message embeds a checksum, and with canonical tags
none is. -/
theorem verdicts (data : Bytes) (message : Message) :
    (∃! fields, IsLongestOpening fields data) ∧
    (∀ fields, IsLongestOpening fields data → Judged fields data) ∧
    (Conclusive (parse data) → ∀ more, parse (data ++ more) = parse data) ∧
    (message.Built →
      ((∃ front accepted, front <+: message.serialize ∧ front ≠ message.serialize ∧
        parse front = .ok accepted) ↔ message.EmbedsChecksum) ∧
      ((∀ field ∈ message.fields, field.tag.Canonical) →
        ∀ front accepted, front <+: message.serialize → parse front = .ok accepted →
          front = message.serialize)) := by
  refine ⟨⟨(cutFields data).fields, isLongestOpening_iff.mpr rfl, ?_⟩, fun fields => judged,
    parse_append_of_conclusive, fun built => ?_⟩
  · intro fields longest
    exact (isLongestOpening_iff.mp longest).symm
  · have parts : _ ↔ message.EmbedsChecksum := exists_accepted_part_iff fun field member =>
      (built.fits field member).2
    refine ⟨parts, fun tags front accepted part read => ?_⟩
    refine Decidable.byContradiction fun different => ?_
    exact (built.canonical tags).not_embedsChecksum
      (parts.mp ⟨front, accepted, part, different, read⟩)

/-- A report with a checksum field of two bytes is refused for that length, whatever follows. No
proper part of the report itself is accepted. -/
theorem verdicts_short_checksum :
    let data : Bytes := [2, 0, 1, 1, 3, 0, 2, 0, 0]
    parse data = .error (.invalidChecksumLength 2) ∧
      parse (data ++ [0, 4]) = .error (.invalidChecksumLength 2) ∧
      ∀ front accepted, front <+: (ofReply .statusReport).serialize →
        parse front = .ok accepted → front = (ofReply .statusReport).serialize := by
  intro data
  have built : (ofReply .statusReport).Built := .reply .empty .statusReport
  have tags : ∀ field ∈ (ofReply .statusReport).fields, field.tag.Canonical := by
    intro field member
    rw [List.mem_singleton.mp member]
    exact ⟨2, rfl⟩
  obtain ⟨_, judged, final, parts⟩ := verdicts data (ofReply .statusReport)
  have longest : IsLongestOpening (ofReply .statusReport).fields data := by
    have ends := endsFields_wire_append
      (show (Field.mk .checksum [0, 0]).value.length ≤ maxValueLength by decide) rfl []
    rw [isLongestOpening_iff]
    exact congrArg FieldRun.fields
      (cutFields_flatMap_wire_append (canonical_ofReply .statusReport) ends)
  have refused : parse data = .error (.invalidChecksumLength 2) := by
    obtain ⟨value, behind, fits, rest_eq, wrongLength, _⟩ :=
      (judged _ longest).otherwise (by decide) (by rw [← cutField?_eq_none_iff]; decide)
    have cut : some (3, [0, 0], []) = some (Tag.checksum.code, value, behind) :=
      (congrArg cutField? rest_eq).trans (cutField?_wire_append fits behind)
    obtain rfl : [0, 0] = value := by
      injection cut with parts
      injection parts with _ parts
      injection parts
    exact (wrongLength 2).mpr (by decide)
  refine ⟨refused, ?_, (parts built).2 tags⟩
  rw [final (by rw [refused]; trivial), refused]

/-- A report whose second field is written as the checksum field of the first. -/
def smuggledReport : Message :=
  ((ofReply .statusReport).push (.unknown 3) (BigEndian.bytes32 4)).addPowerReading 7

/-- The builders let the report pass, and its first eleven bytes are accepted as a report without
any reading. -/
theorem part_accepted_of_smuggledReport :
    smuggledReport.Built ∧
      smuggledReport.serialize.take 11 <+: smuggledReport.serialize ∧
      smuggledReport.serialize.take 11 ≠ smuggledReport.serialize ∧
      parse (smuggledReport.serialize.take 11) = .ok (ofReply .statusReport) := by
  refine ⟨?_, List.take_prefix _ _, by decide, ?_⟩
  · exact .powerReading (.raw (.reply .empty .statusReport) (.unknown 3) (BigEndian.bytes32 4) rfl) 7
  · exact parse_eq_ok_iff.mpr ⟨canonical_ofReply .statusReport, by decide⟩

end Message

end OpticalLink
