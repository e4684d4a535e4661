import OpticalLink.Proofs.Message.Language
import OpticalLink.Proofs.Message.Values

/-!
# Endings

Reading cuts off complete fields and stops at what is none, is cut short, or is a checksum field.
`EndsFields.cases` says that there is no other ending, and the `parse` lemmas give the result of
each of them behind any canonical fields. What stands behind a checksum field has no part in it
(`Message.parse_checksum_behind`).
-/

namespace OpticalLink

/-! ## Endings -/

/-- What is left has no room for a header, or for the value that its header announces. -/
def CutShort (data : Bytes) : Prop :=
  data.length < fieldHeaderSize ∨
    ∃ code high low tail, data = code :: high :: low :: tail ∧
      tail.length < (BigEndian.word16 high low).toNat

/-- Too few bytes are left to split off so many, and only then. -/
theorem splitExactly?_eq_none_iff {count : Nat} {bytes : Bytes} :
    splitExactly? count bytes = none ↔ bytes.length < count := by
  simp only [splitExactly?, List.length_take]
  split
  next enough => simp only [reduceCtorEq, false_iff, Nat.not_lt]; omega
  next short => simp only [true_iff]; omega

/-- No field can be cut off exactly if the data is cut short. -/
theorem cutField?_eq_none_iff {data : Bytes} : cutField? data = none ↔ CutShort data := by
  match data with
  | [] | [_] | [_, _] => simp [cutField?, CutShort, fieldHeaderSize]
  | code :: high :: low :: tail =>
    rw [cutField?, Option.map_eq_none_iff, splitExactly?_eq_none_iff]
    constructor
    · intro short
      exact .inr ⟨code, high, low, tail, rfl, short⟩
    · rintro (short | ⟨_, _, _, _, same, short⟩)
      · simp only [List.length_cons, fieldHeaderSize] at short
        omega
      · cases same
        exact short

/-- A field whose value fits is not cut short, whatever follows it. -/
theorem not_cutShort_wire_append {field : Field} (fits : field.value.length ≤ maxValueLength)
    (rest : Bytes) : ¬ CutShort (field.wire ++ rest) := by
  rw [← cutField?_eq_none_iff, cutField?_wire_append fits]
  exact Option.some_ne_none _

/-- Where the fields end there is nothing, something cut short, or a checksum field. -/
theorem EndsFields.cases {data : Bytes} (ends : EndsFields data) :
    data = [] ∨ data ≠ [] ∧ CutShort data ∨
      ∃ value behind, value.length ≤ maxValueLength ∧
        data = (Field.mk .checksum value).wire ++ behind := by
  by_cases nothing : data = []
  · exact .inl nothing
  cases cut : cutField? data with
  | none => exact .inr (.inl ⟨nothing, cutField?_eq_none_iff.mp cut⟩)
  | some parts =>
    obtain ⟨code, value, behind⟩ := parts
    obtain ⟨data_eq, fits⟩ := eq_of_cutField?_eq_some cut
    rw [ends code value behind cut] at data_eq
    exact .inr (.inr ⟨value, behind, fits, data_eq⟩)

/-- A checksum field with any value ends a run of fields. -/
theorem endsFields_wire_append {field : Field} (fits : field.value.length ≤ maxValueLength)
    (code : field.tag.code = checksumCode) (rest : Bytes) : EndsFields (field.wire ++ rest) := by
  intro first value behind cut
  rw [cutField?_wire_append fits, Option.some.injEq, Prod.mk.injEq] at cut
  rw [← cut.1, code]

/-- Cut-short data ends a run of fields. -/
theorem CutShort.endsFields {data : Bytes} (short : CutShort data) : EndsFields data := by
  intro code value rest cut
  rw [cutField?_eq_none_iff.mpr short] at cut
  cases cut

/-! ## The result of each ending -/

namespace Message

section Endings

variable {fields : List Field} (canonical : ∀ field ∈ fields, field.Canonical)
include canonical

/-- Reading cuts off canonical fields in front of an end. -/
theorem cutFields_flatMap_wire_append {rest : Bytes} (ends : EndsFields rest) :
    cutFields (fields.flatMap Field.wire ++ rest) =
      ⟨fields, (fields.flatMap Field.wire).length, rest⟩ :=
  cutFields_eq_iff.mpr ⟨canonical, rfl, rfl, ends⟩

/-- Fields and nothing else lack a checksum. -/
theorem parse_fields : parse (fields.flatMap Field.wire) = .error .missingChecksum := by
  have ends : EndsFields [] := (show CutShort [] from .inl (by decide)).endsFields
  have run_eq := cutFields_flatMap_wire_append canonical ends
  rw [List.append_nil] at run_eq
  rw [parse, run_eq]
  rfl

/-- Data that is cut short is reported with the place where its last field begins. -/
theorem parse_cutShort {rest : Bytes} (nonempty : rest ≠ []) (short : CutShort rest) :
    parse (fields.flatMap Field.wire ++ rest) =
      .error (.truncated (fields.flatMap Field.wire).length) := by
  have run_eq := cutFields_flatMap_wire_append canonical short.endsFields
  have none_eq := cutField?_eq_none_iff.mpr short
  have isEmpty_eq : rest.isEmpty = false := by simpa using nonempty
  simp only [parse, run_eq, isEmpty_eq, none_eq, Bool.false_eq_true, if_false]

/-- A checksum field of a wrong length is reported with that length. -/
theorem parse_wrong_length {value : Bytes} (fits : value.length ≤ maxValueLength)
    (wrong : value.length ≠ 4) (behind : Bytes) :
    parse (fields.flatMap Field.wire ++ ((Field.mk .checksum value).wire ++ behind)) =
      .error (.invalidChecksumLength (UInt16.ofNat value.length)) := by
  have run_eq := cutFields_flatMap_wire_append canonical
    (endsFields_wire_append (show (Field.mk .checksum value).value.length ≤ _ from fits) rfl behind)
  have cut := cutField?_wire_append (show (Field.mk .checksum value).value.length ≤ _ from fits)
    behind
  have isEmpty_eq : ((Field.mk .checksum value).wire ++ behind).isEmpty = false := rfl
  simp only [parse, run_eq, isEmpty_eq, cut, wrong, ne_eq, not_false_eq_true, Bool.false_eq_true,
    if_false, if_true]

/-- A checksum field of four bytes is compared with the sum of all bytes before it. -/
theorem parse_four_bytes (expected : UInt32) (behind : Bytes) :
    parse (fields.flatMap Field.wire ++
        ((Field.mk .checksum (BigEndian.bytes32 expected)).wire ++ behind)) =
      if expected = checksum (fields.flatMap Field.wire) then .ok ⟨fields⟩
      else .error (.checksumMismatch expected (checksum (fields.flatMap Field.wire))) := by
  have fits : (Field.mk .checksum (BigEndian.bytes32 expected)).value.length ≤ maxValueLength := by
    simp [maxValueLength]
  have run_eq := cutFields_flatMap_wire_append canonical (endsFields_wire_append fits rfl behind)
  have cut := cutField?_wire_append fits behind
  have isEmpty_eq :
      ((Field.mk .checksum (BigEndian.bytes32 expected)).wire ++ behind).isEmpty = false := rfl
  have read := BigEndian.read32?_bytes32_append expected []
  rw [List.append_nil] at read
  simp only [parse, run_eq, isEmpty_eq, cut, read, List.take_left, BigEndian.length_bytes32, ne_eq,
    not_true_eq_false, Bool.false_eq_true, if_false, ite_not]

end Endings

/-- Whether a result was reached at a checksum field. -/
def Conclusive : Except MessageError Message → Prop
  | .ok _ => True
  | .error (.checksumMismatch _ _) => True
  | .error (.invalidChecksumLength _) => True
  | .error _ => False

section Checksum

variable {fields : List Field} (canonical : ∀ field ∈ fields, field.Canonical) {value : Bytes}
  (fits : value.length ≤ maxValueLength)
include canonical fits

/-- A checksum field settles the result. -/
theorem conclusive_parse_of_checksum (behind : Bytes) :
    Conclusive (parse (fields.flatMap Field.wire ++
      ((Field.mk .checksum value).wire ++ behind))) := by
  by_cases size : value.length = 4
  · obtain ⟨expected, rfl⟩ := BigEndian.exists_eq_bytes32 size
    rw [parse_four_bytes canonical]
    split <;> trivial
  · rw [parse_wrong_length canonical fits size]
    trivial

/-- Nothing behind a checksum field is looked at. -/
theorem parse_checksum_behind (behind other : Bytes) :
    parse (fields.flatMap Field.wire ++ ((Field.mk .checksum value).wire ++ behind)) =
      parse (fields.flatMap Field.wire ++ ((Field.mk .checksum value).wire ++ other)) := by
  by_cases size : value.length = 4
  · obtain ⟨expected, rfl⟩ := BigEndian.exists_eq_bytes32 size
    rw [parse_four_bytes canonical, parse_four_bytes canonical]
  · rw [parse_wrong_length canonical fits size, parse_wrong_length canonical fits size]

/-- What a checksum field of each value brings about. -/
theorem checksum_results (behind : Bytes) :
    let data := fields.flatMap Field.wire ++ ((Field.mk .checksum value).wire ++ behind)
    (∀ length, parse data = .error (.invalidChecksumLength length) ↔
      value.length ≠ 4 ∧ length.toNat = value.length) ∧
    (∀ expected computed, parse data = .error (.checksumMismatch expected computed) ↔
      value = BigEndian.bytes32 expected ∧ computed = checksum (fields.flatMap Field.wire) ∧
      expected ≠ computed) ∧
    (∀ message, parse data = .ok message ↔
      value = BigEndian.bytes32 (checksum (fields.flatMap Field.wire)) ∧ message = ⟨fields⟩) := by
  intro data
  by_cases size : value.length = 4
  · obtain ⟨word, rfl⟩ := BigEndian.exists_eq_bytes32 size
    have result : parse data = _ := parse_four_bytes canonical word behind
    simp only [result, BigEndian.bytes32_inj]
    split
    next same => simp [← same, eq_comm]
    next different =>
      refine ⟨by simp, fun expected computed => ?_, by simp [different]⟩
      simp only [Except.error.injEq, MessageError.checksumMismatch.injEq]
      constructor
      · rintro ⟨rfl, rfl⟩
        exact ⟨rfl, rfl, different⟩
      · rintro ⟨rfl, rfl, _⟩
        exact ⟨rfl, rfl⟩
  · have result : parse data = _ := parse_wrong_length canonical fits size behind
    have other (word : UInt32) : value ≠ BigEndian.bytes32 word := by
      rintro rfl
      exact size rfl
    have toNat_eq : (UInt16.ofNat value.length).toNat = value.length :=
      UInt16.toNat_ofNat_of_lt' (Nat.lt_succ_of_le fits)
    refine ⟨fun length => ?_, by simp [result, other], by simp [result, other]⟩
    simp only [result, Except.error.injEq, MessageError.invalidChecksumLength.injEq]
    constructor
    · rintro rfl
      exact ⟨size, toNat_eq⟩
    · rintro ⟨_, same⟩
      rw [← same, UInt16.ofNat_toNat]

end Checksum

end Message

end OpticalLink
