import OpticalLink.Proofs.Message.Corruption
import Mathlib.Algebra.GroupWithZero.Nat

/-!
# Damaged values

Noise may change any number of bytes of a written message. While the tags and lengths of its fields
survive, every field is found again in its place, with the value that stands there now:
`Message.refill` is the message of these fields. The last seven bytes are all that is left for a
checksum field, and no other reading of them leads to acceptance, since a message ends with seven
bytes of its own. `Message.parse_of_keepsHeaders` concludes that the sum alone decides, and that a
single changed byte, or any change within the last seven, is always noticed.
-/

namespace OpticalLink

/-- The checksum is the sum of all bytes, reduced to 32 bits. -/
theorem checksum_eq_ofNat_sum (bytes : Bytes) :
    checksum bytes = UInt32.ofNat (bytes.map UInt8.toNat).sum := by
  induction bytes with
  | nil => rfl
  | cons byte rest inductionHypothesis =>
    rw [checksum_cons, inductionHypothesis, List.map_cons, List.sum_cons, UInt32.ofNat_add,
      UInt32.ofNat_uInt8ToNat]

/-! ## Fields in their places -/

/-- Whether a tag or length byte of some fields stands at a position of their written form. -/
def HeaderAt : List Field → Nat → Prop
  | [], _ => False
  | field :: rest, position => position < fieldHeaderSize ∨
      field.wireSize ≤ position ∧ HeaderAt rest (position - field.wireSize)

instance decidableHeaderAt : (fields : List Field) → (position : Nat) →
    Decidable (HeaderAt fields position)
  | [], _ => inferInstanceAs (Decidable False)
  | field :: rest, position =>
    have := decidableHeaderAt rest (position - field.wireSize)
    inferInstanceAs (Decidable (position < fieldHeaderSize ∨ field.wireSize ≤ position ∧ _))

/-- The header of a field stands within the written form of the fields. -/
theorem HeaderAt.lt {fields : List Field} {position : Nat} (header : HeaderAt fields position) :
    position < (fields.flatMap Field.wire).length := by
  induction fields generalizing position with
  | nil => exact header.elim
  | cons field rest inductionHypothesis =>
    rw [List.flatMap_cons, List.length_append, Field.length_wire]
    rcases header with first | ⟨behind, later⟩
    · have atLeastHeader : fieldHeaderSize ≤ field.wireSize := Nat.le_add_right _ _
      omega
    · have inRest := inductionHypothesis later
      omega

/-- The fields with the values that stand in their places in some data. -/
def refillFields : List Field → Bytes → List Field
  | [], _ => []
  | field :: rest, data =>
    ⟨field.tag, (data.drop fieldHeaderSize).take field.value.length⟩ ::
      refillFields rest (data.drop field.wireSize)

/-- Refilled fields keep their tags. -/
theorem map_tag_refillFields (fields : List Field) (data : Bytes) :
    (refillFields fields data).map Field.tag = fields.map Field.tag := by
  induction fields generalizing data with
  | nil => rfl
  | cons field rest inductionHypothesis =>
    rw [refillFields, List.map_cons, List.map_cons, inductionHypothesis]

/-- Refilled fields are canonical if the fields are. -/
theorem canonical_refillFields {fields : List Field}
    (canonical : ∀ field ∈ fields, field.Canonical) (data : Bytes) :
    ∀ field ∈ refillFields fields data, field.Canonical := by
  induction fields generalizing data with
  | nil => simp [refillFields]
  | cons field rest inductionHypothesis =>
    have first : field.Canonical := canonical field List.mem_cons_self
    intro other member
    rcases List.mem_cons.mp member with rfl | later
    · refine ⟨first.tag, ?_⟩
      exact Nat.le_trans (List.length_take_le _ _) first.length
    · exact inductionHypothesis (fun next isNext => canonical next (List.mem_cons_of_mem _ isNext))
        _ other later

/-- Behind a header, any bytes of the announced number are the value of a field. -/
theorem eq_wire_append {field : Field} {data : Bytes} (enough : field.wireSize ≤ data.length)
    (header : ∀ index < fieldHeaderSize, data[index]? = field.wire[index]?) :
    (Field.mk field.tag ((data.drop fieldHeaderSize).take field.value.length)).wire ++
      data.drop field.wireSize = data := by
  have front : data.take fieldHeaderSize = field.tag.code :: BigEndian.bytes16 field.length := by
    have written : field.wire.take fieldHeaderSize =
        field.tag.code :: BigEndian.bytes16 field.length := rfl
    rw [← written]
    apply List.ext_getElem?
    intro index
    rw [List.getElem?_take, List.getElem?_take]
    split
    next inside => exact header index inside
    next => rfl
  have size : ((data.drop fieldHeaderSize).take field.value.length).length =
      field.value.length := by
    simp only [Field.wireSize] at enough
    simp only [List.length_take, List.length_drop]
    omega
  have sameLength : (Field.mk field.tag ((data.drop fieldHeaderSize).take
      field.value.length)).length = field.length := by
    simp only [Field.length, size]
  have behind : data.drop field.wireSize =
      (data.drop fieldHeaderSize).drop field.value.length := by
    rw [List.drop_drop, Field.wireSize]
  rw [Field.wire, sameLength, ← front, behind, List.append_assoc, List.take_append_drop,
    List.take_append_drop]

/-- Data with the headers of some fields begins with the written form of the refilled fields. -/
theorem flatMap_wire_refillFields_append {fields : List Field} {data : Bytes}
    (enough : (fields.flatMap Field.wire).length ≤ data.length)
    (kept : ∀ position, HeaderAt fields position →
      data[position]? = (fields.flatMap Field.wire)[position]?) :
    (refillFields fields data).flatMap Field.wire ++
      data.drop (fields.flatMap Field.wire).length = data := by
  induction fields generalizing data with
  | nil => rfl
  | cons field rest inductionHypothesis =>
    rw [List.flatMap_cons, List.length_append, Field.length_wire] at enough
    rw [List.flatMap_cons] at kept
    have atLeastHeader : fieldHeaderSize ≤ field.wireSize := Nat.le_add_right _ _
    have header : ∀ index < fieldHeaderSize, data[index]? = field.wire[index]? := by
      intro index inside
      rw [kept index (.inl inside), List.getElem?_append_left (by rw [Field.length_wire]; omega)]
    have others : (refillFields rest (data.drop field.wireSize)).flatMap Field.wire ++
        (data.drop field.wireSize).drop (rest.flatMap Field.wire).length =
          data.drop field.wireSize := by
      apply inductionHypothesis
      · rw [List.length_drop]
        omega
      · intro position isHeader
        have here := kept (field.wireSize + position)
          (.inr ⟨Nat.le_add_right _ _, by rwa [Nat.add_sub_cancel_left]⟩)
        rwa [List.getElem?_append_right (by rw [Field.length_wire]; omega), Field.length_wire,
          Nat.add_sub_cancel_left, ← List.getElem?_drop] at here
    rw [refillFields, List.flatMap_cons, List.flatMap_cons, List.length_append,
      Field.length_wire, List.append_assoc, ← List.drop_drop, others]
    exact eq_wire_append (by omega) header

namespace Message

variable {message : Message} {received : Bytes}

/-- The message with the values that stand in their places in some data. -/
def refill (message : Message) (received : Bytes) : Message :=
  ⟨refillFields message.fields received⟩

/-- Data of the size of a written message, with the same tags and lengths before the last seven
bytes. -/
structure KeepsHeaders (message : Message) (received : Bytes) : Prop where
  size : received.length = message.serialize.length
  headers : ∀ position < received.length, HeaderAt message.fields position →
    received[position]? = message.serialize[position]?

/-! ## The last seven bytes -/

/-- Behind canonical fields, seven bytes lead to acceptance only as the checksum field. -/
theorem parse_append_eq_ok_iff {fields : List Field} {last : Bytes} {accepted : Message}
    (canonical : ∀ field ∈ fields, field.Canonical) (size : last.length = checksumFieldSize) :
    parse (fields.flatMap Field.wire ++ last) = .ok accepted ↔
      last = checksumField (fields.flatMap Field.wire) ∧ accepted = ⟨fields⟩ := by
  constructor
  · intro read
    obtain ⟨acceptedCanonical, rest, whole⟩ := parse_eq_ok_iff.mp read
    rw [serialize, List.append_assoc] at whole
    obtain ⟨more, fields_eq, last_eq⟩ := exists_eq_append_of_wire_append_eq acceptedCanonical
      canonical (endsFields_checksumField_append _ rest) whole
    -- The checksum field takes all seven bytes, so nothing stands around it.
    have lengths := congrArg List.length last_eq
    rw [List.length_append, List.length_append, length_checksumField, size] at lengths
    have noBytes : more.flatMap Field.wire = [] := List.length_eq_zero_iff.mp (by omega)
    have noRest : rest = [] := List.length_eq_zero_iff.mp (by omega)
    have noMore : more = [] := by
      cases more with
      | nil => rfl
      | cons other others => cases noBytes
    rw [noMore, List.append_nil] at fields_eq
    rw [noBytes, noRest, List.nil_append, List.append_nil, fieldBytes, fields_eq] at last_eq
    exact ⟨last_eq, by rw [← fields_eq]⟩
  · rintro ⟨rfl, rfl⟩
    exact parse_eq_ok_iff.mpr ⟨canonical, List.prefix_rfl⟩

/-! ## Data that keeps the headers -/

namespace KeepsHeaders

variable (kept : message.KeepsHeaders received)
include kept

/-- Seven bytes are left behind the fields. -/
theorem length_sub : received.length - checksumFieldSize = message.fieldBytes.length := by
  rw [kept.size, length_serialize_eq, Nat.add_sub_cancel]

/-- What stands before the last seven bytes is the written form of the refilled fields. -/
theorem fieldBytes_refill : (message.refill received).fieldBytes =
    received.take (received.length - checksumFieldSize) := by
  have enough : (message.fields.flatMap Field.wire).length ≤ received.length := by
    rw [kept.size, length_serialize_eq]
    exact Nat.le_add_right _ _
  have headers : ∀ position, HeaderAt message.fields position →
      received[position]? = (message.fields.flatMap Field.wire)[position]? := by
    intro position isHeader
    have inside := isHeader.lt
    rw [kept.headers position (by omega) isHeader, serialize, fieldBytes,
      List.getElem?_append_left inside]
  have whole := flatMap_wire_refillFields_append enough headers
  rw [kept.length_sub]
  exact List.append_cancel_right (whole.trans (List.take_append_drop _ received).symm)

/-- Data is accepted exactly if its last seven bytes are the checksum field of what is before. -/
theorem parse_eq_ok_iff_last (canonical : message.Canonical) {accepted : Message} :
    parse received = .ok accepted ↔
      received.drop (received.length - checksumFieldSize) =
          checksumField (received.take (received.length - checksumFieldSize)) ∧
        accepted = message.refill received := by
  have size : (received.drop (received.length - checksumFieldSize)).length = checksumFieldSize := by
    rw [List.length_drop, kept.size, length_serialize_eq]
    omega
  have covered : (refillFields message.fields received).flatMap Field.wire =
      received.take (received.length - checksumFieldSize) := kept.fieldBytes_refill
  have decided : parse ((refillFields message.fields received).flatMap Field.wire ++ _) =
      .ok accepted ↔ _ := parse_append_eq_ok_iff (canonical_refillFields canonical received) size
  rwa [covered, List.take_append_drop] at decided

/-- A change within the last seven bytes alone is noticed. -/
theorem parse_ne_ok_of_take_eq (canonical : message.Canonical)
    (before : received.take (received.length - checksumFieldSize) = message.fieldBytes)
    (changed : received ≠ message.serialize) (accepted : Message) :
    parse received ≠ .ok accepted := by
  intro read
  obtain ⟨last_eq, _⟩ := (kept.parse_eq_ok_iff_last canonical).mp read
  apply changed
  rw [before] at last_eq
  calc received
      = received.take (received.length - checksumFieldSize) ++
          received.drop (received.length - checksumFieldSize) :=
        (List.take_append_drop _ _).symm
    _ = message.fieldBytes ++ checksumField message.fieldBytes := by rw [before, last_eq]
    _ = message.serialize := rfl

end KeepsHeaders

/-- A single changed byte is noticed wherever it leaves the headers of the fields. -/
theorem parse_set_ne_ok {position : Nat} {byte : UInt8} (canonical : message.Canonical)
    (kept : message.KeepsHeaders (message.serialize.set position byte))
    (inside : position < message.serialize.length)
    (changed : message.serialize[position]? ≠ some byte) (accepted : Message) :
    parse (message.serialize.set position byte) ≠ .ok accepted := by
  by_cases covered : position < message.fieldBytes.length
  · intro read
    obtain ⟨last_eq, _⟩ := (kept.parse_eq_ok_iff_last canonical).mp read
    have size : (message.fieldBytes.set position byte).length = message.fieldBytes.length :=
      List.length_set
    have whole : message.serialize.set position byte =
        message.fieldBytes.set position byte ++ checksumField message.fieldBytes :=
      List.set_append_left _ _ covered
    rw [kept.length_sub, whole, ← size, List.take_left, List.drop_left] at last_eq
    have sums : checksum message.fieldBytes = checksum (message.fieldBytes.set position byte) :=
      checksum_eq_of_checksumField_append_eq (congrArg (· ++ []) last_eq)
    rw [serialize, List.getElem?_append_left covered] at changed
    exact checksum_set_ne covered changed sums.symm
  · apply kept.parse_ne_ok_of_take_eq canonical
    · rw [kept.length_sub, serialize, List.set_append_right _ _ (Nat.le_of_not_lt covered),
        List.take_left]
    · intro same
      rw [← same, List.getElem?_set_self inside] at changed
      exact changed rfl

/-- A message is written, and what is received has its size, its tags and its lengths; any other
bytes may have changed. It is accepted exactly if its last seven bytes are a checksum field with the
sum of all bytes before them, and then as the fields of the message with the values that were
received. So a change of one byte alone is refused, and so is any change within the last seven
bytes alone. -/
theorem parse_of_keepsHeaders (built : message.Built)
    (tags : ∀ field ∈ message.fields, field.tag.Canonical)
    (kept : message.KeepsHeaders received) :
    let covered := received.take (received.length - checksumFieldSize)
    let last := received.drop (received.length - checksumFieldSize)
    (∀ accepted, parse received = .ok accepted ↔
      last = 3 :: 0 :: 4 :: BigEndian.bytes32 (UInt32.ofNat (covered.map UInt8.toNat).sum) ∧
        accepted = message.refill received) ∧
    (message.refill received).fields.map Field.tag = message.fields.map Field.tag ∧
    (message.refill received).fieldBytes = covered ∧
    (∀ position byte, position < message.serialize.length →
      message.serialize[position]? ≠ some byte → received = message.serialize.set position byte →
      ∃ error, parse received = .error error) ∧
    (covered = message.fieldBytes → received ≠ message.serialize →
      ∃ error, parse received = .error error) := by
  intro covered last
  have canonical : message.Canonical := built.canonical tags
  have refused (never : ∀ accepted, parse received ≠ .ok accepted) :
      ∃ error, parse received = .error error := by
    cases outcome : parse received with
    | error error => exact ⟨error, rfl⟩
    | ok accepted => exact absurd outcome (never accepted)
  refine ⟨?_, map_tag_refillFields _ _, kept.fieldBytes_refill, ?_, ?_⟩
  · intro accepted
    rw [kept.parse_eq_ok_iff_last canonical, checksumField, checksum_eq_ofNat_sum]
    rfl
  · rintro position byte inside changed rfl
    exact refused (parse_set_ne_ok canonical kept inside changed)
  · intro before changed
    exact refused (kept.parse_ne_ok_of_take_eq canonical before changed)

/-- A report in which one value byte falls by one and another rises by one has the same sum, and is
accepted with the values that it has now. The first of the two changes by itself is refused. -/
theorem parse_of_keepsHeaders_balanced_changes :
    let report := (ofReply .statusReport).addPowerReading 1
    let received := (report.serialize.set 3 0).set 8 2
    report.Built ∧ report.KeepsHeaders received ∧
      parse received = .ok ⟨[⟨.reply, [0]⟩, ⟨.powerReading, [0, 2]⟩]⟩ ∧
      ∃ error, parse (report.serialize.set 3 0) = .error error := by
  intro report received
  have built : report.Built := .powerReading (.reply .empty .statusReport) 1
  have tags : ∀ field ∈ report.fields, field.tag.Canonical := by decide
  have kept : report.KeepsHeaders received := ⟨rfl, by decide⟩
  have keptAlone : report.KeepsHeaders (report.serialize.set 3 0) := ⟨rfl, by decide⟩
  obtain ⟨accepted_iff, _⟩ := parse_of_keepsHeaders built tags kept
  obtain ⟨_, _, _, single, _⟩ := parse_of_keepsHeaders built tags keptAlone
  exact ⟨built, kept, (accepted_iff _).mpr ⟨rfl, rfl⟩, single 3 0 (by decide) (by decide) rfl⟩

end Message

end OpticalLink
