import OpticalLink.Console.Report
import OpticalLink.Proofs.Json.Compact

/-!
# What reports say

A report is read by people and by other programs, in one of four formats. `Console.ShowsFrame` says
what a report on a message and its frame looks like in each of them, and `Console.ShowsMessages` a
report on the messages that were found, with the counters. A document gives every field with its
bytes; a table has a row for every field; the short formats have a line for every message.
-/

namespace OpticalLink

open Text (Plain plain_toString plain_encode)
open Text.Table (Fits ShowsRow widest)

/-- A hexadecimal text has two digits for each byte. -/
theorem Hex.length_toList_encode (bytes : Bytes) :
    (encode bytes).toList.length = 2 * bytes.length := by
  rw [encode, String.toList_ofList]
  induction bytes with
  | nil => rfl
  | cons byte rest inductionHypothesis =>
    rw [List.flatMap_cons, List.length_append, inductionHypothesis, List.length_cons]
    simp only [digits, List.length_cons, List.length_nil]
    omega

namespace Console

theorem plain_tagName (tag : Tag) : Plain tag.name := by
  cases tag <;> (simp only [Tag.name]; decide)

theorem plain_commandName (command : Command) : Plain command.name := by
  cases command <;> (simp only [Command.name]; decide)

theorem plain_replyName (reply : Reply) : Plain reply.name := by
  cases reply <;> (simp only [Reply.name]; decide)

/-- A field as it stands in a document. -/
def fieldText (field : Field) : String :=
  JsonText.object [JsonText.member "tag" (JsonText.text field.tag.name),
    JsonText.member "code" (toString field.tag.code.toNat),
    JsonText.member "length" (toString field.value.length),
    JsonText.member "value" (JsonText.text (Hex.encode field.value))]

/-- A message as it stands in a document. -/
def messageText (message : Message) : String :=
  JsonText.object (
    (message.command?.elim [] fun command =>
      [JsonText.member "command" (JsonText.text command.name)]) ++
    (message.reply?.elim [] fun reply => [JsonText.member "reply" (JsonText.text reply.name)]) ++
    [JsonText.member "fields" (JsonText.array (message.fields.map fieldText)),
      JsonText.member "summary" (JsonValue.quoted message.summary)])

theorem compact_fieldValue (field : Field) : (fieldValue field).compact = fieldText field := by
  have names : ∀ name ∈ ["tag", "code", "length", "value"], Plain name := by decide
  rw [fieldValue, JsonValue.compact_object]
  · simp only [List.map_cons, List.map_nil, JsonValue.compact_text (plain_tagName _),
      JsonValue.compact_text (plain_encode _), JsonValue.compact_ofNat, fieldText]
  · exact names

theorem map_optionalMember {Value Image : Type} (image : String × JsonValue → Image) (name : String)
    (value : Option Value) (write : Value → JsonValue) :
    (optionalMember name value write).map image =
      value.elim [] fun value => [image (name, write value)] := by
  cases value <;> rfl

theorem plain_optionalMember {Value : Type} {key : String} (plain : Plain key)
    (value : Option Value) (write : Value → JsonValue) :
    ∀ name ∈ (optionalMember key value write).map Prod.fst, Plain name := by
  cases value with
  | none => exact nofun
  | some value => exact List.forall_mem_singleton.mpr plain

theorem compact_messageValue (message : Message) :
    (messageValue message).compact = messageText message := by
  have fields : (JsonValue.array (message.fields.map fieldValue)).compact =
      JsonText.array (message.fields.map fieldText) := by
    rw [JsonValue.compact_array, List.map_map]
    exact congrArg JsonText.array (List.map_congr_left fun field _ => compact_fieldValue field)
  rw [messageValue, JsonValue.compact_object]
  · simp only [List.map_append, map_optionalMember, List.map_cons, List.map_nil, fields,
      JsonValue.compact_text (plain_commandName _), JsonValue.compact_text (plain_replyName _),
      messageText]
    rfl
  · have names : ∀ name ∈ ["fields", "summary"], Plain name := by decide
    rw [List.map_append, List.map_append, List.forall_mem_append, List.forall_mem_append]
    exact ⟨⟨plain_optionalMember (by decide) _ _, plain_optionalMember (by decide) _ _⟩, names⟩

/-- A table shows the fields of a message: each has a row with its tag, its code, its length and its
bytes, unless these are more than a column can hold. -/
def ShowsFields (message : Message) (table : String) : Prop :=
  ∀ field ∈ message.fields, 2 * field.value.length ≤ widest →
    ShowsRow table [field.tag.name, toString field.tag.code.toNat,
      toString field.value.length, Hex.encode field.value]

/-- A report on some messages shows them in their order, and how often what happened. -/
def ShowsMessages (messages : List Message) (stats : FrameStats) : OutputFormat → String → Prop
  | .json, report => report = JsonText.object [
      JsonText.member "messages" (JsonText.array (messages.map messageText)),
      JsonText.member "delivered" (toString stats.delivered),
      JsonText.member "rejected" (toString stats.rejected),
      JsonText.member "oversized" (toString stats.oversized)] ++ "\n"
  | .table, report => ∃ tables : List String,
      report = String.join (tables.map (· ++ "\n")) ++ "delivered=" ++ toString stats.delivered ++
        " rejected=" ++ toString stats.rejected ++ " oversized=" ++ toString stats.oversized ++
        "\n" ∧
      List.Forall₂ ShowsFields messages tables
  | .pretty, report | .raw, report =>
    report = String.join (messages.map fun message => message.summary ++ "\n")

theorem fits_tagName (tag : Tag) : Fits tag.name widest := by
  refine ⟨plain_tagName tag, ?_⟩
  cases tag <;> (simp only [Tag.name]; decide)

theorem fits_toString {number : Nat} (small : number ≤ widest) :
    Fits (toString number) widest := by
  refine ⟨plain_toString number, ?_⟩
  have few : (Nat.toDigits 10 number).length ≤ 5 :=
    (Nat.length_toDigits_le_iff (by decide) (by decide)).mpr (Nat.lt_of_le_of_lt small (by decide))
  rw [Nat.toString_eq_repr, Nat.toList_repr]
  exact Nat.le_trans few (by decide)

theorem fits_encode {bytes : Bytes} (short : 2 * bytes.length ≤ widest) :
    Fits (Hex.encode bytes) widest :=
  ⟨plain_encode bytes, by rwa [Hex.length_toList_encode]⟩

/-- A table that has a row for each field of a message shows the fields. -/
theorem showsFields_render {message : Message} {table : Text.Table}
    (regular : ∀ row ∈ table.rows, row.length = table.header.length)
    (rows : ∀ field ∈ message.fields, fieldRow field ∈ table.rows) :
    ShowsFields message table.render := by
  intro field member short
  have code : field.tag.code.toNat ≤ widest :=
    Nat.le_trans (Nat.le_of_lt field.tag.code.toNat_lt) (by decide)
  have size : field.value.length ≤ widest := by omega
  have cells : ∀ cell ∈ fieldRow field, Fits cell widest := by
    simp only [fieldRow, List.forall_mem_cons]
    exact ⟨fits_tagName _, fits_toString code, fits_toString size, fits_encode short, nofun⟩
  exact Text.Table.showsRow_render (rows field member) (List.cons_ne_nil _ _) regular cells

theorem showsMessages_decodedReport (messages : List Message) (stats : FrameStats)
    (format : OutputFormat) :
    ShowsMessages messages stats format (decodedReport messages stats format) := by
  have written : (JsonValue.array (messages.map messageValue)).compact =
      JsonText.array (messages.map messageText) := by
    rw [JsonValue.compact_array, List.map_map]
    exact congrArg JsonText.array
      (List.map_congr_left fun message _ => compact_messageValue message)
  cases format with
  | json =>
    have names : ∀ name ∈ ["messages", "delivered", "rejected", "oversized"], Plain name := by
      decide
    rw [ShowsMessages, decodedReport, line, JsonValue.compact_object]
    · simp only [List.map_cons, List.map_nil, written, JsonValue.compact_ofNat]
    · exact names
  | table =>
    refine ⟨messages.map fun message => (fieldTable message).render, ?_, ?_⟩
    · simp only [decodedReport, line, List.map_map, String.append_assoc]
      rfl
    · rw [List.forall₂_map_right_iff]
      refine List.forall₂_same.mpr fun message _ => showsFields_render ?_ fun field member =>
        List.mem_map_of_mem member
      exact List.forall_mem_map.mpr fun _ _ => rfl
  | pretty | raw => rfl

end Console

end OpticalLink
