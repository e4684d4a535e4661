import OpticalLink.Json.Printer
import OpticalLink.Proofs.Text.Tables

/-!
# Compact documents

A document in its compact form is put together from texts, numbers, lists and named values
(`JsonText`). The printer writes it so, whatever stands in the document, as long as its names are
plain (`JsonValue.compact_object`).
-/

namespace OpticalLink

open Text (Plain)

namespace JsonText

/-- A text that needs no escapes. -/
def text (plain : String) : String := "\"" ++ plain ++ "\""

/-- A list of values. -/
def array (items : List String) : String := "[" ++ ",".intercalate items ++ "]"

/-- A named value. -/
def member (name value : String) : String := text name ++ ":" ++ value

/-- Named values. -/
def object (members : List String) : String := "\x7b" ++ ",".intercalate members ++ "\x7d"

end JsonText

namespace JsonValue

/-- A plain character needs no escape. -/
theorem escape_of_plain {character : Char} (plain : Text.PlainCharacter character) :
    escape character = [character] := by
  obtain ⟨printed, -, notQuote, notBackslash⟩ := plain
  have control : ¬ character.toNat < 0x20 := by omega
  unfold escape
  split <;> first | contradiction | exact absurd printed (by decide) | exact if_neg control

/-- A plain text stands between quotes as it is. -/
theorem quoted_of_plain {text : String} (plain : Plain text) : quoted text = JsonText.text text := by
  have kept : text.toList.flatMap escape = text.toList := by
    rw [List.flatMap_congr fun character member => escape_of_plain (plain character member),
      List.flatMap_singleton']
  rw [quoted, kept, JsonText.text, ← String.toList_inj]
  simp

theorem compactItems_eq_map (items : List JsonValue) : compactItems items = items.map compact := by
  induction items with
  | nil => rfl
  | cons item rest inductionHypothesis => rw [compactItems, inductionHypothesis, List.map_cons]

theorem compact_array (items : List JsonValue) :
    (array items).compact = JsonText.array (items.map compact) := by
  rw [compact, compactItems_eq_map, JsonText.array]

theorem compactMembers_eq_map {members : List (String × JsonValue)}
    (plain : ∀ name ∈ members.map Prod.fst, Plain name) :
    compactMembers members =
      members.map fun member => JsonText.member member.1 member.2.compact := by
  induction members with
  | nil => rfl
  | cons member rest inductionHypothesis =>
    obtain ⟨first, others⟩ := List.forall_mem_cons.mp plain
    rw [compactMembers, inductionHypothesis others, quoted_of_plain first, List.map_cons,
      JsonText.member]

theorem compact_object {members : List (String × JsonValue)}
    (plain : ∀ name ∈ members.map Prod.fst, Plain name) :
    (object members).compact =
      JsonText.object (members.map fun member => JsonText.member member.1 member.2.compact) := by
  rw [compact, compactMembers_eq_map plain, JsonText.object]

theorem compact_text {text : String} (plain : Plain text) :
    (JsonValue.text text).compact = JsonText.text text := by
  rw [compact, quoted_of_plain plain]

theorem compact_ofNat (number : Nat) : (ofNat number).compact = toString number := rfl

end JsonValue

end OpticalLink
