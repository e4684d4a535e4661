import OpticalLink.Message.Summary

/-!
# Summaries

The summary of a message is a row of texts, one for each field. Most fields show their own value. A
command or reply field shows the name of a code, and that is the code of the first field with its
tag, so that a later one may show a code that is not its own.

`Message.summaryBody_append_iff` says exactly when the summary of two runs of fields is that of the
first and then that of the second, and when a field shows its own code. That nothing else brings
two different texts together rests on their form: a name has no blank, a size in brackets begins
with a bracket, and a blank or the end stands behind either.
-/

namespace OpticalLink

/-! ## Words -/

/-- Whether the next word of a text begins here, or the text ends. -/
def AtWordEnd (rest : List Char) : Prop := rest = [] ∨ ∃ tail, rest = ' ' :: tail

/-- Two words are the same if the texts that they begin are. -/
theorem eq_of_word_append_eq {first second firstRest secondRest : List Char}
    (firstWord : ' ' ∉ first) (secondWord : ' ' ∉ second) (firstEnd : AtWordEnd firstRest)
    (secondEnd : AtWordEnd secondRest) (same : first ++ firstRest = second ++ secondRest) :
    first = second := by
  induction first generalizing second with
  | nil =>
    cases second with
    | nil => rfl
    | cons char word =>
      rcases firstEnd with rfl | ⟨tail, rfl⟩
      · cases same
      · cases same
        exact absurd List.mem_cons_self secondWord
  | cons char word inductionHypothesis =>
    cases second with
    | nil =>
      rcases secondEnd with rfl | ⟨tail, rfl⟩
      · cases same
      · cases same
        exact absurd List.mem_cons_self firstWord
    | cons other otherWord =>
      injection same with char_eq rest_eq
      have words := inductionHypothesis (fun blank => firstWord (List.mem_cons_of_mem _ blank))
        (fun blank => secondWord (List.mem_cons_of_mem _ blank)) rest_eq
      rw [char_eq, words]

/-- The size of a value in brackets. -/
def sizeText (field : Field) : String := "[" ++ toString field.value.length ++ " bytes]"

/-- Whether a text is a word that cannot be taken for a size. -/
def IsName (text : String) : Prop := ' ' ∉ text.toList ∧ text.toList.head? ≠ some '['

theorem Command.isName_name (command : Command) : IsName command.name := by
  cases command <;> simp only [name, IsName] <;> decide

theorem Reply.isName_name (reply : Reply) : IsName reply.name := by
  cases reply <;> simp only [name, IsName] <;> decide

/-- A name and a size are told apart by how they begin. -/
theorem IsName.append_ne_sizeText {name : String} (isName : IsName name) {rest : List Char}
    (ends : AtWordEnd rest) (field : Field) (otherRest : List Char) :
    name.toList ++ rest ≠ (sizeText field).toList ++ otherRest := by
  intro same
  have begins := congrArg List.head? same
  simp only [sizeText, String.toList_append, List.append_assoc] at begins
  obtain ⟨_, notBracket⟩ := isName
  cases letters : name.toList with
  | nil =>
    rw [letters] at begins
    rcases ends with rfl | ⟨tail, rfl⟩ <;> cases begins
  | cons first others =>
    rw [letters] at begins notBracket
    cases begins
    exact notBracket rfl

/-- A name, or else the size of the field, is the same in both texts if the texts are. -/
theorem eq_of_getD_sizeText_append_eq {first second : Option String} {field : Field}
    {firstRest secondRest : List Char} (firstName : ∀ name, first = some name → IsName name)
    (secondName : ∀ name, second = some name → IsName name) (firstEnd : AtWordEnd firstRest)
    (secondEnd : AtWordEnd secondRest)
    (same : (first.getD (sizeText field)).toList ++ firstRest =
      (second.getD (sizeText field)).toList ++ secondRest) :
    first = second := by
  cases first with
  | none =>
    cases second with
    | none => rfl
    | some name =>
      exact absurd same.symm ((secondName name rfl).append_ne_sizeText secondEnd field firstRest)
  | some name =>
    cases second with
    | none => exact absurd same ((firstName name rfl).append_ne_sizeText firstEnd field secondRest)
    | some other =>
      have letters := eq_of_word_append_eq (firstName name rfl).1 (secondName other rfl).1
        firstEnd secondEnd same
      rw [String.toList_inj.mp letters]

/-! ## What a field shows -/

/-- The name of the code in a command or reply field. -/
def Field.codeName? (field : Field) : Option String :=
  match field.tag with
  | .command => field.value.head?.map fun code => (Command.ofCode code).name
  | .reply => field.value.head?.map fun code => (Reply.ofCode code).name
  | _ => none

theorem Field.isName_of_codeName?_eq_some {field : Field} {name : String}
    (found : field.codeName? = some name) : IsName name := by
  unfold codeName? at found
  split at found
  next =>
    obtain ⟨code, _, rfl⟩ := Option.map_eq_some_iff.mp found
    exact Command.isName_name _
  next =>
    obtain ⟨code, _, rfl⟩ := Option.map_eq_some_iff.mp found
    exact Reply.isName_name _
  next => cases found

namespace Message

/-- The name of the code in the first field with a tag. -/
def codeName? (message : Message) (tag : Tag) : Option String :=
  (message.field? tag).bind Field.codeName?

variable {message other : Message} {field : Field}

/-- The first field with a tag has that tag. -/
theorem tag_eq_of_field?_eq_some {tag : Tag} (found : message.field? tag = some field) :
    field.tag = tag := by
  simpa using List.find?_some found

/-- A tag whose fields show a code by its name shows the first byte of the first such field. -/
theorem codeName?_eq_bind_value? {tag : Tag} {name : UInt8 → String}
    (named : ∀ value, Field.codeName? ⟨tag, value⟩ = value.head?.map name) (message : Message) :
    message.codeName? tag = (message.value? tag).bind fun value => value.head?.map name := by
  rw [codeName?, value?, Option.bind_map]
  refine Option.bind_congr fun field found => ?_
  rw [Function.comp_apply, ← named, ← tag_eq_of_field?_eq_some found]

/-- The name of the first command is that of the first command field. -/
theorem map_command? (message : Message) :
    message.command?.map Command.name = message.codeName? .command := by
  rw [codeName?_eq_bind_value? fun _ => rfl, command?, Option.map_bind]
  simp only [Function.comp_def, Option.map_map]

/-- The name of the first reply is that of the first reply field. -/
theorem map_reply? (message : Message) :
    message.reply?.map Reply.name = message.codeName? .reply := by
  rw [codeName?_eq_bind_value? fun _ => rfl, reply?, Option.map_bind]
  simp only [Function.comp_def, Option.map_map]

theorem isName_of_codeName?_eq_some {tag : Tag} (message : Message) (name : String)
    (found : message.codeName? tag = some name) : IsName name := by
  obtain ⟨field, _, named⟩ := Option.bind_eq_some_iff.mp found
  exact Field.isName_of_codeName?_eq_some named

/-- A field of any other tag names no code. -/
theorem codeName?_eq_none {tag : Tag} (notCommand : tag ≠ .command) (notReply : tag ≠ .reply)
    (message : Message) : message.codeName? tag = none := by
  rw [codeName?, Option.bind_eq_none_iff]
  intro field found
  have tag_eq : field.tag = tag := tag_eq_of_field?_eq_some found
  unfold Field.codeName?
  split
  next same => exact absurd (tag_eq.symm.trans same) notCommand
  next same => exact absurd (tag_eq.symm.trans same) notReply
  next => rfl

/-- A command or reply shows the name of the first code, or else its size. -/
theorem valueText?_of_code (code : field.tag = .command ∨ field.tag = .reply)
    (message : Message) : message.valueText? field = message.codeName? field.tag := by
  rcases code with same | same
  · rw [valueText?, same, map_command?]
  · rw [valueText?, same, map_reply?]

/-- All other fields show their own values, whatever message they are in. -/
theorem valueText?_of_not_code (notCommand : field.tag ≠ .command) (notReply : field.tag ≠ .reply)
    (message other : Message) : message.valueText? field = other.valueText? field := by
  unfold valueText?
  split
  next same => exact absurd same notCommand
  next same => exact absurd same notReply
  all_goals rfl

/-- The text of a field, character by character. -/
theorem toList_fieldText (message : Message) (field : Field) :
    (message.fieldText field).toList = ' ' :: (field.tag.name.toList ++ '=' ::
      ((message.valueText? field).getD (sizeText field)).toList) := by
  simp [fieldText, sizeText, String.toList_append]

/-- The texts of fields end a word, or there are none. -/
theorem atWordEnd_flatMap (message : Message) (fields : List Field) :
    AtWordEnd (fields.flatMap fun field => (message.fieldText field).toList) := by
  cases fields with
  | nil => exact .inl rfl
  | cons field fields =>
    rw [List.flatMap_cons, toList_fieldText]
    exact .inr ⟨_, rfl⟩

/-- Where two messages show a field in the same way, they name the same code for its tag. -/
theorem codeName?_eq_of_fieldText_append {rest otherRest : List Char} (ends : AtWordEnd rest)
    (otherEnds : AtWordEnd otherRest)
    (same : (message.fieldText field).toList ++ rest =
      (other.fieldText field).toList ++ otherRest) :
    message.codeName? field.tag = other.codeName? field.tag := by
  by_cases code : field.tag = .command ∨ field.tag = .reply
  · simp only [toList_fieldText, List.cons_append, List.append_assoc, List.cons.injEq, true_and,
      List.append_cancel_left_eq, valueText?_of_code code] at same
    exact eq_of_getD_sizeText_append_eq (isName_of_codeName?_eq_some message)
      (isName_of_codeName?_eq_some other) ends otherEnds same
  · obtain ⟨notCommand, notReply⟩ := not_or.mp code
    rw [codeName?_eq_none notCommand notReply, codeName?_eq_none notCommand notReply]

/-- Two messages show a field in the same way exactly if they name the same code for its tag. -/
theorem fieldText_eq_iff : message.fieldText field = other.fieldText field ↔
    message.codeName? field.tag = other.codeName? field.tag := by
  constructor
  · intro same
    exact codeName?_eq_of_fieldText_append (.inl rfl) (.inl rfl) (by rw [same])
  · intro same
    have values : message.valueText? field = other.valueText? field := by
      by_cases code : field.tag = .command ∨ field.tag = .reply
      · rw [valueText?_of_code code, valueText?_of_code code, same]
      · obtain ⟨notCommand, notReply⟩ := not_or.mp code
        exact valueText?_of_not_code notCommand notReply message other
    rw [fieldText, fieldText, values]

/-- Two messages show a run of fields in the same way exactly if they show each of them so. -/
theorem join_fieldText_eq_iff {fields : List Field} :
    String.join (fields.map message.fieldText) = String.join (fields.map other.fieldText) ↔
      ∀ field ∈ fields, message.fieldText field = other.fieldText field := by
  constructor
  · intro same
    rw [← String.toList_inj, String.toList_join, String.toList_join, List.flatMap_map,
      List.flatMap_map] at same
    induction fields with
    | nil => exact fun field member => absurd member List.not_mem_nil
    | cons field fields inductionHypothesis =>
      rw [List.flatMap_cons, List.flatMap_cons] at same
      have here : message.fieldText field = other.fieldText field :=
        fieldText_eq_iff.mpr (codeName?_eq_of_fieldText_append (atWordEnd_flatMap message fields)
          (atWordEnd_flatMap other fields) same)
      rw [here] at same
      have others := inductionHypothesis (List.append_cancel_left same)
      intro next member
      rcases List.mem_cons.mp member with rfl | later
      · exact here
      · exact others next later
  · intro same
    rw [List.map_congr_left same]

/-! ## Two runs of fields -/

/-- A field is there for every tag among the fields. -/
theorem isSome_field?_of_mem {fields : List Field} {field : Field} (member : field ∈ fields) :
    (field? ⟨fields⟩ field.tag).isSome := by
  rw [field?, List.find?_isSome]
  exact ⟨field, member, beq_self_eq_true _⟩

/-- A code is named by the first run of fields that has a field with the tag. -/
theorem codeName?_append (first second : List Field) (tag : Tag) :
    codeName? ⟨first ++ second⟩ tag = if (field? ⟨first⟩ tag).isSome then codeName? ⟨first⟩ tag
      else codeName? ⟨second⟩ tag := by
  have found : field? ⟨first ++ second⟩ tag = (field? ⟨first⟩ tag).or (field? ⟨second⟩ tag) :=
    List.find?_append
  rw [codeName?, codeName?, codeName?, found]
  cases field? ⟨first⟩ tag <;> rfl

/-- Of two runs of fields, the first is shown as it is by itself. -/
theorem summaryBody_append (first second : List Field) :
    summaryBody ⟨first ++ second⟩ =
      summaryBody ⟨first⟩ ++ String.join (second.map (fieldText ⟨first ++ second⟩)) := by
  have unchanged : first.map (fieldText ⟨first ++ second⟩) = first.map (fieldText ⟨first⟩) := by
    apply List.map_congr_left
    intro field member
    rw [fieldText_eq_iff, codeName?_append, if_pos (isSome_field?_of_mem member)]
  rw [summaryBody, summaryBody, List.map_append, String.join_append, unchanged]

/-- A field by itself names its own code. -/
theorem codeName?_singleton (field : Field) : codeName? ⟨[field]⟩ field.tag = field.codeName? := by
  simp [codeName?, field?]

/-- A field is shown as it is by itself exactly if the first code with its tag has its name. -/
theorem fieldText_eq_summaryBody_iff (message : Message) (field : Field) :
    message.fieldText field = summaryBody ⟨[field]⟩ ↔
      message.codeName? field.tag = field.codeName? := by
  have alone : summaryBody ⟨[field]⟩ = fieldText ⟨[field]⟩ field := String.empty_append
  rw [alone, fieldText_eq_iff, codeName?_singleton]

/-- The summary of two runs of fields is that of the first and then that of the second exactly if
they name the same code for every tag that both have. A field shows what it would show by itself
exactly if its code has the name of the first code with its tag, and a field of a tag other than
command and reply always does. -/
theorem summaryBody_append_iff (first second : List Field) :
    (summaryBody ⟨first ++ second⟩ = summaryBody ⟨first⟩ ++ summaryBody ⟨second⟩ ↔
      ∀ tag, (field? ⟨first⟩ tag).isSome → (field? ⟨second⟩ tag).isSome →
        codeName? ⟨first⟩ tag = codeName? ⟨second⟩ tag) ∧
    (∀ (message : Message) (field : Field), message.fieldText field = summaryBody ⟨[field]⟩ ↔
      message.codeName? field.tag = field.codeName?) ∧
    (∀ (message : Message) (field : Field), field.tag ≠ .command → field.tag ≠ .reply →
      message.fieldText field = summaryBody ⟨[field]⟩) := by
  refine ⟨?_, fieldText_eq_summaryBody_iff, ?_⟩
  · have shown : summaryBody ⟨second⟩ = String.join (second.map (fieldText ⟨second⟩)) := rfl
    rw [summaryBody_append, String.append_right_inj, shown, join_fieldText_eq_iff]
    constructor
    · intro same tag inFirst inSecond
      obtain ⟨field, found⟩ := Option.isSome_iff_exists.mp inSecond
      have tag_eq : field.tag = tag := tag_eq_of_field?_eq_some found
      have named := fieldText_eq_iff.mp (same field (List.mem_of_find?_eq_some found))
      rwa [tag_eq, codeName?_append, if_pos inFirst] at named
    · intro named field member
      rw [fieldText_eq_iff, codeName?_append]
      split
      next inFirst => exact named field.tag inFirst (isSome_field?_of_mem member)
      next => rfl
  · intro message field notCommand notReply
    rw [fieldText_eq_summaryBody_iff, ← codeName?_singleton, codeName?_eq_none notCommand notReply,
      codeName?_eq_none notCommand notReply]

/-- Of two commands in a message, the second shows the name of the first. -/
theorem second_command_shows_first_name :
    let first : List Field := [⟨.command, [Command.getStatus.code]⟩]
    let second : List Field := [⟨.command, [Command.moveMotor.code]⟩]
    summaryBody ⟨first⟩ = " command=get-status" ∧ summaryBody ⟨second⟩ = " command=move-motor" ∧
      summaryBody ⟨first ++ second⟩ = " command=get-status command=get-status" ∧
      summaryBody ⟨first ++ second⟩ ≠ summaryBody ⟨first⟩ ++ summaryBody ⟨second⟩ := by
  decide

end Message

end OpticalLink
