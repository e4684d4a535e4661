import OpticalLink.Json.Token
import OpticalLink.Bytes.Text

/-!
# Reading documents

A reader goes through the tokens of a document with the lists and objects that
are still open. The document is one value with nothing behind it.
-/

namespace OpticalLink

/-- A list or object that is still open. -/
inductive JsonReader.Frame where
  /-- A list with its items in reverse. -/
  | array (items : List JsonValue)
  /-- An object of which the next member is due. -/
  | object (members : JsonMembers)
  /-- An object with a key of which the value is due. -/
  | member (members : JsonMembers) (key : String)

/-- What may come next. -/
inductive JsonReader.Phase where
  | value
  /-- After an opening bracket: an item or the end of the list. -/
  | itemOrEnd
  /-- After an opening brace: a key or the end of the object. -/
  | keyOrEnd
  | key
  | colon
  /-- After an item or a member: a comma or the end. -/
  | commaOrEnd
  | done (value : JsonValue)

/-- A reader with the open lists and objects, innermost first. -/
structure JsonReader where
  phase : JsonReader.Phase
  frames : List JsonReader.Frame

namespace JsonReader

/-- A reader at the start of a document. -/
def new : JsonReader := ⟨.value, []⟩

/-- The most lists and objects that may be open at once. -/
def maxDepth : Nat := 127

/-- Opens a list or an object. -/
def opened (reader : JsonReader) (phase : Phase) (frame : Frame) : Option JsonReader :=
  if reader.frames.length < maxDepth then some ⟨phase, frame :: reader.frames⟩ else none

/-- Puts a complete value where it belongs. -/
def complete (value : JsonValue) (frames : List Frame) : Option JsonReader :=
  match frames with
  | [] => some ⟨.done value, []⟩
  | .array items :: rest => some ⟨.commaOrEnd, .array (value :: items) :: rest⟩
  | .member members key :: rest => some ⟨.commaOrEnd, .object (members.insert key value) :: rest⟩
  | .object _ :: _ => none

/-- Begins a value. -/
def beginValue (reader : JsonReader) (token : JsonToken) : Option JsonReader :=
  match token with
  | .openArray => reader.opened .itemOrEnd (.array [])
  | .openObject => reader.opened .keyOrEnd (.object [])
  | .text value => complete (.text value) reader.frames
  | .scalar value => complete value reader.frames
  | _ => none

/-- Takes the key of a member. -/
def takeKey (reader : JsonReader) (token : JsonToken) : Option JsonReader :=
  match token, reader.frames with
  | .text key, .object members :: rest => some ⟨.colon, .member members key :: rest⟩
  | _, _ => none

/-- Closes the innermost list or object. -/
def close (reader : JsonReader) (token : JsonToken) : Option JsonReader :=
  match token, reader.frames with
  | .closeArray, .array items :: rest => complete (.array items.reverse) rest
  | .closeObject, .object members :: rest => complete (.object members) rest
  | _, _ => none

/-- Goes on with one token. -/
def step (reader : JsonReader) (token : JsonToken) : Option JsonReader :=
  match reader.phase, token with
  | .value, _ => reader.beginValue token
  | .itemOrEnd, .closeArray => reader.close token
  | .itemOrEnd, _ => reader.beginValue token
  | .keyOrEnd, .closeObject => reader.close token
  | .keyOrEnd, _ => reader.takeKey token
  | .key, _ => reader.takeKey token
  | .colon, .colon => some { reader with phase := .value }
  | .commaOrEnd, .comma =>
    match reader.frames with
    | .array _ :: _ => some { reader with phase := .value }
    | .object _ :: _ => some { reader with phase := .key }
    | _ => none
  | .commaOrEnd, _ => reader.close token
  | _, _ => none

/-- The value of a document that has come to its end. -/
def finish? (reader : JsonReader) : Option JsonValue :=
  match reader.phase with
  | .done value => some value
  | _ => none

end JsonReader

/-- The value that a document writes. -/
def JsonValue.ofText? (text : String) : Option JsonValue := do
  let tokens ← JsonToken.ofText? text.toList
  (← tokens.foldlM JsonReader.step JsonReader.new).finish?

/-- The value that the bytes of a document write. -/
def JsonValue.ofBytes? (bytes : Bytes) : Option JsonValue :=
  (Bytes.toText? bytes).bind JsonValue.ofText?

end OpticalLink
