import OpticalLink.Json.Value

/-!
# Values as text

The compact form has no blanks. The indented form starts a line with every item
and member, two blanks further in at every level. Only quotes, backslashes and
control characters are escaped.
-/

namespace OpticalLink

/-- Numbers are written with an exponent below `0.00001` and from `10 ^ 16` on. -/
def JsonNumber.layout : Decimal.Layout := ⟨-5, 15⟩

/-- The text of a number. What is not finite has no number and is written as the
empty value. -/
def JsonNumber.render : JsonNumber → String
  | .integer value => toString value
  | .float value =>
    match Decimal.Reading.ofFloat value with
    | .finite negative magnitude => (if negative then "-" else "") ++ magnitude.render layout
    | _ => "null"

namespace JsonValue

/-- The four digits of an escaped control character. -/
def controlDigits (character : Char) : List Char :=
  let digits := Nat.toDigits 16 character.toNat
  List.replicate (4 - digits.length) '0' ++ digits

/-- A character as it stands between quotes. -/
def escape (character : Char) : List Char :=
  match character with
  | '"' => ['\\', '"']
  | '\\' => ['\\', '\\']
  | '\n' => ['\\', 'n']
  | '\r' => ['\\', 'r']
  | '\t' => ['\\', 't']
  | '\x08' => ['\\', 'b']
  | '\x0c' => ['\\', 'f']
  | _ => if character.toNat < 0x20 then '\\' :: 'u' :: controlDigits character else [character]

/-- A text between quotes. -/
def quoted (text : String) : String :=
  String.ofList ('"' :: (text.toList.flatMap escape ++ ['"']))

mutual

/-- The compact form. -/
def compact : JsonValue → String
  | .null => "null"
  | .bool value => if value then "true" else "false"
  | .number value => value.render
  | .text value => quoted value
  | .array items => "[" ++ ",".intercalate (compactItems items) ++ "]"
  | .object members => "\x7b" ++ ",".intercalate (compactMembers members) ++ "\x7d"

/-- The compact forms of some items. -/
def compactItems : List JsonValue → List String
  | [] => []
  | item :: rest => compact item :: compactItems rest

/-- The compact forms of some members. -/
def compactMembers : List (String × JsonValue) → List String
  | [] => []
  | (key, value) :: rest => (quoted key ++ ":" ++ compact value) :: compactMembers rest

end

/-- The blanks in front of a line. -/
def indentation (depth : Nat) : String := String.ofList (List.replicate (2 * depth) ' ')

/-- Lines between brackets, one level further in than the brackets. -/
def bracketed (depth : Nat) (opening closing : String) (lines : List String) : String :=
  if lines.isEmpty then opening ++ closing
  else
    opening ++ "\n" ++ ",\n".intercalate (lines.map (indentation (depth + 1) ++ ·)) ++ "\n" ++
      indentation depth ++ closing

mutual

/-- The indented form inside some levels. -/
def indented (depth : Nat) : JsonValue → String
  | .null => "null"
  | .bool value => if value then "true" else "false"
  | .number value => value.render
  | .text value => quoted value
  | .array items => bracketed depth "[" "]" (indentedItems (depth + 1) items)
  | .object members => bracketed depth "\x7b" "\x7d" (indentedMembers (depth + 1) members)

/-- The indented forms of some items. -/
def indentedItems (depth : Nat) : List JsonValue → List String
  | [] => []
  | item :: rest => indented depth item :: indentedItems depth rest

/-- The indented forms of some members. -/
def indentedMembers (depth : Nat) : List (String × JsonValue) → List String
  | [] => []
  | (key, value) :: rest =>
    (quoted key ++ ": " ++ indented depth value) :: indentedMembers depth rest

end

/-- The indented form. -/
def pretty (value : JsonValue) : String := indented 0 value

end JsonValue

end OpticalLink
