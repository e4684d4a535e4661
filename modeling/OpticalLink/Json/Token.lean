import OpticalLink.Json.Number

/-!
# Tokens of a document

Brackets, separators, texts between quotes and words. A word is a run of
characters that are none of these and no blanks; it has to be a truth value, the
empty value or a number. The lexer goes through the characters one by one.
-/

namespace OpticalLink

/-- The smallest parts of a document. -/
inductive JsonToken where
  | openArray
  | closeArray
  | openObject
  | closeObject
  | comma
  | colon
  | text (value : String)
  /-- A value that is neither text nor list nor object. -/
  | scalar (value : JsonValue)

/-- Where the lexer is. Characters of a text are collected in reverse. -/
inductive JsonLexer.Phase where
  | between
  | word (collected : List Char)
  | text (collected : List Char)
  /-- After a backslash. -/
  | escape (collected : List Char)
  /-- Among the four digits of an escaped code unit, of which some are left. The
  first half of a pair may wait in front. -/
  | unit (collected : List Char) (waiting : Option Nat) (value left : Nat)
  /-- After the first half of a pair. -/
  | half (collected : List Char) (waiting : Nat)
  /-- After the backslash that begins the second half of a pair. -/
  | halfEscape (collected : List Char) (waiting : Nat)

/-- A lexer with the tokens found so far, in reverse. -/
structure JsonLexer where
  phase : JsonLexer.Phase
  tokens : List JsonToken

namespace JsonLexer

/-- A lexer at the start of a document. -/
def new : JsonLexer := ⟨.between, []⟩

/-- The value of a hexadecimal digit. -/
def hexDigit? (character : Char) : Option Nat :=
  if '0' ≤ character ∧ character ≤ '9' then some (character.toNat - 48)
  else if 'a' ≤ character ∧ character ≤ 'f' then some (character.toNat - 87)
  else if 'A' ≤ character ∧ character ≤ 'F' then some (character.toNat - 55)
  else none

/-- The character that a letter stands for after a backslash. -/
def escaped? (character : Char) : Option Char :=
  match character with
  | '"' => some '"'
  | '\\' => some '\\'
  | '/' => some '/'
  | 'b' => some '\x08'
  | 'f' => some '\x0c'
  | 'n' => some '\n'
  | 'r' => some '\r'
  | 't' => some '\t'
  | _ => none

/-- Whether a code unit is the first half of a pair. -/
def isLeadingHalf (unit : Nat) : Bool := 0xD800 ≤ unit && unit < 0xDC00

/-- Whether a code unit is the second half of a pair. -/
def isTrailingHalf (unit : Nat) : Bool := 0xDC00 ≤ unit && unit < 0xE000

/-- Goes on after a whole code unit. Halves are accepted as pairs only. -/
def acceptUnit (collected : List Char) (waiting : Option Nat) (unit : Nat) : Option Phase :=
  match waiting with
  | some leading =>
    if isTrailingHalf unit then
      let code := 0x10000 + (leading - 0xD800) * 0x400 + (unit - 0xDC00)
      some (.text (Char.ofNat code :: collected))
    else none
  | none =>
    if isLeadingHalf unit then some (.half collected unit)
    else if isTrailingHalf unit then none
    else some (.text (Char.ofNat unit :: collected))

/-- The value that a word writes. -/
def wordValue? (word : List Char) : Option JsonValue :=
  if word = ['n', 'u', 'l', 'l'] then some .null
  else if word = ['t', 'r', 'u', 'e'] then some (.bool true)
  else if word = ['f', 'a', 'l', 's', 'e'] then some (.bool false)
  else (JsonNumber.ofText? word).map .number

/-- Whether a character separates tokens and is none. -/
def isSeparating (character : Char) : Bool :=
  character = ' ' || character = '\n' || character = '\t' || character = '\r'

/-- The token that a single character is. -/
def punctuation? (character : Char) : Option JsonToken :=
  match character with
  | '[' => some .openArray
  | ']' => some .closeArray
  | '\x7b' => some .openObject
  | '\x7d' => some .closeObject
  | ',' => some .comma
  | ':' => some .colon
  | _ => none

/-- Goes on outside of words and texts. -/
def stepBetween (tokens : List JsonToken) (character : Char) : JsonLexer :=
  if isSeparating character then ⟨.between, tokens⟩
  else if character = '"' then ⟨.text [], tokens⟩
  else
    match punctuation? character with
    | some token => ⟨.between, token :: tokens⟩
    | none => ⟨.word [character], tokens⟩

/-- Whether a character ends a word. -/
def endsWord (character : Char) : Bool :=
  isSeparating character || character = '"' || (punctuation? character).isSome

/-- Goes on with one character. -/
def step (lexer : JsonLexer) (character : Char) : Option JsonLexer :=
  match lexer.phase with
  | .between => some (stepBetween lexer.tokens character)
  | .word collected =>
    if endsWord character then
      (wordValue? collected.reverse).map fun value =>
        stepBetween (.scalar value :: lexer.tokens) character
    else some { lexer with phase := .word (character :: collected) }
  | .text collected =>
    if character = '"' then
      some ⟨.between, .text (String.ofList collected.reverse) :: lexer.tokens⟩
    else if character = '\\' then some { lexer with phase := .escape collected }
    else if character.toNat < 0x20 then none
    else some { lexer with phase := .text (character :: collected) }
  | .escape collected =>
    if character = 'u' then some { lexer with phase := .unit collected none 0 4 }
    else
      (escaped? character).map fun meant => { lexer with phase := .text (meant :: collected) }
  | .unit collected waiting value left => do
    let value := 16 * value + (← hexDigit? character)
    let phase ← if left ≤ 1 then acceptUnit collected waiting value
      else some (.unit collected waiting value (left - 1))
    return { lexer with phase }
  | .half collected waiting =>
    if character = '\\' then some { lexer with phase := .halfEscape collected waiting } else none
  | .halfEscape collected waiting =>
    if character = 'u' then some { lexer with phase := .unit collected (some waiting) 0 4 }
    else none

/-- The tokens at the end of a document. A text has to be closed. -/
def finish? (lexer : JsonLexer) : Option (List JsonToken) :=
  match lexer.phase with
  | .between => some lexer.tokens.reverse
  | .word collected =>
    (wordValue? collected.reverse).map fun value => (.scalar value :: lexer.tokens).reverse
  | _ => none

end JsonLexer

/-- The tokens of a document. -/
def JsonToken.ofText? (characters : List Char) : Option (List JsonToken) :=
  (characters.foldlM JsonLexer.step JsonLexer.new).bind JsonLexer.finish?

end OpticalLink
