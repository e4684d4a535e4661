import OpticalLink.Text.Emoji
import OpticalLink.Text.Marks
import OpticalLink.Text.Script
import OpticalLink.Text.Wide

/-!
# The width of a text in columns

On a screen of equal columns most characters take one column, wide characters two
and marks none. Characters that are shown as one picture or as one sign take the
columns of that picture or sign. Whether a character joins depends on what stands
behind it, so a text is measured from its end.
-/

namespace OpticalLink.Text

/-- The columns of a character that stands alone. -/
def characterWidth (character : Char) : Nat :=
  if character.toNat ≤ 0xA0 then 1
  else if isMark character then 0
  else if character.toNat = 0x17A4 then 2
  else if character.toNat = 0x17D8 then 3
  else if isWide character then 2
  else 1

/-- What stands behind a character, as far as the character can join it. -/
inductive Trail where
  /-- Nothing that could be joined. -/
  | plain
  | lineFeed
  | skinTone
  /-- One flag letter. -/
  | flagLetter
  /-- Several flag letters. -/
  | flagLetters
  | emoji
  /-- A joiner before an emoji. -/
  | joinedEmoji
  /-- A keycap before a joined emoji. -/
  | joinedKeycap
  /-- One flag letter before a joined emoji. -/
  | joinedFlagLetter
  /-- An even number of flag letters before a joined emoji. -/
  | joinedFlags
  /-- An odd number of flag letters, more than one, before a joined emoji. -/
  | joinedFlagsLetter
  /-- Tags for so many letters and the last tag before a joined emoji. -/
  | joinedTagLetters (count : Nat)
  /-- Tags for so many digits, some letters and the last tag before a joined emoji. -/
  | joinedTagDigits (count : Nat)
  | alef
  | lamed (joined : Bool)
  | ya (joined : Bool)
  /-- The vowel i before a joined ya. -/
  | vowelYa
  | tifinagh (joined : Bool)
  /-- A Tifinagh joiner before a consonant. -/
  | joinerTifinagh
  | lisuTone
  | orkhonI (joined : Bool)
  | khmerLetter
  | kiratE
  | kiratAi
deriving DecidableEq, Repr

namespace Trail

/-- What a character leaves behind the one before it. -/
def ofCharacter (character : Char) : Trail :=
  if isKhmerSubscript character then .khmerLetter
  else if isAlef character then .alef
  else if character = Text.lamed then .lamed false
  else if character = bugineseYa then .ya false
  else if isTifinagh character then .tifinagh false
  else if isSecondLisuTone character then .lisuTone
  else if character = Text.orkhonI then .orkhonI false
  else if character = Text.kiratE then .kiratE
  else if character = Text.kiratAi then .kiratAi
  else if isSkinTone character then .skinTone
  else if isFlagLetter character then .flagLetter
  else if isEmoji character then .emoji
  else .plain

/-- Whether the trail is that of a joining letter. Style selectors do not part it
from the letter before. -/
def isLetter : Trail → Bool
  | .alef | .lamed _ | .ya _ | .vowelYa | .tifinagh _ | .joinerTifinagh | .lisuTone
  | .orkhonI _ | .khmerLetter => true
  | _ => false

/-- The trail behind a joiner. -/
def joined : Trail → Trail
  | .lamed _ => .lamed true
  | .ya _ => .ya true
  | .tifinagh _ => .tifinagh true
  | .orkhonI _ => .orkhonI true
  | trail => trail

/-- How a character joins what stands behind it: the columns that it adds or takes
away, and the trail that it leaves. -/
def join? (trail : Trail) (character : Char) : Option (Int × Trail) :=
  match trail with
  | .alef =>
    if isLam character then some (0, .plain)
    else if isJoiningMark character then some (0, .alef)
    else none
  | .lamed true => if character = hebrewAlef then some (0, .plain) else none
  | .khmerLetter => if character = khmerSubscriptSign then some (-1, .plain) else none
  | .ya true => if character = bugineseVowelI then some (0, .vowelYa) else none
  | .vowelYa => if character = bugineseA then some (0, .plain) else none
  | .tifinagh joined =>
    if character = tifinaghJoiner then some (1, .joinerTifinagh)
    else if joined && isTifinagh character then some (0, .plain)
    else none
  | .joinerTifinagh => if isTifinagh character then some (-1, .plain) else none
  | .lisuTone => if isFirstLisuTone character then some (0, .plain) else none
  | .orkhonI true => if character = orkhonEc then some (0, .plain) else none
  | .skinTone =>
    if takesTone character then some (0, .emoji)
    else if character = joiner then some (0, .joinedEmoji)
    else none
  | .flagLetter => if isFlagLetter character then some (1, .flagLetters) else none
  | .flagLetters =>
    if isFlagLetter character then some (1, .flagLetters)
    else if character = joiner then some (0, .joinedEmoji)
    else none
  | .emoji => if character = joiner then some (0, .joinedEmoji) else none
  | .joinedEmoji =>
    if character = keycap then some (0, .joinedKeycap)
    else if isFlagLetter character then some (1, .joinedFlagLetter)
    else if isSkinTone character then some (0, .skinTone)
    else if character = lastTag then some (0, .joinedTagLetters 0)
    else if isEmoji character then some (0, .emoji)
    else none
  | .joinedFlagLetter => if isFlagLetter character then some (-1, .joinedFlags) else none
  | .joinedFlags =>
    if isFlagLetter character then some (3, .joinedFlagsLetter)
    else if character = joiner then some (0, .joinedEmoji)
    else none
  | .joinedFlagsLetter =>
    if isFlagLetter character then some (-1, .joinedFlags)
    else if character = joiner then some (0, .joinedEmoji)
    else none
  | .joinedTagLetters count =>
    if isTagLetter character && count < 6 then some (0, .joinedTagLetters (count + 1))
    else if isTagDigit character && count ≤ 4 then some (0, .joinedTagDigits 1)
    else if character = blackFlag ∧ 3 ≤ count then some (0, .emoji)
    else none
  | .joinedTagDigits count =>
    if isTagDigit character && count < 3 then some (0, .joinedTagDigits (count + 1))
    else if character = blackFlag ∧ count = 3 then some (0, .emoji)
    else none
  | .kiratE =>
    if character = Text.kiratAa then some (0, .plain)
    else if character = Text.kiratE then some (0, .kiratAi)
    else if character = Text.kiratAi then some (1, .kiratE)
    else if character = kiratO then some (0, .plain)
    else none
  | .kiratAi => if character = Text.kiratAa then some (0, .plain) else none
  | _ => none

end Trail

/-- A trail with the style selectors before it. -/
structure TrailStyle where
  trail : Trail
  /-- The emoji selector is among them. -/
  emojiStyle : Bool
  /-- The text selector is among them. -/
  textStyle : Bool
  /-- The quotation selector is among them. -/
  quotationStyle : Bool
deriving DecidableEq, Repr

namespace TrailStyle

/-- A trail without selectors. -/
def bare (trail : Trail) : TrailStyle := ⟨trail, false, false, false⟩

/-- Whether the trail is a joined emoji that a picture before it would join. -/
def awaitsPicture (style : TrailStyle) : Bool :=
  style.trail = .joinedEmoji || style.trail = .joinedKeycap

/-- With the emoji selector in front. It leaves joining letters and joined emoji
in place. -/
def withEmojiStyle (style : TrailStyle) : TrailStyle :=
  if style.trail.isLetter || (style.awaitsPicture && !style.emojiStyle) then
    { style with emojiStyle := true }
  else { bare .plain with emojiStyle := true }

/-- With the text selector in front. It leaves joining letters in place. -/
def withTextStyle (style : TrailStyle) : TrailStyle :=
  if style.trail.isLetter then { style with textStyle := true }
  else { bare .plain with textStyle := true }

/-- With the quotation selector in front. It leaves joining letters in place. -/
def withQuotationStyle (style : TrailStyle) : TrailStyle :=
  if style.trail.isLetter then { style with quotationStyle := true }
  else { bare .plain with quotationStyle := true }

/-- Without the emoji selector, on which no character before it called. -/
def withoutEmojiStyle (style : TrailStyle) : TrailStyle :=
  if !style.emojiStyle then style
  else if style.trail.isLetter then { style with emojiStyle := false }
  else bare .plain

end TrailStyle

/-- The columns that a character of the first alphabets and controls adds. A line
break of two characters counts once. -/
def plainStep (character : Char) (trail : Trail) : Int × Trail :=
  if character = '\n' then (1, .lineFeed)
  else if character = '\r' ∧ trail = .lineFeed then (0, .plain)
  else (1, .plain)

/-- The columns that a character adds if no selector acts on it. -/
def joinStep (character : Char) (trail : Trail) : Int × Trail :=
  if trail.isLetter && trail ≠ .alef && character = joiner then (0, trail.joined)
  else if trail.isLetter && trail ≠ .alef && isUnseenMark character then (0, trail)
  else (trail.join? character).getD (characterWidth character, .ofCharacter character)

/-- The columns that a character adds to those of the text behind it, and what it
leaves behind the one before it. -/
def widthStep (character : Char) (style : TrailStyle) : Int × TrailStyle :=
  if style.emojiStyle && takesStyle character then
    (if style.awaitsPicture then 0 else 2, .bare .emoji)
  else
    let style := style.withoutEmojiStyle
    if character.toNat ≤ 0xA0 then (plainStep character style.trail).map id .bare
    else if character = emojiSelector then (0, style.withEmojiStyle)
    else if character = textSelector then (0, style.withTextStyle)
    else if character = quotationSelector then (0, style.withQuotationStyle)
    else if style.textStyle && takesTextStyle character then (1, .bare .plain)
    else if style.quotationStyle && isQuotationMark character then (2, .bare .plain)
    else (joinStep character style.trail).map id .bare

/-- The columns of some characters and the trail that they leave. -/
def measured (characters : List Char) : Int × TrailStyle :=
  characters.foldr (fun character (behind : Int × TrailStyle) =>
    let (columns, style) := widthStep character behind.2
    (behind.1 + columns, style)) (0, TrailStyle.bare .plain)

/-- The first character adds its columns to those of the others. -/
theorem measured_cons (character : Char) (others : List Char) :
    measured (character :: others) =
      ((measured others).1 + (widthStep character (measured others).2).1,
        (widthStep character (measured others).2).2) := rfl

/-- The columns of a line. -/
def width (line : String) : Nat := (measured line.toList).1.toNat

end OpticalLink.Text
