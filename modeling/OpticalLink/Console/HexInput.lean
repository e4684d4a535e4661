import OpticalLink.Bytes.Hex
import OpticalLink.Bytes.Text
import OpticalLink.Console.Failure
import OpticalLink.Text.Blank

/-!
# Hexadecimal input

Bytes on the command line are hexadecimal digits with blanks anywhere among them
and one `0x` in front.
-/

namespace OpticalLink.Console

/-- A character in quotes, with what cannot be printed shown by its code. -/
def quotedCharacter (character : Char) : String :=
  let shown := match character with
    | '\'' => "\\'"
    | '\\' => "\\\\"
    | '\x00' => "\\0"
    | _ =>
      if character.toNat < 0x20 ∨ character.toNat = 0x7F then
        "\\u\x7b" ++ String.ofList (Nat.toDigits 16 character.toNat) ++ "\x7d"
      else String.singleton character
  "'" ++ shown ++ "'"

/-- Why a text is not hexadecimal. A byte that is no digit is shown as the
character of its number. -/
def hexErrorText : Hex.Error → String
  | .oddLength => "Odd number of digits"
  | .invalidByte byte position =>
    "Invalid character " ++ quotedCharacter (Char.ofNat byte.toNat) ++ " at position " ++
      toString position

/-- Takes one `0x` off the front. -/
def withoutMark : List Char → List Char
  | '0' :: 'x' :: digits => digits
  | digits => digits

/-- Reads hexadecimal input. -/
def hexInput (text : String) : Except Failure Bytes :=
  let digits := withoutMark (Text.withoutBlanks text.toList)
  (Hex.decode (Bytes.ofText (String.ofList digits))).mapError fun error =>
    ⟨ExitCode.usage, "invalid hex input: " ++ hexErrorText error⟩

end OpticalLink.Console
