import OpticalLink.Message.Basic

/-!
# Messages as text

The one-line summary of a message and the texts of message errors.
-/

namespace OpticalLink

namespace Message

/-- Several numbers in parentheses. -/
def tupleText (numbers : List Int) : String :=
  "(" ++ ", ".intercalate (numbers.map toString) ++ ")"

/-- The readable value of a field. Codes are those of the whole message, which
are the codes of its first command and reply fields. -/
def valueText? (message : Message) (field : Field) : Option String :=
  match field.tag with
  | .command => message.command?.map Command.name
  | .reply => message.reply?.map Reply.name
  | .motorPosition => (Position.decode? field.value).map fun position =>
      tupleText [position.x.toInt, position.y.toInt, position.z.toInt]
  | .encoderValue => (EncoderReading.decode? field.value).map fun reading =>
      tupleText [reading.x.toInt, reading.y.toInt]
  | .accelerometerValue => (Acceleration.decode? field.value).map fun sample =>
      tupleText [sample.ax.toInt, sample.ay.toInt, sample.az.toInt]
  | .sfpCalibration => (SfpCalibration.decode? field.value).map fun calibration =>
      tupleText [calibration.offsetX.toNat, calibration.offsetY.toNat]
  | .powerReading => (number16? field.value).map fun reading => toString reading.toNat
  | .currentReading => (number16? field.value).map fun reading => toString reading.toNat
  | .errorReport => (number32? field.value).map fun code => toString code.toNat
  | .checksum => none
  | .unknown _ => none

/-- One field of the summary. A value without readable form is shown by its
size. -/
def fieldText (message : Message) (field : Field) : String :=
  let value := (message.valueText? field).getD ("[" ++ toString field.value.length ++ " bytes]")
  " " ++ field.tag.name ++ "=" ++ value

/-- The fields of the summary in order. -/
def summaryBody (message : Message) : String :=
  String.join (message.fields.map message.fieldText)

/-- The one-line summary. -/
def summary (message : Message) : String :=
  "<message" ++ message.summaryBody ++ ">"

end Message

/-- A 32-bit number as `0x` and eight lower-case digits. -/
def paddedHex (word : UInt32) : String :=
  let digits := Nat.toDigits 16 word.toNat
  "0x" ++ String.ofList (List.replicate (8 - digits.length) '0' ++ digits)

/-- The text of a message error. -/
def MessageError.text : MessageError → String
  | .truncated offset => "truncated field at offset " ++ toString offset
  | .missingChecksum => "message has no checksum field"
  | .invalidChecksumLength length =>
    "invalid checksum length " ++ toString length.toNat ++ " (expected 4)"
  | .checksumMismatch expected computed =>
    "checksum mismatch (expected " ++ paddedHex expected ++ ", computed " ++
      paddedHex computed ++ ")"
  | .valueTooLong tag length =>
    "value for tag " ++ toString tag.toNat ++ " too long (" ++ toString length ++
      " bytes, max 65535)"
  | .bufferTooSmall size capacity =>
    "message needs " ++ toString size ++ " bytes, buffer holds " ++ toString capacity
  | .reservedTag tag => "tag " ++ toString tag.toNat ++ " is reserved"

end OpticalLink
