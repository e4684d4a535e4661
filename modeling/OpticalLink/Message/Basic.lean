import OpticalLink.Message.Code
import OpticalLink.Message.Value

/-!
# Messages

A message is a sequence of tagged fields. Builders add a field at the end; an
accessor reads the first field with its tag and is silent about a value that
is too short for its type.
-/

namespace OpticalLink

/-- The largest value length that a field header can carry. -/
def maxValueLength : Nat := 65535

/-- Bytes of a field before its value: the tag and a 16-bit length. -/
def fieldHeaderSize : Nat := 3

/-- One tagged value. -/
structure Field where
  tag : Tag
  value : Bytes
deriving DecidableEq, Repr

namespace Field

/-- The length written into the header, cut off at what the header can carry. -/
def length (field : Field) : UInt16 :=
  UInt16.ofNat (min field.value.length maxValueLength)

/-- Header and value together. -/
def wireSize (field : Field) : Nat :=
  fieldHeaderSize + field.value.length

/-- The field as it stands on the wire. -/
def wire (field : Field) : Bytes :=
  field.tag.code :: BigEndian.bytes16 field.length ++ field.value

end Field

/-- Why a message cannot be built, written or read. -/
inductive MessageError where
  /-- The field at an offset is cut off. -/
  | truncated (offset : Nat)
  /-- The bytes end before a checksum field. -/
  | missingChecksum
  /-- The checksum field has a length other than four. -/
  | invalidChecksumLength (length : UInt16)
  /-- The checksum field disagrees with the bytes before it. -/
  | checksumMismatch (expected computed : UInt32)
  /-- A value does not fit into a field. -/
  | valueTooLong (tag : UInt8) (length : Nat)
  /-- The written message would not fit into a buffer. -/
  | bufferTooSmall (size capacity : Nat)
  /-- The tag belongs to the message itself. -/
  | reservedTag (tag : UInt8)
deriving DecidableEq, Repr

/-- A sequence of tagged fields. -/
structure Message where
  fields : List Field
deriving DecidableEq, Repr

namespace Message

/-- The message without fields. -/
def empty : Message := ⟨[]⟩

/-- Whether there is no field. -/
def isEmpty (message : Message) : Bool := message.fields.isEmpty

/-- The message with one more field at its end. -/
def push (message : Message) (tag : Tag) (value : Bytes) : Message :=
  ⟨message.fields ++ [⟨tag, value⟩]⟩

/-- Adds a field with any value. Only the checksum tag itself and values that a
header cannot describe are refused. -/
def addRaw (message : Message) (tag : Tag) (value : Bytes) : Except MessageError Message :=
  if tag = .checksum then .error (.reservedTag tag.code)
  else if value.length > maxValueLength then .error (.valueTooLong tag.code value.length)
  else .ok (message.push tag value)

/-- Adds a command code. -/
def addCommand (message : Message) (command : Command) : Message :=
  message.push .command [command.code]

/-- Adds a reply code. -/
def addReply (message : Message) (reply : Reply) : Message :=
  message.push .reply [reply.code]

/-- Adds a motor position. -/
def addMotorPosition (message : Message) (position : Position) : Message :=
  message.push .motorPosition position.encode

/-- Adds an encoder reading. -/
def addEncoderReading (message : Message) (reading : EncoderReading) : Message :=
  message.push .encoderValue reading.encode

/-- Adds an accelerometer sample. -/
def addAcceleration (message : Message) (sample : Acceleration) : Message :=
  message.push .accelerometerValue sample.encode

/-- Adds a transceiver calibration. -/
def addSfpCalibration (message : Message) (calibration : SfpCalibration) : Message :=
  message.push .sfpCalibration calibration.encode

/-- Adds an optical power reading in wire units. -/
def addPowerReading (message : Message) (reading : UInt16) : Message :=
  message.push .powerReading (BigEndian.bytes16 reading)

/-- Adds a motor current reading. -/
def addCurrentReading (message : Message) (reading : UInt16) : Message :=
  message.push .currentReading (BigEndian.bytes16 reading)

/-- Adds an error code. -/
def addErrorReport (message : Message) (code : UInt32) : Message :=
  message.push .errorReport (BigEndian.bytes32 code)

/-- The message that holds one command. -/
def ofCommand (command : Command) : Message := empty.addCommand command

/-- The message that holds one reply. -/
def ofReply (reply : Reply) : Message := empty.addReply reply

/-- The first field with a tag. -/
def field? (message : Message) (tag : Tag) : Option Field :=
  message.fields.find? fun field => field.tag == tag

/-- The value of the first field with a tag. -/
def value? (message : Message) (tag : Tag) : Option Bytes :=
  (message.field? tag).map (·.value)

/-- The command code, if there is one. -/
def command? (message : Message) : Option Command :=
  (message.value? .command).bind fun value => value.head?.map Command.ofCode

/-- The reply code, if there is one. -/
def reply? (message : Message) : Option Reply :=
  (message.value? .reply).bind fun value => value.head?.map Reply.ofCode

/-- The motor position, if there is one. -/
def motorPosition? (message : Message) : Option Position :=
  (message.value? .motorPosition).bind Position.decode?

/-- The encoder reading, if there is one. -/
def encoderReading? (message : Message) : Option EncoderReading :=
  (message.value? .encoderValue).bind EncoderReading.decode?

/-- The accelerometer sample, if there is one. -/
def acceleration? (message : Message) : Option Acceleration :=
  (message.value? .accelerometerValue).bind Acceleration.decode?

/-- The transceiver calibration, if there is one. -/
def sfpCalibration? (message : Message) : Option SfpCalibration :=
  (message.value? .sfpCalibration).bind SfpCalibration.decode?

/-- The 16-bit number at the front of a value. -/
def number16? (value : Bytes) : Option UInt16 :=
  (BigEndian.read16? value).map (·.1)

/-- The 32-bit number at the front of a value. -/
def number32? (value : Bytes) : Option UInt32 :=
  (BigEndian.read32? value).map (·.1)

/-- The optical power reading in wire units, if there is one. -/
def powerReading? (message : Message) : Option UInt16 :=
  (message.value? .powerReading).bind number16?

/-- The optical power in milliwatts, if there is a reading. -/
def power? (message : Message) : Option Milliwatts :=
  message.powerReading?.map milliwattsOfReading

/-- The motor current reading, if there is one. -/
def currentReading? (message : Message) : Option UInt16 :=
  (message.value? .currentReading).bind number16?

/-- The error code, if there is one. -/
def errorReport? (message : Message) : Option UInt32 :=
  (message.value? .errorReport).bind number32?

end Message

end OpticalLink
