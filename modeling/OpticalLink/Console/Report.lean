import OpticalLink.Bytes.Hex
import OpticalLink.Bytes.Text
import OpticalLink.Decimal.Fixed
import OpticalLink.Frame.Receiver
import OpticalLink.Json.Printer
import OpticalLink.Message.Summary
import OpticalLink.Supervisor.Status
import OpticalLink.Text.Table

/-!
# Reports

How messages, counters and the status of a unit are printed in each of the output
formats.
-/

namespace OpticalLink.Console

/-- The output formats. -/
inductive OutputFormat where
  | json
  | table
  | pretty
  | raw
deriving DecidableEq, Repr

/-- Text with a line break behind it. -/
def line (text : String) : String := text ++ "\n"

/-- A member that is there only if it has a value. -/
def optionalMember {α : Type} (key : String) (value : Option α) (write : α → JsonValue) :
    List (String × JsonValue) :=
  match value with
  | some value => [(key, write value)]
  | none => []

/-- A field of a message as a value. -/
def fieldValue (field : Field) : JsonValue := .object [
  ("tag", .text field.tag.name), ("code", .ofNat field.tag.code.toNat),
  ("length", .ofNat field.value.length), ("value", .text (Hex.encode field.value))]

/-- A message as a value. -/
def messageValue (message : Message) : JsonValue := .object (
  optionalMember "command" message.command? (fun command => .text command.name) ++
  optionalMember "reply" message.reply? (fun reply => .text reply.name) ++
  [("fields", .array (message.fields.map fieldValue)), ("summary", .text message.summary)])

/-- The row of a field. -/
def fieldRow (field : Field) : List String :=
  [field.tag.name, toString field.tag.code.toNat, toString field.value.length,
    Hex.encode field.value]

/-- The fields of a message as a table. -/
def fieldTable (message : Message) : Text.Table :=
  ⟨["TAG", "CODE", "LENGTH", "VALUE"], message.fields.map fieldRow⟩

/-- The report on a message and its frame. Only the raw format is not text. -/
def encodedReport (message : Message) (frame : Bytes) (format : OutputFormat) : Bytes :=
  match format with
  | .json => Bytes.ofText (line (JsonValue.compact (.object [("message", messageValue message),
      ("frame_size", .ofNat frame.length), ("frame", .text (Hex.encode frame))])))
  | .table =>
    let table := fieldTable message
    Bytes.ofText (line (Text.Table.render { table with
      rows := table.rows ++ [["frame", "-", toString frame.length, Hex.encode frame]] }))
  | .pretty => Bytes.ofText (line message.summary ++
      line ("frame (" ++ toString frame.length ++ " bytes): " ++ Hex.encode frame))
  | .raw => frame

/-- The report on the messages in some bytes, with the counters. -/
def decodedReport (messages : List Message) (stats : FrameStats) (format : OutputFormat) :
    String :=
  match format with
  | .json => line (JsonValue.compact (.object [("messages", .array (messages.map messageValue)),
      ("delivered", .ofNat stats.delivered), ("rejected", .ofNat stats.rejected),
      ("oversized", .ofNat stats.oversized)]))
  | .table =>
    String.join (messages.map fun message => line (fieldTable message).render) ++
      line ("delivered=" ++ toString stats.delivered ++ " rejected=" ++ toString stats.rejected ++
        " oversized=" ++ toString stats.oversized)
  | .pretty | .raw => String.join (messages.map fun message => line message.summary)

/-- The motors as a value. -/
def motorsValue (motors : MotorStatus) : JsonValue := .ofMembers ([
  ("position", .ofMembers [("x", .ofInt motors.position.x.toInt),
    ("y", .ofInt motors.position.y.toInt), ("z", .ofInt motors.position.z.toInt)]),
  ("encoder", .ofMembers [("x", .ofInt motors.encoder.x.toInt),
    ("y", .ofInt motors.encoder.y.toInt)]),
  ("range_x", .ofNat motors.rangeX.toNat), ("range_y", .ofNat motors.rangeY.toNat)] ++
  optionalMember "current" motors.current (fun reading => .ofNat reading.toNat) ++
  optionalMember "last_error" motors.lastError (fun code => .ofNat code.toNat))

/-- A sample of acceleration as a value. -/
def accelerationValue (sample : Acceleration) : JsonValue := .ofMembers [
  ("ax", .ofInt sample.ax.toInt), ("ay", .ofInt sample.ay.toInt), ("az", .ofInt sample.az.toInt)]

/-- The camera as a value. -/
def cameraValue (camera : Camera) : JsonValue := .ofMembers [
  ("port", .ofNat camera.streamPort.toNat), ("path", .text camera.path),
  ("offset_x", .ofNat camera.offsetX.toNat), ("offset_y", .ofNat camera.offsetY.toNat),
  ("distance", .ofNat camera.distance.toNat)]

/-- The presence of a peer as a value. -/
def peerValue (status : PeerStatus) : JsonValue := .ofMembers [
  ("peer", .text status.peer.name), ("attached", .bool status.attached),
  ("connected", .bool status.connected)]

/-- The status of a unit as a value. -/
def statusValue (status : Status) : JsonValue := .ofMembers ([
  ("id", .text status.id), ("connected", .bool status.connected),
  ("peers", .array (status.peers.map peerValue)), ("motors", motorsValue status.motors),
  ("camera", cameraValue status.camera),
  ("sfp", .ofMembers [("tx_power_mw", .ofFloat status.transceiver.txPower),
    ("rx_power_mw", .ofFloat status.transceiver.rxPower)])] ++
  optionalMember "accelerometer" status.acceleration accelerationValue)

/-- The survey as a value. -/
def surveyValue (survey : SurveySnapshot) : JsonValue := .ofMembers [
  ("bins", .ofNat survey.bins), ("coverage", .ofInt survey.coverage),
  ("points", .array (survey.points.map fun point => .ofMembers [("x", .ofNat point.x),
    ("y", .ofNat point.y), ("rx_power_mw", .ofFloat point.power)]))]

/-- Places behind the point of a printed power. -/
def powerPlaces : Nat := 4

/-- A position in parentheses. -/
def positionText (position : Position) : String :=
  Message.tupleText [position.x.toInt, position.y.toInt, position.z.toInt]

/-- The main points of a status as a table. -/
def statusTable (status : Status) (survey : SurveySnapshot) : Text.Table := ⟨["FIELD", "VALUE"], [
  ["id", status.id],
  ["connected", toString status.connected],
  ["motors", positionText status.motors.position],
  ["range", "±" ++ toString status.motors.rangeX.toNat ++ " / ±" ++
    toString status.motors.rangeY.toNat],
  ["rx_power_mw", Decimal.fixed status.transceiver.rxPower powerPlaces],
  ["survey", toString survey.points.length ++ " of " ++ toString (survey.bins * survey.bins) ++
    " cells"]]⟩

/-- The main points of a status on one line. -/
def statusLine (status : Status) (survey : SurveySnapshot) : String :=
  "id=" ++ status.id ++ " connected=" ++ toString status.connected ++ " motors=" ++
    positionText status.motors.position ++ " rx_power_mw=" ++
    Decimal.fixed status.transceiver.rxPower powerPlaces ++ " survey_points=" ++
    toString survey.points.length

/-- The report on the status of a unit and its survey. -/
def statusReport (status : Status) (survey : SurveySnapshot) (format : OutputFormat) : String :=
  match format with
  | .json | .raw => line (JsonValue.compact
      (.ofMembers [("status", statusValue status), ("survey", surveyValue survey)]))
  | .table => line (statusTable status survey).render
  | .pretty => line (statusLine status survey)

end OpticalLink.Console
