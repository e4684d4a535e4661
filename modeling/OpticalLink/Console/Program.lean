import OpticalLink.Console.HexInput
import OpticalLink.Console.Supervise

/-!
# The program

What the program prints and how it ends, as a function of its arguments and what
it finds outside.
-/

namespace OpticalLink.Console

/-- What the program finds outside. -/
structure Surroundings where
  /-- The path of the settings that the environment gives. -/
  config : Option String
  /-- What comes in from outside. -/
  input : Except IoFault Bytes
  contentOf : String → Except IoFault Bytes
  openDevice : OpenDevice
  /-- When the program wakes up to poll, until it is interrupted. -/
  ticks : List Instant

/-- How the program ended. -/
structure Outcome where
  code : Nat
  output : Bytes
  message : Option String
deriving DecidableEq, Repr

namespace Outcome

/-- The program did what it was asked. -/
def done (output : Bytes) : Outcome := ⟨ExitCode.success, output, none⟩

/-- The program printed something and failed. -/
def failed (output : Bytes) (failure : Failure) : Outcome :=
  ⟨failure.code, output, some failure.message⟩

/-- The outcome of a task that prints nothing when it fails. -/
def ofResult (result : Except Failure Bytes) : Outcome :=
  match result with
  | .ok output => done output
  | .error failure => failed [] failure

end Outcome

/-- The format of output that goes to no screen. -/
def defaultFormat : OutputFormat := .json

/-- The message that options describe. A position has three parts, and the command
to move has a position. -/
def buildMessage (command : Command) (position : Option (List Int32)) (power : Option UInt16) :
    Except Failure Message := do
  let message ← match position with
    | some [x, y, z] => .ok ((Message.ofCommand command).addMotorPosition ⟨x, y, z⟩)
    | some parts => .error ⟨ExitCode.usage, "--position expects X,Y,Z, got " ++
        toString parts.length ++ " values"⟩
    | none =>
      if command = .moveMotor then
        .error ⟨ExitCode.usage, "move-motor requires --position X,Y,Z"⟩
      else .ok (Message.ofCommand command)
  match power with
  | some reading => return message.addPowerReading reading
  | none => return message

/-- Encodes a command. -/
def encode (command : Command) (position : Option (List Int32)) (power : Option UInt16)
    (format : OutputFormat) : Except Failure Bytes := do
  let message ← buildMessage command position power
  let frame ← (Frame.ofMessage message Frame.maxLength).mapError (.ofFrame "encode failed")
  return encodedReport message frame format

/-- The counters of a payload that was read without a frame. -/
def payloadStats : FrameStats := ⟨1, 0, 0⟩

/-- The messages in some bytes. -/
def decodeBytes (payload : Bool) (bytes : Bytes) : Except Failure (List Message × FrameStats) :=
  if payload then
    match Message.parse bytes with
    | .ok message => .ok ([message], payloadStats)
    | .error error => .error ⟨ExitCode.invalidData, "invalid payload: " ++ error.text⟩
  else
    let (receiver, messages) := (Receiver.withLimit Frame.maxLength).feed bytes
    .ok (messages, receiver.stats)

/-- How decoding fails when nothing valid was found. Input without any frame is no
failure. -/
def decodeFailure? (messages : List Message) (stats : FrameStats) : Option Failure :=
  if messages.isEmpty ∧ (0 < stats.rejected ∨ 0 < stats.oversized) then
    some ⟨ExitCode.invalidData, "no valid frames (" ++ toString stats.rejected ++ " rejected, " ++
      toString stats.oversized ++ " oversized)"⟩
  else none

/-- How reading text fails when the bytes are none. -/
def invalidTextFault : IoFault := ⟨.invalidData, "stream did not contain valid UTF-8"⟩

/-- The text to decode. -/
def decodeText (input : Except IoFault Bytes) (hex : Option String) : Except Failure String :=
  match hex with
  | some text => .ok text
  | none =>
    match input with
    | .error fault => .error (.ofIo "read stdin failed" fault)
    | .ok bytes =>
      match Bytes.toText? bytes with
      | some text => .ok text
      | none => .error (.ofIo "read stdin failed" invalidTextFault)

/-- Decodes messages. The report is printed also when nothing valid was found. -/
def decode (input : Except IoFault Bytes) (options : DecodeOptions) (format : OutputFormat) :
    Outcome :=
  let found : Except Failure (List Message × FrameStats) := do
    let text ← decodeText input options.hex
    decodeBytes options.payload (← hexInput text)
  match found with
  | .error failure => .failed [] failure
  | .ok (messages, stats) =>
    let report := Bytes.ofText (decodedReport messages stats format)
    match decodeFailure? messages stats with
    | some failure => .failed report failure
    | none => .done report

/-- The version of the program. -/
def versionNumber : String := "0.3.0"

/-- The version on one line. -/
def versionLine : String := line ("koruza " ++ versionNumber)

/-- A byte as `0x` and two upper-case digits. -/
def upperHex (byte : UInt8) : String :=
  "0x" ++ String.ofList ((Hex.digits byte).map Char.toUpper)

/-- The version and what it stands for on the wire. -/
def versionReport (extended : Bool) : String :=
  if extended then
    line "name: koruza" ++ line ("version: " ++ versionNumber) ++
      line ("frame: start=" ++ upperHex Frame.startMarker ++ " end=" ++ upperHex Frame.endMarker ++
        " escape=" ++ upperHex Frame.escapeMarker ++ " max_length=" ++ toString Frame.maxLength) ++
      line "checksum: additive-u32"
  else versionLine

/-- Supervises a unit and reports its status at the end. -/
def supervise (surroundings : Surroundings) (options : RunOptions) (format : OutputFormat) :
    Except Failure Bytes := do
  let plan ← Plan.make surroundings.contentOf options
  let supervisor ← plan.carryOut surroundings.openDevice surroundings.ticks
  return Bytes.ofText (statusReport supervisor.status supervisor.survey.snapshot format)

/-- Does what a command line asks for. -/
def perform (surroundings : Surroundings) (invocation : Invocation) : Outcome :=
  let format := invocation.common.format.getD defaultFormat
  match invocation.task with
  | .run options => .ofResult (supervise surroundings options format)
  | .encode command position power => .ofResult (encode command position power format)
  | .decode options => decode surroundings.input options format
  | .version options => .done (Bytes.ofText (versionReport options.extended))

/-- Whether a task reads what comes in from outside. -/
def Task.readsInput : Task → Bool
  | .decode options => options.hex.isNone
  | _ => false

/-- The path of the settings that a task reads. -/
def Task.configPath? : Task → Option String
  | .run options => options.config
  | _ => none

/-- How to use the program. -/
def usageText : String :=
  line "Usage: koruza [OPTIONS] <COMMAND>" ++ line "" ++ line "Commands:" ++
    line "  run      Supervise the alignment unit until interrupted" ++
    line "  encode   Build a command message and print its frame" ++
    line "  decode   Decode frames from hex-encoded bytes" ++
    line "  version  Show version information"

/-- Reads the command line and does what it asks for. -/
def run (surroundings : Surroundings) (arguments : List String) : Outcome :=
  match Invocation.read surroundings.config arguments with
  | .ok invocation => perform surroundings invocation
  | .error .help => .done (Bytes.ofText usageText)
  | .error .version => .done (Bytes.ofText versionLine)
  | .error .usage => ⟨ExitCode.badCommandLine, [], some "invalid arguments"⟩

end OpticalLink.Console
