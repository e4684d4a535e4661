/-!
# Wire codes

Field tags, commands and replies as they are numbered on the wire. Codes are
only ever appended; one that is not listed is kept as an unknown code, so that
messages of newer devices survive.
-/

namespace OpticalLink

/-- What a field of a message holds. -/
inductive Tag where
  | command
  | reply
  | checksum
  | motorPosition
  | currentReading
  | sfpCalibration
  | errorReport
  | powerReading
  | encoderValue
  | accelerometerValue
  | unknown (code : UInt8)
deriving DecidableEq, Repr

namespace Tag

/-- The tag with a wire code. -/
def ofCode : UInt8 → Tag
  | 1 => .command
  | 2 => .reply
  | 3 => .checksum
  | 4 => .motorPosition
  | 5 => .currentReading
  | 6 => .sfpCalibration
  | 7 => .errorReport
  | 8 => .powerReading
  | 9 => .encoderValue
  | 10 => .accelerometerValue
  | code => .unknown code

/-- The wire code of a tag. -/
def code : Tag → UInt8
  | .command => 1
  | .reply => 2
  | .checksum => 3
  | .motorPosition => 4
  | .currentReading => 5
  | .sfpCalibration => 6
  | .errorReport => 7
  | .powerReading => 8
  | .encoderValue => 9
  | .accelerometerValue => 10
  | .unknown code => code

/-- The name shown for a tag. -/
def name : Tag → String
  | .command => "command"
  | .reply => "reply"
  | .checksum => "checksum"
  | .motorPosition => "motor-position"
  | .currentReading => "current-reading"
  | .sfpCalibration => "sfp-calibration"
  | .errorReport => "error-report"
  | .powerReading => "power-reading"
  | .encoderValue => "encoder-value"
  | .accelerometerValue => "accelerometer-value"
  | .unknown _ => "unknown"

/-- Every wire code survives the way through its tag. -/
@[simp] theorem code_ofCode (code : UInt8) : (ofCode code).code = code := by
  unfold ofCode
  split <;> rfl

end Tag

/-- What the gateway can ask of the motor controller. -/
inductive Command where
  | getStatus
  | moveMotor
  | homing
  | reboot
  | firmwareUpgrade
  | restoreMotor
  | unknown (code : UInt8)
deriving DecidableEq, Repr

namespace Command

/-- The command with a wire code. -/
def ofCode : UInt8 → Command
  | 1 => .getStatus
  | 2 => .moveMotor
  | 3 => .homing
  | 4 => .reboot
  | 5 => .firmwareUpgrade
  | 6 => .restoreMotor
  | code => .unknown code

/-- The wire code of a command. -/
def code : Command → UInt8
  | .getStatus => 1
  | .moveMotor => 2
  | .homing => 3
  | .reboot => 4
  | .firmwareUpgrade => 5
  | .restoreMotor => 6
  | .unknown code => code

/-- The name shown for a command. -/
def name : Command → String
  | .getStatus => "get-status"
  | .moveMotor => "move-motor"
  | .homing => "homing"
  | .reboot => "reboot"
  | .firmwareUpgrade => "firmware-upgrade"
  | .restoreMotor => "restore-motor"
  | .unknown _ => "unknown"

/-- The commands that have a name of their own. -/
def known : List Command :=
  [.getStatus, .moveMotor, .homing, .reboot, .firmwareUpgrade, .restoreMotor]

/-- The known command with a name, in exactly this spelling. -/
def ofName? (text : String) : Option Command :=
  known.find? fun command => command.name == text

/-- Every wire code survives the way through its command. -/
@[simp] theorem code_ofCode (code : UInt8) : (ofCode code).code = code := by
  unfold ofCode
  split <;> rfl

end Command

/-- What a device answers. -/
inductive Reply where
  | statusReport
  | errorReport
  | unknown (code : UInt8)
deriving DecidableEq, Repr

namespace Reply

/-- The reply with a wire code. -/
def ofCode : UInt8 → Reply
  | 1 => .statusReport
  | 2 => .errorReport
  | code => .unknown code

/-- The wire code of a reply. -/
def code : Reply → UInt8
  | .statusReport => 1
  | .errorReport => 2
  | .unknown code => code

/-- The name shown for a reply. -/
def name : Reply → String
  | .statusReport => "status-report"
  | .errorReport => "error-report"
  | .unknown _ => "unknown"

/-- Every wire code survives the way through its reply. -/
@[simp] theorem code_ofCode (code : UInt8) : (ofCode code).code = code := by
  unfold ofCode
  split <;> rfl

end Reply

end OpticalLink
