import OpticalLink.Console.CommandLine
import OpticalLink.Console.Duration
import OpticalLink.Supervisor.Poll

/-!
# Supervising from the command line

The store is loaded, the duration and the devices are settled, the supervisor is
built and the devices are opened, in this order; the first fault ends the program.
Then the supervisor polls until its time is over or the program is interrupted.
-/

namespace OpticalLink

/-! The keys of the devices. -/

/-- The device of the motors. -/
def Key.motorsDevice : String := "serial.motors_device"

/-- The device of the accelerometer. -/
def Key.accelerometerDevice : String := "serial.accelerometer_device"

/-- The speed of the lines. -/
def Key.baud : String := "serial.baud"

namespace Console

/-- The devices and the speed of their lines. -/
structure LineSettings where
  motorsDevice : String
  /-- The device of the accelerometer, if one is named. -/
  accelerometerDevice : Option String
  baud : UInt32
deriving DecidableEq, Repr

namespace LineSettings

/-- The speed in a store. -/
def storedBaud (store : Store) : Except Failure UInt32 :=
  let value := store.getInt Key.baud 115200
  if 0 < value ∧ value ≤ 4294967295 then .ok (UInt32.ofNat value.toNat)
  else .error ⟨ExitCode.invalidData, "invalid value for " ++ Key.baud ++ ": " ++ toString value⟩

/-- The device of the accelerometer in a store; an empty name is none. -/
def storedAccelerometer (store : Store) : Option String :=
  let name := store.getString Key.accelerometerDevice ""
  if name.isEmpty then none else some name

/-- Options weigh more than the store. -/
def ofStore (store : Store) (options : RunOptions) : Except Failure LineSettings := do
  let baud ← match options.baud with
    | some baud => .ok baud
    | none => storedBaud store
  return {
    motorsDevice := options.motorsDevice.getD (store.getString Key.motorsDevice "/dev/ttyS1")
    accelerometerDevice := options.accelerometerDevice.orElse fun _ => storedAccelerometer store
    baud }

/-- The device of the accelerometer unless it shares that of the motors. -/
def separateAccelerometer (settings : LineSettings) : Option String :=
  settings.accelerometerDevice.filter (· ≠ settings.motorsDevice)

/-- The devices to open, with their peers. -/
def devices (settings : LineSettings) : List (Peer × String) :=
  (.motors, settings.motorsDevice) ::
    settings.separateAccelerometer.toList.map fun device => (.accelerometer, device)

end LineSettings

/-- A supervisor that is ready to be attached to serial lines. -/
structure Plan where
  supervisor : Supervisor SerialLine
  lines : LineSettings
  /-- When to stop; never if there is no limit. -/
  stopAfter : Option Interval

/-- The store that the options name. -/
def openStore (contentOf : String → Except IoFault Bytes) (config : Option String) :
    Except Failure Store :=
  match config with
  | none => .ok .memory
  | some path =>
    match Store.loadValues path (contentOf path) with
    | .ok values => .ok ⟨values, .file path false, .empty⟩
    | .error error => .error (.ofStore "load configuration failed" error)

/-- Prepares supervision up to the opening of devices. -/
def Plan.make (contentOf : String → Except IoFault Bytes) (options : RunOptions) :
    Except Failure Plan := do
  let store ← openStore contentOf options.config
  let stopAfter ← options.duration.mapM duration
  let lines ← LineSettings.ofStore store options
  let supervisor ← (Supervisor.new store SerialLine).mapError (.ofSupervisor "invalid configuration")
  return ⟨supervisor, lines, stopAfter⟩

/-- Opens a device at a line speed, or tells why that fails. -/
abbrev OpenDevice := String → UInt32 → Except String SerialLine

/-- Opens the device of a peer and attaches it. -/
def attachDevice (openDevice : OpenDevice) (baud : UInt32) (supervisor : Supervisor SerialLine)
    (entry : Peer × String) : Except Failure (Supervisor SerialLine) :=
  match openDevice entry.2 baud with
  | .ok line => .ok (supervisor.attach entry.1 line)
  | .error detail =>
    .error (.ofTransport ("open " ++ entry.1.name ++ " device failed")
      (.openFailed entry.2 detail))

/-- Polls at some instants until the time since the start is over. -/
def pollUntil (limit : Option Interval) (start : Instant)
    (supervisor : Supervisor SerialLine) : List Instant → Supervisor SerialLine
  | [] => supervisor
  | now :: rest =>
    let supervisor := supervisor.poll now
    if limit.any fun limit => limit ≤ now - start then supervisor
    else pollUntil limit start supervisor rest

/-- Carries out a plan. The instants are those of the polls until the program is
interrupted. -/
def Plan.carryOut (openDevice : OpenDevice) (ticks : List Instant) (plan : Plan) :
    Except Failure (Supervisor SerialLine) := do
  let attached ← plan.lines.devices.foldlM (attachDevice openDevice plan.lines.baud)
    plan.supervisor
  return pollUntil plan.stopAfter (ticks.headD 0) attached ticks

end Console

end OpticalLink
