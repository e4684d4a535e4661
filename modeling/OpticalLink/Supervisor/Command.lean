import OpticalLink.Supervisor.Basic

/-!
# Commands

What the gateway asks of the unit. Motor commands go out only while the motors
are connected; a failed one is not recorded. Calibration is kept also when it
cannot be made durable.
-/

namespace OpticalLink.Supervisor

variable {T : Type}

/-- Commits the store. -/
def commit (supervisor : Supervisor T) : Except SupervisorError Unit × Supervisor T :=
  let (result, store) := supervisor.store.commit
  (result.mapError .config, { supervisor with store })

/-- Keeps the offset of the crosshair. -/
def calibrate (supervisor : Supervisor T) (offsetX offsetY : UInt32) :
    Except SupervisorError Unit × Supervisor T :=
  { supervisor with
    camera := { supervisor.camera with offsetX, offsetY }
    store := (supervisor.store.setInt Key.webcamOffsetX offsetX.toNat).setInt
      Key.webcamOffsetY offsetY.toNat }.commit

/-- Keeps the distance to the remote unit. -/
def setDistance (supervisor : Supervisor T) (distance : UInt32) :
    Except SupervisorError Unit × Supervisor T :=
  { supervisor with
    camera := { supervisor.camera with distance }
    store := supervisor.store.setInt Key.webcamDistance distance.toNat }.commit

variable [Transport T]

/-- Sends one message to a peer. -/
def send (supervisor : Supervisor T) (peer : Peer) (message : Message) :
    Except SupervisorError Unit × Supervisor T :=
  match (supervisor.slot peer).link with
  | none => (.error (.notAttached peer), supervisor)
  | some link =>
    let (result, link) := link.send message
    (result.mapError .frame, supervisor.setLink peer (some link))

/-- Sends a command to the motors if they are connected, and records it. -/
def command (supervisor : Supervisor T) (message : Message) (event : Event) :
    Except SupervisorError Unit × Supervisor T :=
  if supervisor.isConnected .motors then
    match supervisor.send .motors message with
    | (.ok _, supervisor) => (.ok (), supervisor.note event)
    | (.error error, supervisor) => (.error error, supervisor)
  else (.error (.disconnected .motors), supervisor)

/-- The message that moves the motors to a position. -/
def moveMessage (position : Position) : Message :=
  (Message.ofCommand .moveMotor).addMotorPosition position

/-- Asks the motors to move to a position. -/
def moveMotors (supervisor : Supervisor T) (position : Position) :
    Except SupervisorError Unit × Supervisor T :=
  supervisor.command (moveMessage position) (.moveRequested position)

/-- Asks the motors to find their home. -/
def homing (supervisor : Supervisor T) : Except SupervisorError Unit × Supervisor T :=
  supervisor.command (.ofCommand .homing) .homingRequested

/-- Asks the controller to start again. -/
def reboot (supervisor : Supervisor T) : Except SupervisorError Unit × Supervisor T :=
  supervisor.command (.ofCommand .reboot) .rebootRequested

/-- Asks the controller to wait for new firmware. -/
def upgradeFirmware (supervisor : Supervisor T) : Except SupervisorError Unit × Supervisor T :=
  supervisor.command (.ofCommand .firmwareUpgrade) .upgradeRequested

end OpticalLink.Supervisor
