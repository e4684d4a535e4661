import OpticalLink.Supervisor.Command

/-!
# Handling messages

A message with a reply shows that its peer is there. Status reports update what
is known field by field. Only the motors may report motor fields; the other peer
contributes its sample of acceleration and nothing else. A message without a
reply may ask for the last motor position.
-/

namespace OpticalLink.Supervisor

variable {T : Type}

/-- Makes a position durable unless the last successful commit of a position wrote
the same. -/
def persist (supervisor : Supervisor T) (position : Position) : Supervisor T :=
  if supervisor.persisted = some position.aim then supervisor
  else
    match (supervisor.store.setAim position.aim).commit with
    | (.ok _, store) => { supervisor with store, persisted := some position.aim }
    | (.error _, store) => { supervisor with store }.note .persistFailed

/-- Takes over the fields of a motor report other than its position. Fields that
are missing or too short change nothing. -/
def applyReadings (supervisor : Supervisor T) (message : Message) : Supervisor T :=
  let motors := supervisor.motors
  { supervisor with
    motors := { motors with
      encoder := message.encoderReading?.getD motors.encoder
      current := message.currentReading?.orElse fun _ => motors.current
      lastError := message.errorReport?.orElse fun _ => motors.lastError }
    lastPower := message.powerReading?.orElse fun _ => supervisor.lastPower
    transceiver := { supervisor.transceiver with
      rxPower := message.power?.getD supervisor.transceiver.rxPower } }

/-- Takes over a reported position. It is made durable if it lies in range, and
the survey records the receive power there in any case. -/
def applyPosition (supervisor : Supervisor T) (position : Position) : Supervisor T :=
  let supervisor := { supervisor with motors := { supervisor.motors with position } }
  let supervisor :=
    if supervisor.motors.inRange position then supervisor.persist position
    else supervisor.note (.outOfRange position)
  let (_, survey) :=
    supervisor.survey.update position.x position.y supervisor.transceiver.rxPower
  { supervisor with survey }

/-- Takes over a sample of acceleration, if there is one. -/
def applySample (supervisor : Supervisor T) (message : Message) : Supervisor T :=
  { supervisor with
    acceleration := message.acceleration?.orElse fun _ => supervisor.acceleration }

/-- Takes over a status report. -/
def applyReport (supervisor : Supervisor T) (peer : Peer) (message : Message) : Supervisor T :=
  let supervisor := supervisor.applySample message
  match peer with
  | .accelerometer => supervisor
  | .motors =>
    let supervisor := supervisor.applyReadings message
    match message.motorPosition? with
    | some position => supervisor.applyPosition position
    | none => supervisor

/-- Takes over an error report. Its code, or the lack of one, becomes the last
error of the motors. -/
def applyError (supervisor : Supervisor T) (peer : Peer) (message : Message) : Supervisor T :=
  let code := message.errorReport?
  let supervisor :=
    match peer with
    | .motors => { supervisor with motors := { supervisor.motors with lastError := code } }
    | .accelerometer => supervisor
  supervisor.note (.errorReported peer code)

/-- Records that a peer has replied. -/
def markSeen (supervisor : Supervisor T) (peer : Peer) (now : Instant) : Supervisor T :=
  let (appeared, liveness) := (supervisor.slot peer).liveness.markSeen now
  (supervisor.setLiveness peer liveness).noteIf appeared (.connected peer)

/-- Handles a reply. -/
def handleReply (supervisor : Supervisor T) (peer : Peer) (reply : Reply) (message : Message)
    (now : Instant) : Supervisor T :=
  let supervisor := supervisor.markSeen peer now
  match reply with
  | .statusReport => supervisor.applyReport peer message
  | .errorReport => supervisor.applyError peer message
  | .unknown _ => supervisor

variable [Transport T]

/-- Sends the last known position back to the motors. -/
def restoreMotors (supervisor : Supervisor T) : Except SupervisorError Unit × Supervisor T :=
  let position := supervisor.motors.position
  (supervisor.note (.restoring position)).send .motors (moveMessage position)

/-- Handles a message without a reply. -/
def handleCommand (supervisor : Supervisor T) (peer : Peer) (message : Message) :
    Except SupervisorError Unit × Supervisor T :=
  match peer, message.command? with
  | .motors, some .restoreMotor => supervisor.restoreMotors
  | _, _ => (.ok (), supervisor)

/-- Handles one message from a peer. -/
def handle (supervisor : Supervisor T) (peer : Peer) (message : Message) (now : Instant) :
    Except SupervisorError Unit × Supervisor T :=
  match message.reply? with
  | some reply => (.ok (), supervisor.handleReply peer reply message now)
  | none => supervisor.handleCommand peer message

end OpticalLink.Supervisor
