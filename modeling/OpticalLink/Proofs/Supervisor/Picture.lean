import OpticalLink.Proofs.History
import OpticalLink.Proofs.Supervisor.Archive

/-!
# What is known of the unit

What a supervisor knows of the motors, the light and the survey comes from what the peers
report, from readings of the transceiver, and from resets of the survey. `Picture` is this
part of a supervisor, a `Notice` is what can change it, and `Supervisor.picture_step` says
that a step changes the picture by its notice and by nothing else.

Most parts of the picture are replaced or left alone. `Supervisor.latest_perform` reads such
a part off the history of a run: it is the last one that was written, or the one of the
beginning.
-/

namespace OpticalLink

/-! ## Notices -/

/-- What a supervisor knows of the unit. -/
structure Picture where
  motors : MotorStatus
  transceiver : Transceiver
  lastPower : Option UInt16
  acceleration : Option Acceleration
  survey : SurveyGrid

/-- What can become known of the unit. -/
inductive Notice where
  /-- The motors report their status. -/
  | report (message : Message)
  /-- The motors report an error. -/
  | error (message : Message)
  /-- The accelerometer reports its status. -/
  | sample (message : Message)
  /-- The transceiver is read. -/
  | measure (transceiver : Transceiver)
  /-- The survey begins again. -/
  | reset

/-- What a message from a peer makes known. Other replies than reports, and messages without
a reply, make nothing known, and neither does an error of the accelerometer. -/
def Message.notice? (message : Message) : Peer → Option Notice
  | .motors =>
    match message.reply? with
    | some .statusReport => some (.report message)
    | some .errorReport => some (.error message)
    | _ => none
  | .accelerometer => if message.reply? = some .statusReport then some (.sample message) else none

/-- What is no report makes nothing known. -/
theorem Message.notice?_eq_none {message : Message}
    (noReport : message.reply? ≠ some .statusReport) (noError : message.reply? ≠ some .errorReport)
    (peer : Peer) : message.notice? peer = none := by
  cases peer with
  | motors =>
    rw [notice?]
    split
    next reply => exact absurd reply noReport
    next reply => exact absurd reply noError
    next => rfl
  | accelerometer => exact if_neg noReport

namespace Notice

/-- The position of the motors that becomes known. -/
def position? : Notice → Option Position
  | .report message => message.motorPosition?
  | _ => none

/-- The receive power that becomes known. -/
def power? : Notice → Option Milliwatts
  | .report message => message.power?
  | .measure transceiver => some transceiver.rxPower
  | _ => none

/-- The error of the motors that becomes known. -/
def code? : Notice → Option UInt32
  | .report message | .error message => message.errorReport?
  | _ => none

end Notice

/-- What a message reports of the position of the motors is what it makes known of it. -/
theorem Message.positionFrom?_eq (message : Message) (peer : Peer) :
    message.positionFrom? peer = (message.notice? peer).bind Notice.position? := by
  by_cases reported : message.reply? = some .statusReport
  · cases peer with
    | motors => simp only [positionFrom?, reportedPosition?, notice?, reported, if_true,
        Option.bind_some, Notice.position?]
    | accelerometer => rw [notice?, if_pos reported]; rfl
  · rw [positionFrom?_eq_none reported]
    cases peer with
    | motors =>
      by_cases failed : message.reply? = some .errorReport
      · simp only [notice?, failed, Option.bind_some, Notice.position?]
      · rw [notice?_eq_none reported failed, Option.bind_none]
    | accelerometer => rw [notice?, if_neg reported, Option.bind_none]

namespace Picture

/-- The picture after the fields of a motor report other than its position. Fields that are
missing or too short change nothing. -/
def hear (picture : Picture) (message : Message) : Picture where
  motors := { picture.motors with
    encoder := message.encoderReading?.getD picture.motors.encoder
    current := message.currentReading?.orElse fun _ => picture.motors.current
    lastError := message.errorReport?.orElse fun _ => picture.motors.lastError }
  transceiver := { picture.transceiver with
    rxPower := message.power?.getD picture.transceiver.rxPower }
  lastPower := message.powerReading?.orElse fun _ => picture.lastPower
  acceleration := message.acceleration?.orElse fun _ => picture.acceleration
  survey := picture.survey

/-- The picture after the motors were found at a position: the receive power is surveyed
there. -/
def locate (picture : Picture) (position : Position) : Picture :=
  { picture with
    motors := { picture.motors with position }
    survey := (picture.survey.update position.x position.y picture.transceiver.rxPower).2 }

/-- The picture after a notice. -/
def learn (picture : Picture) : Notice → Picture
  | .report message =>
    message.motorPosition?.elim (picture.hear message) (picture.hear message).locate
  | .error message =>
    { picture with motors := { picture.motors with lastError := message.errorReport? } }
  | .sample message =>
    { picture with acceleration := message.acceleration?.orElse fun _ => picture.acceleration }
  | .measure transceiver =>
    { picture with transceiver, lastPower := some transceiver.rxReading }
  | .reset => { picture with survey := picture.survey.reset }

/-- The position is the one that becomes known, or stays. -/
theorem position_learn (picture : Picture) (notice : Notice) :
    (picture.learn notice).motors.position =
      notice.position?.getD picture.motors.position := by
  cases notice with
  | report message =>
    rw [learn, Notice.position?]
    cases message.motorPosition? <;> rfl
  | _ => rfl

/-- The receive power is the one that becomes known, or stays. -/
theorem rxPower_learn (picture : Picture) (notice : Notice) :
    (picture.learn notice).transceiver.rxPower =
      notice.power?.getD picture.transceiver.rxPower := by
  cases notice with
  | report message =>
    rw [learn]
    cases message.motorPosition? <;> rfl
  | _ => rfl

end Picture

/-! ## The picture of a supervisor -/

namespace Supervisor

variable {T : Type}

/-- What a step makes known of the unit. -/
def Step.notice? : Step T → Option Notice
  | .call (.updateTransceiver transceiver) => some (.measure transceiver)
  | .call .resetSurvey => some .reset
  | step => step.handled?.bind fun handled => handled.2.notice? handled.1

/-- A step that handles a message makes known what the message does. -/
theorem Step.notice?_of_handled {step : Step T} {peer : Peer} {message : Message}
    (handled : step.handled? = some (peer, message)) : step.notice? = message.notice? peer := by
  cases step with
  | call call =>
    cases call with
    | handle other told now =>
      cases handled
      rfl
    | _ => cases handled
  | handleReceived other told now =>
    cases handled
    rfl
  | _ => cases handled

/-- What a step reports of the position of the motors is what it makes known of it. -/
theorem Step.reportedPosition?_eq (step : Step T) :
    step.reportedPosition? = step.notice?.bind Notice.position? := by
  have reports (handled : Option (Peer × Message)) :
      (handled.bind fun handled => handled.2.positionFrom? handled.1) =
        (handled.bind fun handled => handled.2.notice? handled.1).bind Notice.position? := by
    rw [Option.bind_assoc]
    exact congrArg handled.bind (funext fun handled => handled.2.positionFrom?_eq handled.1)
  cases step with
  | call call =>
    cases call with
    | handle peer message now => exact reports _
    | _ => rfl
  | handleReceived peer message now => exact reports _
  | _ => rfl

/-- What a supervisor has for a picture. -/
def picture (supervisor : Supervisor T) : Picture where
  motors := supervisor.motors
  transceiver := supervisor.transceiver
  lastPower := supervisor.lastPower
  acceleration := supervisor.acceleration
  survey := supervisor.survey

variable {supervisor : Supervisor T}

/-- The picture has nothing to do with the links. -/
theorem picture_eq_of_core_eq {other : Supervisor T} (same : supervisor.core = other.core) :
    supervisor.picture = other.picture :=
  show supervisor.core.picture = other.core.picture from congrArg picture same

/-- What is made durable is known already. -/
theorem picture_persist (position : Position) :
    (supervisor.persist position).picture = supervisor.picture := by
  simp only [persist]
  split
  next => rfl
  next =>
    split
    next => rfl
    next => rfl

/-- A reported position is known whether or not it is in range. -/
theorem picture_applyPosition (position : Position) :
    (supervisor.applyPosition position).picture = supervisor.picture.locate position := by
  let moved : Supervisor T := { supervisor with motors := { supervisor.motors with position } }
  let kept := if moved.motors.inRange position then moved.persist position
    else moved.note (.outOfRange position)
  have unchanged : kept.picture = moved.picture := by
    simp only [kept]
    split
    next => exact picture_persist position
    next => rfl
  have applied : (supervisor.applyPosition position).picture =
      { kept.picture with
        survey := (kept.picture.survey.update position.x position.y
          kept.picture.transceiver.rxPower).2 } := rfl
  rw [applied, unchanged]
  rfl

theorem picture_applyReport {message : Message} (reported : message.reply? = some .statusReport)
    (peer : Peer) :
    (supervisor.applyReport peer message).picture =
      (message.notice? peer).elim supervisor.picture supervisor.picture.learn := by
  cases peer with
  | accelerometer =>
    rw [Message.notice?, if_pos reported]
    rfl
  | motors =>
    have heard : ((supervisor.applySample message).applyReadings message).picture =
        supervisor.picture.hear message := rfl
    simp only [Message.notice?, reported, Option.elim_some, Picture.learn, applyReport]
    cases message.motorPosition? with
    | none => exact heard
    | some position => rw [picture_applyPosition, heard, Option.elim_some]

theorem picture_applyError {message : Message} (reported : message.reply? = some .errorReport)
    (peer : Peer) :
    (supervisor.applyError peer message).picture =
      (message.notice? peer).elim supervisor.picture supervisor.picture.learn := by
  cases peer with
  | accelerometer =>
    rw [Message.notice?, reported, if_neg nofun]
    rfl
  | motors =>
    simp only [Message.notice?, reported]
    rfl

variable [Transport T]

/-- Handling a message makes known what the message does. -/
theorem picture_handle (peer : Peer) (message : Message) (now : Instant) :
    (supervisor.handle peer message now).2.picture =
      (message.notice? peer).elim supervisor.picture supervisor.picture.learn := by
  have marked : (supervisor.markSeen peer now).picture = supervisor.picture :=
    picture_eq_of_core_eq (core_markSeen peer now)
  rw [handle]
  cases reply : message.reply? with
  | none =>
    rw [Message.notice?_eq_none (by simp [reply]) (by simp [reply])]
    exact picture_eq_of_core_eq (core_handleCommand peer message)
  | some code =>
    cases code with
    | statusReport =>
      rw [← marked]
      exact picture_applyReport reply peer
    | errorReport =>
      rw [← marked]
      exact picture_applyError reply peer
    | unknown code =>
      rw [Message.notice?_eq_none (by simp [reply]) (by simp [reply])]
      exact marked

theorem picture_call (call : Call T) :
    (supervisor.call call).picture =
      (Step.notice? (.call call)).elim supervisor.picture supervisor.picture.learn := by
  cases call with
  | attach peer channel => exact picture_eq_of_core_eq (core_attach peer channel)
  | detach peer => exact picture_eq_of_core_eq (core_detach peer)
  | disturb peer channel => exact picture_eq_of_core_eq (core_disturb peer channel)
  | handle peer message now => exact picture_handle peer message now
  | move position => exact picture_eq_of_core_eq (core_command _ _)
  | home => exact picture_eq_of_core_eq (core_command _ _)
  | reboot => exact picture_eq_of_core_eq (core_command _ _)
  | upgrade => exact picture_eq_of_core_eq (core_command _ _)
  | _ => rfl

/-- A step changes the picture by what it makes known, and by nothing else. -/
theorem picture_step (step : Step T) :
    (supervisor.step step).picture =
      step.notice?.elim supervisor.picture supervisor.picture.learn := by
  cases step with
  | call call => exact picture_call call
  | receive peer => exact picture_eq_of_core_eq (core_receive peer)
  | handleReceived peer message now =>
    exact (picture_eq_of_core_eq (core_handleNoting peer now message)).trans
      (picture_handle peer message now)
  | expire peer now => exact picture_eq_of_core_eq (core_expire peer now)
  | request now => exact picture_eq_of_core_eq (core_requestStatus now)

/-! ## The latest of what was written -/

/-- A part of the picture that each notice writes or leaves is after some steps the last that was
written, or what it was before them. -/
theorem latest_perform (supervisor : Supervisor T) {Part : Type} (read : Picture → Part)
    {write : Notice → Option Part}
    (read_learn : ∀ picture notice, read (picture.learn notice) = (write notice).getD (read picture))
    (steps : List (Step T)) :
    read (supervisor.perform steps).picture =
      (steps.filterMap fun step => step.notice?.bind write).getLast?.getD
        (read supervisor.picture) := by
  refine @read_foldl _ _ _ _ (fun supervisor => read supervisor.picture) _ ?_ supervisor steps
  intro state step
  rw [picture_step]
  cases step.notice? with
  | none => rfl
  | some notice => exact read_learn state.picture notice

end Supervisor

end OpticalLink
