import OpticalLink.Link
import OpticalLink.Motors
import OpticalLink.Optics
import OpticalLink.Settings
import OpticalLink.Supervisor.Journal

/-!
# The supervisor

The supervisor owns the links to both peers and all that is known through them.
It is built from a store, which also keeps the last position in range, the
calibration of the camera and the name of the unit. The links may go over any type
of transports; where none is named, they go over in-memory channels.
-/

namespace OpticalLink

/-- Why an operation of the supervisor failed. -/
inductive SupervisorError where
  | transport (error : TransportError)
  | frame (error : FrameError)
  /-- The peer has not replied since its last status request. -/
  | disconnected (peer : Peer)
  /-- There is no link to the peer. -/
  | notAttached (peer : Peer)
  | config (error : StoreError)
deriving DecidableEq, Repr

/-- The text of a supervisor error. -/
def SupervisorError.text : SupervisorError → String
  | .transport error => "transport error: " ++ error.text
  | .frame error => "frame error: " ++ error.text
  | .disconnected peer => "peer disconnected: " ++ peer.name
  | .notAttached peer => "no link attached for peer " ++ peer.name
  | .config error => "configuration error: " ++ error.text

/-- What the supervisor keeps for one peer. -/
structure PeerSlot (T : Type := Channel) where
  liveness : Liveness
  link : Option (Link T)
deriving DecidableEq, Repr

/-- Where the camera stream is found, and the calibration of its crosshair. -/
structure Camera where
  /-- Where the stream listens. -/
  streamPort : UInt16
  path : String
  offsetX : UInt32
  offsetY : UInt32
  /-- Metres to the remote unit. -/
  distance : UInt32
deriving DecidableEq, Repr

/-- A motor position without its third coordinate, as it is kept in a store. -/
structure Aim where
  x : Int32
  y : Int32
deriving DecidableEq, Repr

/-- The part of a position that is kept in a store. -/
def Position.aim (position : Position) : Aim := ⟨position.x, position.y⟩

/-- The links to the peers and all that is known through them. -/
structure Supervisor (T : Type := Channel) where
  settings : Settings
  store : Store
  id : String
  motorsSlot : PeerSlot T
  accelerometerSlot : PeerSlot T
  motors : MotorStatus
  /-- What the last successful commit of a position wrote. -/
  persisted : Option Aim
  camera : Camera
  transceiver : Transceiver
  /-- The receive power that goes out with the next status request. -/
  lastPower : Option UInt16
  acceleration : Option Acceleration
  survey : SurveyGrid
  /-- When the next status request is due; at once if unknown. -/
  nextPoll : Option Instant
  journal : List Event

namespace Store

/-- A number of 32 signed bits under a key; zero for any other. -/
def getSigned32 (store : Store) (key : String) : Int32 :=
  let value := store.getInt key 0
  if -2147483648 ≤ value ∧ value ≤ 2147483647 then Int32.ofInt value else 0

/-- A number of 32 unsigned bits under a key; zero for any other. -/
def getUnsigned32 (store : Store) (key : String) : UInt32 :=
  let value := store.getInt key 0
  if 0 ≤ value ∧ value ≤ 4294967295 then UInt32.ofNat value.toNat else 0

/-- A number of 16 unsigned bits under a key. -/
def getUnsigned16 (store : Store) (key : String) (default : UInt16) : UInt16 :=
  let value := store.getInt key default.toNat
  if 0 ≤ value ∧ value ≤ 65535 then UInt16.ofNat value.toNat else default

/-- The position in a store. -/
def aim (store : Store) : Aim := ⟨store.getSigned32 Key.lastX, store.getSigned32 Key.lastY⟩

/-- Puts a position into a store. -/
def setAim (store : Store) (aim : Aim) : Store :=
  (store.setInt Key.lastX aim.x.toInt).setInt Key.lastY aim.y.toInt

/-- The camera as a store describes it. -/
def camera (store : Store) : Camera where
  streamPort := store.getUnsigned16 Key.webcamPort 8080
  path := store.getString Key.webcamPath "/"
  offsetX := store.getUnsigned32 Key.webcamOffsetX
  offsetY := store.getUnsigned32 Key.webcamOffsetY
  distance := store.getUnsigned32 Key.webcamDistance

end Store

namespace Supervisor

/-- A supervisor without links, after the position and calibration in a store. -/
def initial (store : Store) (settings : Settings) (T : Type := Channel) : Supervisor T where
  settings := settings
  store := store
  id := store.getString Key.deviceId "unknown"
  motorsSlot := ⟨.new, none⟩
  accelerometerSlot := ⟨.new, none⟩
  motors := { MotorStatus.new settings.rangeX settings.rangeY with
    position := ⟨store.aim.x, store.aim.y, 0⟩ }
  persisted := none
  camera := store.camera
  transceiver := .dark
  lastPower := none
  acceleration := none
  survey := .new settings.surveyBins settings.surveyCoverage
  nextPoll := none
  journal := [.initialized]

/-- A supervisor with settings of its own. -/
def withSettings (store : Store) (settings : Settings) (T : Type := Channel) :
    Except SupervisorError (Supervisor T) := do
  settings.validate.mapError .config
  return initial store settings T

/-- A supervisor with the settings in a store. -/
def new (store : Store) (T : Type := Channel) : Except SupervisorError (Supervisor T) := do
  let settings ← (Settings.ofStore store).mapError .config
  withSettings store settings T

variable {T : Type}

/-- Adds an event to the journal. -/
def note (supervisor : Supervisor T) (event : Event) : Supervisor T :=
  { supervisor with journal := supervisor.journal ++ [event] }

/-- Adds an event to the journal if a condition holds. -/
def noteIf (supervisor : Supervisor T) (condition : Bool) (event : Event) : Supervisor T :=
  if condition then supervisor.note event else supervisor

/-- What is kept for a peer. -/
def slot (supervisor : Supervisor T) : Peer → PeerSlot T
  | .motors => supervisor.motorsSlot
  | .accelerometer => supervisor.accelerometerSlot

/-- Replaces what is kept for a peer. -/
def setSlot (supervisor : Supervisor T) (peer : Peer) (slot : PeerSlot T) : Supervisor T :=
  match peer with
  | .motors => { supervisor with motorsSlot := slot }
  | .accelerometer => { supervisor with accelerometerSlot := slot }

/-- Replaces the link to a peer. -/
def setLink (supervisor : Supervisor T) (peer : Peer) (link : Option (Link T)) : Supervisor T :=
  supervisor.setSlot peer { supervisor.slot peer with link }

/-- Replaces the presence of a peer. -/
def setLiveness (supervisor : Supervisor T) (peer : Peer) (liveness : Liveness) : Supervisor T :=
  supervisor.setSlot peer { supervisor.slot peer with liveness }

/-- Whether a peer is connected. -/
def isConnected (supervisor : Supervisor T) (peer : Peer) : Bool :=
  (supervisor.slot peer).liveness.connected

/-- Attaches the transport that reaches a peer in place of any other. -/
def attach (supervisor : Supervisor T) (peer : Peer) (channel : T) : Supervisor T :=
  (supervisor.setLink peer (some (Link.new channel))).note (.attached peer)

/-- Detaches the link to a peer. -/
def detach (supervisor : Supervisor T) (peer : Peer) : Option (Link T) × Supervisor T :=
  ((supervisor.slot peer).link, supervisor.setLink peer none)

/-- Takes fresh readings of the transceiver. -/
def updateTransceiver (supervisor : Supervisor T) (transceiver : Transceiver) : Supervisor T :=
  { supervisor with transceiver, lastPower := some transceiver.rxReading }

/-- Forgets the survey. -/
def resetSurvey (supervisor : Supervisor T) : Supervisor T :=
  { supervisor with survey := supervisor.survey.reset }.note .surveyReset

/-- Makes the commits of the store fail or succeed from now on. -/
def setFailCommits (supervisor : Supervisor T) (fail : Bool) : Supervisor T :=
  { supervisor with store := supervisor.store.setFailCommits fail }

end Supervisor

end OpticalLink
