import OpticalLink.Supervisor.Basic

/-!
# The status of a unit

What a supervisor knows at one point in time.
-/

namespace OpticalLink

/-- The presence of a peer. -/
structure PeerStatus where
  peer : Peer
  /-- Whether there is a link. -/
  attached : Bool
  connected : Bool
deriving DecidableEq, Repr

/-- What is known at one point in time. -/
structure Status where
  id : String
  /-- Whether the motors are connected. -/
  connected : Bool
  peers : List PeerStatus
  motors : MotorStatus
  acceleration : Option Acceleration
  camera : Camera
  transceiver : Transceiver
deriving Repr

/-- What a supervisor knows. -/
def Supervisor.status {T : Type} (supervisor : Supervisor T) : Status where
  id := supervisor.id
  connected := supervisor.isConnected .motors
  peers := Peer.all.map fun peer =>
    ⟨peer, (supervisor.slot peer).link.isSome, supervisor.isConnected peer⟩
  motors := supervisor.motors
  acceleration := supervisor.acceleration
  camera := supervisor.camera
  transceiver := supervisor.transceiver

end OpticalLink
