import OpticalLink.Message.Value
import OpticalLink.Peer

/-!
# The journal of a supervisor

What a supervisor tells the people who run it, as data. A journal is a list of
events, oldest first.
-/

namespace OpticalLink

/-- How much an event matters. -/
inductive EventLevel where
  | info
  | warning
  | error
deriving DecidableEq, Repr

/-- The name of a level. -/
def EventLevel.name : EventLevel → String
  | .info => "INFO"
  | .warning => "WARN"
  | .error => "ERROR"

/-- What happened. -/
inductive Event where
  | initialized
  | attached (peer : Peer)
  | connected (peer : Peer)
  | disconnected (peer : Peer)
  /-- Receiving failed for the first time since the link last worked. -/
  | receiveFailed (peer : Peer)
  /-- A status request failed for the first time since the link last worked. -/
  | requestFailed (peer : Peer)
  | handlingFailed (peer : Peer)
  | errorReported (peer : Peer) (code : Option UInt32)
  | restoring (position : Position)
  | outOfRange (position : Position)
  | persistFailed
  | moveRequested (position : Position)
  | homingRequested
  | rebootRequested
  | upgradeRequested
  | surveyReset
deriving DecidableEq, Repr

namespace Event

/-- How much an event matters. -/
def level : Event → EventLevel
  | .disconnected _ | .receiveFailed _ | .requestFailed _ | .handlingFailed _
  | .errorReported _ _ | .outOfRange _ => .warning
  | .persistFailed => .error
  | _ => .info

/-- The text of an event. -/
def text : Event → String
  | .initialized => "supervisor initialized"
  | .attached _ => "attached peer link"
  | .connected _ => "peer connected"
  | .disconnected _ => "peer disconnected (keepalive expired)"
  | .receiveFailed _ => "receive failed"
  | .requestFailed _ => "status request failed"
  | .handlingFailed _ => "failed to handle message"
  | .errorReported _ _ => "peer reported an error"
  | .restoring _ => "restoring motor position"
  | .outOfRange _ => "motor position out of range, not persisting"
  | .persistFailed => "failed to persist motor position"
  | .moveRequested _ => "requested motor move"
  | .homingRequested => "requested homing"
  | .rebootRequested => "requested controller reboot"
  | .upgradeRequested => "requested firmware upgrade mode"
  | .surveyReset => "survey reset"

end Event

end OpticalLink
