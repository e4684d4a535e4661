/-!
# Peers

The devices on the far side of the links and the bookkeeping of their presence:
a reply makes a peer connected, an expired keepalive makes it disconnected.
-/

namespace OpticalLink

/-- A point in time, in microseconds after a common base. -/
abbrev Instant := Nat

/-- A length of time in microseconds. -/
abbrev Interval := Nat

/-- The devices on the far side. -/
inductive Peer where
  | motors
  | accelerometer
deriving DecidableEq, Repr

namespace Peer

/-- All peers in the order in which they are served. -/
def all : List Peer := [.motors, .accelerometer]

/-- The name of a peer. -/
def name : Peer → String
  | .motors => "motors"
  | .accelerometer => "accelerometer"

end Peer

/-- The presence of one peer. -/
structure Liveness where
  connected : Bool
  /-- When the last reply came. -/
  lastSeen : Option Instant
  /-- When the peer counts as gone unless it replies. -/
  keepalive : Option Instant
  /-- How often the peer came or went. -/
  transitions : Nat
deriving DecidableEq, Repr, Inhabited

namespace Liveness

/-- A peer that was never heard of. -/
def new : Liveness := ⟨false, none, none, 0⟩

/-- Records a reply. Tells whether the peer has just become connected. -/
def markSeen (liveness : Liveness) (now : Instant) : Bool × Liveness :=
  if liveness.connected then
    (false, { liveness with lastSeen := some now, keepalive := none })
  else
    (true, ⟨true, some now, none, liveness.transitions + 1⟩)

/-- Sets a deadline for the next reply. A deadline that is already set is kept,
so that asking again cannot postpone it. -/
def armKeepalive (liveness : Liveness) (deadline : Instant) : Liveness :=
  { liveness with keepalive := some (liveness.keepalive.getD deadline) }

/-- Lets a deadline that has come take effect. Tells whether the peer has just
become disconnected. -/
def expire (liveness : Liveness) (now : Instant) : Bool × Liveness :=
  match liveness.keepalive with
  | none => (false, liveness)
  | some deadline =>
    if now < deadline then (false, liveness)
    else if liveness.connected then
      (true, ⟨false, liveness.lastSeen, none, liveness.transitions + 1⟩)
    else (false, { liveness with keepalive := none })

end Liveness

end OpticalLink
