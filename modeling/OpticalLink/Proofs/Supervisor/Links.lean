import OpticalLink.Proofs.Supervisor.Run

/-!
# The links of a supervisor

`Supervisor.linkTo` is the link to a peer. Most functions leave it, and the lemmas here say so once,
for all that is read off a link.
-/

namespace OpticalLink.Supervisor

variable {T : Type}

/-- The link to a peer. -/
def linkTo (supervisor : Supervisor T) (peer : Peer) : Option (Link T) :=
  (supervisor.slot peer).link

variable {supervisor : Supervisor T} {peer : Peer}

@[simp] theorem linkTo_note (event : Event) :
    (supervisor.note event).linkTo peer = supervisor.linkTo peer := by
  cases peer <;> rfl

@[simp] theorem linkTo_noteIf (condition : Bool) (event : Event) :
    (supervisor.noteIf condition event).linkTo peer = supervisor.linkTo peer := by
  cases condition
  · rfl
  · exact linkTo_note event

theorem linkTo_setSlot (other : Peer) (slot : PeerSlot T) :
    (supervisor.setSlot other slot).linkTo peer =
      if other = peer then slot.link else supervisor.linkTo peer := by
  cases other <;> cases peer <;> rfl

theorem linkTo_setLink (other : Peer) (link : Option (Link T)) :
    (supervisor.setLink other link).linkTo peer =
      if other = peer then link else supervisor.linkTo peer :=
  linkTo_setSlot other _

@[simp] theorem linkTo_setLiveness (other : Peer) (liveness : Liveness) :
    (supervisor.setLiveness other liveness).linkTo peer = supervisor.linkTo peer := by
  cases other <;> cases peer <;> rfl

@[simp] theorem linkTo_persist (position : Position) :
    (supervisor.persist position).linkTo peer = supervisor.linkTo peer := by
  simp only [persist]
  split
  next => rfl
  next => split <;> cases peer <;> rfl

@[simp] theorem linkTo_applyPosition (position : Position) :
    (supervisor.applyPosition position).linkTo peer = supervisor.linkTo peer := by
  let moved : Supervisor T := { supervisor with motors := { supervisor.motors with position } }
  have kept : (if moved.motors.inRange position then moved.persist position
      else moved.note (.outOfRange position)).linkTo peer = moved.linkTo peer := by
    split
    next => exact linkTo_persist position
    next => exact linkTo_note _
  exact kept

@[simp] theorem linkTo_applyReport (other : Peer) (message : Message) :
    (supervisor.applyReport other message).linkTo peer = supervisor.linkTo peer := by
  cases other with
  | accelerometer => rfl
  | motors =>
    simp only [applyReport]
    split
    next position reported => exact linkTo_applyPosition position
    next => rfl

@[simp] theorem linkTo_applyError (other : Peer) (message : Message) :
    (supervisor.applyError other message).linkTo peer = supervisor.linkTo peer := by
  cases other <;> rfl

@[simp] theorem linkTo_markSeen (other : Peer) (now : Instant) :
    (supervisor.markSeen other now).linkTo peer = supervisor.linkTo peer := by
  simp only [markSeen, linkTo_noteIf, linkTo_setLiveness]

/-- A reply says nothing of a link. -/
@[simp] theorem linkTo_handleReply (other : Peer) (reply : Reply) (message : Message)
    (now : Instant) :
    (supervisor.handleReply other reply message now).linkTo peer = supervisor.linkTo peer := by
  simp only [handleReply]
  cases reply with
  | statusReport => rw [linkTo_applyReport, linkTo_markSeen]
  | errorReport => rw [linkTo_applyError, linkTo_markSeen]
  | unknown code => exact linkTo_markSeen other now

@[simp] theorem linkTo_expire (other : Peer) (now : Instant) :
    (expire now supervisor other).linkTo peer = supervisor.linkTo peer := by
  simp only [expire, linkTo_noteIf, linkTo_setLiveness]

end OpticalLink.Supervisor
