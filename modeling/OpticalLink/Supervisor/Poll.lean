import OpticalLink.Supervisor.Handling

/-!
# Polling

One round of supervision: take in what the peers sent, let expired deadlines take
effect, and send the status requests that are due. The order matters: a reply
that has arrived counts before a deadline that has come.
-/

namespace OpticalLink.Supervisor

variable {T : Type}

/-- Lets the deadline of a peer take effect if it has come. -/
def expire (now : Instant) (supervisor : Supervisor T) (peer : Peer) : Supervisor T :=
  let (vanished, liveness) := (supervisor.slot peer).liveness.expire now
  (supervisor.setLiveness peer liveness).noteIf vanished (.disconnected peer)

/-- Whether a status request is due. -/
def isDue (supervisor : Supervisor T) (now : Instant) : Bool :=
  match supervisor.nextPoll with
  | none => true
  | some deadline => decide (deadline ≤ now)

/-- The status request, which carries the last known receive power. -/
def statusRequest (supervisor : Supervisor T) : Message :=
  let request := Message.ofCommand .getStatus
  match supervisor.lastPower with
  | some reading => request.addPowerReading reading
  | none => request

variable [Transport T]

/-- Takes the waiting messages of a peer. An outage is recorded when it begins. -/
def receive (supervisor : Supervisor T) (peer : Peer) : List Message × Supervisor T :=
  match (supervisor.slot peer).link with
  | none => ([], supervisor)
  | some link =>
    match link.receive with
    | (.ok messages, link) =>
      (messages, supervisor.setLink peer (some (link.noteOutcome false).2))
    | (.error _, link) =>
      let (first, link) := link.noteOutcome true
      ([], (supervisor.setLink peer (some link)).noteIf first (.receiveFailed peer))

/-- Handles one message and records if that fails. -/
def handleNoting (peer : Peer) (now : Instant) (supervisor : Supervisor T) (message : Message) :
    Supervisor T :=
  match supervisor.handle peer message now with
  | (.ok _, supervisor) => supervisor
  | (.error _, supervisor) => supervisor.note (.handlingFailed peer)

/-- Receives and handles what a peer sent. -/
def pump (now : Instant) (supervisor : Supervisor T) (peer : Peer) : Supervisor T :=
  let (messages, supervisor) := supervisor.receive peer
  messages.foldl (handleNoting peer now) supervisor

/-- Sends a status request to a peer with a link and sets its deadline, also when
sending fails. -/
def requestFrom (request : Message) (deadline : Instant) (supervisor : Supervisor T) (peer : Peer) :
    Supervisor T :=
  let slot := supervisor.slot peer
  match slot.link with
  | none => supervisor
  | some link =>
    let (result, link) := link.send request
    let failed := match result with
      | .ok _ => false
      | .error _ => true
    let (first, link) := link.noteOutcome failed
    (supervisor.setSlot peer ⟨slot.liveness.armKeepalive deadline, some link⟩).noteIf first
      (.requestFailed peer)

/-- Sends the status requests to all peers. -/
def requestStatus (supervisor : Supervisor T) (now : Instant) : Supervisor T :=
  let deadline := now + supervisor.settings.keepaliveTimeout
  Peer.all.foldl (requestFrom supervisor.statusRequest deadline) supervisor

/-- One round of supervision. -/
def poll (supervisor : Supervisor T) (now : Instant) : Supervisor T :=
  let supervisor := Peer.all.foldl (pump now) supervisor
  let supervisor := Peer.all.foldl (expire now) supervisor
  if supervisor.isDue now then
    { supervisor.requestStatus now with nextPoll := some (now + supervisor.settings.pollInterval) }
  else supervisor

end OpticalLink.Supervisor
