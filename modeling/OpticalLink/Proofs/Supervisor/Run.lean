import OpticalLink.Supervisor.Poll

/-!
# Runs of a supervisor

A run is a list of operations from outside. A round of supervision takes in and handles
message after message, so each operation is taken apart into the steps of which it
consists, and `Supervisor.perform_steps` says that a run is nothing but its steps.

Most steps concern the links alone. `Supervisor.core` is what is left of a supervisor
without them, and the `core` lemmas say which functions keep it.

The links may go over any transports. What the devices do in between makes a transport another
one, and any other.
-/

namespace OpticalLink.Supervisor

variable {T : Type}

/-! ## Beginnings -/

/-- A supervisor that was built from a store, with its settings or with others. -/
def Built (store : Store) (supervisor : Supervisor T) : Prop :=
  new store T = .ok supervisor ∨ ∃ settings, withSettings store settings T = .ok supervisor

/-- Settings that keep the rules are all that it takes to build a supervisor. -/
theorem withSettings_eq_ok_iff {store : Store} {settings : Settings} {supervisor : Supervisor T} :
    withSettings store settings T = .ok supervisor ↔
      settings.validate = .ok () ∧ initial store settings T = supervisor := by
  rw [withSettings]
  cases settings.validate with
  | error error => exact iff_of_false nofun nofun
  | ok _ => exact ⟨fun built => ⟨rfl, Except.ok.inj built⟩, fun built => congrArg _ built.2⟩

/-- A supervisor is built from its store and valid settings. -/
theorem Built.exists_settings {store : Store} {supervisor : Supervisor T}
    (built : Built store supervisor) :
    ∃ settings : Settings, settings.validate = .ok () ∧ initial store settings T = supervisor := by
  rcases built with built | ⟨settings, built⟩
  · rw [new] at built
    cases found : Settings.ofStore store with
    | error error =>
      rw [found] at built
      cases built
    | ok settings =>
      rw [found] at built
      exact ⟨settings, withSettings_eq_ok_iff.mp built⟩
  · exact ⟨settings, withSettings_eq_ok_iff.mp built⟩

/-! ## Operations -/

/-- What can be done to a supervisor in one go, or to what it uses. -/
inductive Call (T : Type := Channel) where
  | attach (peer : Peer) (channel : T)
  | detach (peer : Peer)
  /-- The far end of a link acts, which makes the channel another one. -/
  | disturb (peer : Peer) (channel : T)
  | handle (peer : Peer) (message : Message) (now : Instant)
  | move (position : Position)
  | home
  | reboot
  | upgrade
  | calibrate (offsetX offsetY : UInt32)
  | setDistance (distance : UInt32)
  | resetSurvey
  | updateTransceiver (transceiver : Transceiver)
  /-- The commits of a memory store fail or succeed from now on. -/
  | failCommits (fail : Bool)
  /-- The volume under a file store changes. -/
  | changeVolume (volume : Volume)

/-- The supervisor after the far end of a link has acted. -/
def disturb (supervisor : Supervisor T) (peer : Peer) (channel : T) : Supervisor T :=
  supervisor.setLink peer ((supervisor.slot peer).link.map fun link => { link with channel })

/-- The supervisor over another volume. -/
def changeVolume (supervisor : Supervisor T) (volume : Volume) : Supervisor T :=
  { supervisor with store := { supervisor.store with volume } }

/-- The supervisor after one call. -/
def call [Transport T] (supervisor : Supervisor T) : Call T → Supervisor T
  | .attach peer channel => supervisor.attach peer channel
  | .detach peer => (supervisor.detach peer).2
  | .disturb peer channel => supervisor.disturb peer channel
  | .handle peer message now => (supervisor.handle peer message now).2
  | .move position => (supervisor.moveMotors position).2
  | .home => supervisor.homing.2
  | .reboot => supervisor.reboot.2
  | .upgrade => supervisor.upgradeFirmware.2
  | .calibrate offsetX offsetY => (supervisor.calibrate offsetX offsetY).2
  | .setDistance distance => (supervisor.setDistance distance).2
  | .resetSurvey => supervisor.resetSurvey
  | .updateTransceiver transceiver => supervisor.updateTransceiver transceiver
  | .failCommits fail => supervisor.setFailCommits fail
  | .changeVolume volume => supervisor.changeVolume volume

/-- The operations of which a run consists. -/
inductive Operation (T : Type := Channel) where
  | call (call : Call T)
  /-- A round of supervision. -/
  | poll (now : Instant)

section

variable [Transport T]

/-- The supervisor after one operation. -/
def operate (supervisor : Supervisor T) : Operation T → Supervisor T
  | .call call => supervisor.call call
  | .poll now => supervisor.poll now

/-- The supervisor after some operations. -/
def run (supervisor : Supervisor T) (operations : List (Operation T)) : Supervisor T :=
  operations.foldl operate supervisor

@[simp] theorem run_nil (supervisor : Supervisor T) : supervisor.run [] = supervisor := rfl

@[simp] theorem run_cons (supervisor : Supervisor T) (first : Operation T)
    (rest : List (Operation T)) :
    supervisor.run (first :: rest) = (supervisor.operate first).run rest := rfl

theorem run_append (supervisor : Supervisor T) (first second : List (Operation T)) :
    supervisor.run (first ++ second) = (supervisor.run first).run second :=
  List.foldl_append

/-! ## Steps -/

/-- A call, or a part of a round of supervision. -/
inductive Step (T : Type := Channel) where
  | call (call : Call T)
  /-- The waiting messages of a peer are taken in. -/
  | receive (peer : Peer)
  /-- One of these messages is handled. -/
  | handleReceived (peer : Peer) (message : Message) (now : Instant)
  /-- A deadline takes effect if it has come. -/
  | expire (peer : Peer) (now : Instant)
  /-- The status requests are sent. -/
  | request (now : Instant)

/-- The message that a step handles, and the peer that sent it. -/
def Step.handled? : Step T → Option (Peer × Message)
  | .call (.handle peer message _) | .handleReceived peer message _ => some (peer, message)
  | _ => none

/-- The supervisor after one step. -/
def step (supervisor : Supervisor T) : Step T → Supervisor T
  | .call call => supervisor.call call
  | .receive peer => (supervisor.receive peer).2
  | .handleReceived peer message now => handleNoting peer now supervisor message
  | .expire peer now => expire now supervisor peer
  | .request now =>
    { supervisor.requestStatus now with nextPoll := some (now + supervisor.settings.pollInterval) }

/-- The supervisor after some steps. -/
def perform (supervisor : Supervisor T) (steps : List (Step T)) : Supervisor T :=
  steps.foldl step supervisor

@[simp] theorem perform_nil (supervisor : Supervisor T) : supervisor.perform [] = supervisor := rfl

@[simp] theorem perform_cons (supervisor : Supervisor T) (first : Step T) (rest : List (Step T)) :
    supervisor.perform (first :: rest) = (supervisor.step first).perform rest := rfl

@[simp] theorem perform_append (supervisor : Supervisor T) (first second : List (Step T)) :
    supervisor.perform (first ++ second) = (supervisor.perform first).perform second :=
  List.foldl_append

/-- The steps of receiving and handling what a peer sent. -/
def pumpSteps (supervisor : Supervisor T) (now : Instant) (peer : Peer) : List (Step T) :=
  .receive peer :: (supervisor.receive peer).1.map fun message => .handleReceived peer message now

/-- The steps of a round of supervision up to the status requests. -/
def stepsBeforeRequest (supervisor : Supervisor T) (now : Instant) : List (Step T) :=
  let first := supervisor.pumpSteps now .motors
  let second := (supervisor.perform first).pumpSteps now .accelerometer
  first ++ second ++ [.expire .motors now, .expire .accelerometer now]

/-- The steps of a round of supervision. -/
def pollSteps (supervisor : Supervisor T) (now : Instant) : List (Step T) :=
  let before := supervisor.stepsBeforeRequest now
  if (supervisor.perform before).isDue now then before ++ [.request now] else before

/-- The steps of one operation. -/
def operationSteps (supervisor : Supervisor T) : Operation T → List (Step T)
  | .call call => [.call call]
  | .poll now => supervisor.pollSteps now

/-- The steps of some operations. -/
def steps (supervisor : Supervisor T) : List (Operation T) → List (Step T)
  | [] => []
  | first :: rest => supervisor.operationSteps first ++ (supervisor.operate first).steps rest

theorem steps_append (supervisor : Supervisor T) (first second : List (Operation T)) :
    supervisor.steps (first ++ second) =
      supervisor.steps first ++ (supervisor.run first).steps second := by
  induction first generalizing supervisor with
  | nil => rfl
  | cons operation rest inductionHypothesis =>
    rw [List.cons_append, steps, steps, inductionHypothesis, List.append_assoc, run_cons]

/-- Receiving and handling what a peer sent is nothing but its steps. -/
theorem perform_pumpSteps (supervisor : Supervisor T) (now : Instant) (peer : Peer) :
    supervisor.perform (supervisor.pumpSteps now peer) = pump now supervisor peer := by
  rw [pumpSteps, perform_cons, perform, List.foldl_map]
  rfl

/-- A round of supervision is nothing but its steps. -/
theorem perform_pollSteps (supervisor : Supervisor T) (now : Instant) :
    supervisor.perform (supervisor.pollSteps now) = supervisor.poll now := by
  have before : supervisor.perform (supervisor.stepsBeforeRequest now) =
      Peer.all.foldl (expire now) (Peer.all.foldl (pump now) supervisor) := by
    simp only [stepsBeforeRequest, perform_append, perform_pumpSteps]
    rfl
  rw [pollSteps, poll, ← before]
  split
  next =>
    rw [perform_append]
    rfl
  next => rfl

/-- An operation is nothing but its steps. -/
theorem perform_operationSteps (supervisor : Supervisor T) (operation : Operation T) :
    supervisor.perform (supervisor.operationSteps operation) = supervisor.operate operation := by
  cases operation with
  | call call => rfl
  | poll now => exact supervisor.perform_pollSteps now

/-- A run is nothing but its steps. -/
theorem perform_steps (supervisor : Supervisor T) (operations : List (Operation T)) :
    supervisor.perform (supervisor.steps operations) = supervisor.run operations := by
  induction operations generalizing supervisor with
  | nil => rfl
  | cons first rest inductionHypothesis =>
    rw [steps, perform_append, perform_operationSteps, inductionHypothesis, run_cons]

end

/-! ## What the links cannot change -/

/-- A supervisor without its links, the presence of the peers, the time of the next status
request, and the journal. -/
def core (supervisor : Supervisor T) : Supervisor T :=
  { supervisor with
    motorsSlot := ⟨.new, none⟩
    accelerometerSlot := ⟨.new, none⟩
    nextPoll := none
    journal := [] }

variable {supervisor : Supervisor T}

@[simp] theorem core_note (event : Event) : (supervisor.note event).core = supervisor.core := rfl

@[simp] theorem core_noteIf (condition : Bool) (event : Event) :
    (supervisor.noteIf condition event).core = supervisor.core := by
  cases condition <;> rfl

@[simp] theorem core_setSlot (peer : Peer) (slot : PeerSlot T) :
    (supervisor.setSlot peer slot).core = supervisor.core := by
  cases peer <;> rfl

@[simp] theorem core_setLink (peer : Peer) (link : Option (Link T)) :
    (supervisor.setLink peer link).core = supervisor.core :=
  core_setSlot peer _

@[simp] theorem core_setLiveness (peer : Peer) (liveness : Liveness) :
    (supervisor.setLiveness peer liveness).core = supervisor.core :=
  core_setSlot peer _

@[simp] theorem core_attach (peer : Peer) (channel : T) :
    (supervisor.attach peer channel).core = supervisor.core := by
  rw [attach, core_note, core_setLink]

@[simp] theorem core_detach (peer : Peer) : (supervisor.detach peer).2.core = supervisor.core :=
  core_setLink peer none

@[simp] theorem core_disturb (peer : Peer) (channel : T) :
    (supervisor.disturb peer channel).core = supervisor.core :=
  core_setLink peer _

@[simp] theorem core_markSeen (peer : Peer) (now : Instant) :
    (supervisor.markSeen peer now).core = supervisor.core := by
  simp only [markSeen, core_noteIf, core_setLiveness]

@[simp] theorem core_expire (peer : Peer) (now : Instant) :
    (expire now supervisor peer).core = supervisor.core := by
  simp only [expire, core_noteIf, core_setLiveness]

variable [Transport T]

/-- Sending changes at most a link. -/
@[simp] theorem core_send (peer : Peer) (message : Message) :
    (supervisor.send peer message).2.core = supervisor.core := by
  simp only [send]
  split
  next => rfl
  next link attached => exact core_setLink peer _

/-- A command changes at most a link and the journal. -/
@[simp] theorem core_command (message : Message) (event : Event) :
    (supervisor.command message event).2.core = supervisor.core := by
  have sent : (supervisor.send .motors message).2.core = supervisor.core := core_send _ _
  simp only [command]
  split
  next =>
    split
    next result => rwa [result] at sent
    next result => rwa [result] at sent
  next => rfl

/-- Receiving changes at most a link and the journal. -/
@[simp] theorem core_receive (peer : Peer) :
    (supervisor.receive peer).2.core = supervisor.core := by
  simp only [receive]
  split
  next => rfl
  next link attached =>
    split
    next => exact core_setLink peer _
    next => rw [core_noteIf, core_setLink]

/-- Status requests change at most the links, the deadlines and the journal. -/
@[simp] theorem core_requestFrom (request : Message) (deadline : Instant) (peer : Peer) :
    (requestFrom request deadline supervisor peer).core = supervisor.core := by
  simp only [requestFrom]
  split
  next => rfl
  next link attached => rw [core_noteIf, core_setSlot]

@[simp] theorem core_requestStatus (now : Instant) :
    (supervisor.requestStatus now).core = supervisor.core := by
  simp only [requestStatus, Peer.all, List.foldl_cons, List.foldl_nil, core_requestFrom]

/-- A message without a reply changes at most a link and the journal. -/
@[simp] theorem core_handleCommand (peer : Peer) (message : Message) :
    (supervisor.handleCommand peer message).2.core = supervisor.core := by
  simp only [handleCommand]
  split
  next => rw [restoreMotors, core_send, core_note]
  next => rfl

/-- Whether handling a received message fails is noted, and nothing else. -/
@[simp] theorem core_handleNoting (peer : Peer) (now : Instant) (message : Message) :
    (handleNoting peer now supervisor message).core =
      (supervisor.handle peer message now).2.core := by
  simp only [handleNoting]
  split
  next result => rw [result]
  next result => rw [result, core_note]

end OpticalLink.Supervisor
