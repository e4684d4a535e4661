import OpticalLink.Proofs.Supervisor.Run

/-!
# What the journal tells of a peer

Two things are told of a peer in turn: that it comes and goes, and that its link begins to
fail. `Supervisor.told` is the part of a journal about one of them. Few functions tell
anything of that kind, and the `told` lemmas say for each function what it adds.
-/

namespace OpticalLink

/-- What an event can be about. -/
inductive Topic where
  /-- Whether a peer is there. -/
  | presence (peer : Peer)
  /-- Whether the link to a peer works. -/
  | link (peer : Peer)
deriving DecidableEq, Repr

/-- What an event is about, if it is about the presence of a peer or its link. -/
def Event.topic? : Event → Option Topic
  | .connected peer | .disconnected peer => some (.presence peer)
  | .receiveFailed peer | .requestFailed peer => some (.link peer)
  | _ => none

variable {T : Type}

section

variable [Transport T]

/-- Whether receiving over a link fails now. -/
def Link.receiveFails (link : Link T) : Bool := !link.receive.1.isOk

/-- Whether sending a message over a link fails now. -/
def Link.sendFails (link : Link T) (message : Message) : Bool := !(link.send message).1.isOk

/-- Receiving is no record of an outcome. -/
@[simp] theorem Link.failing_receive (link : Link T) : link.receive.2.failing = link.failing := by
  rw [receive]
  split <;> rfl

/-- Sending is no record of an outcome. -/
@[simp] theorem Link.failing_send (link : Link T) (message : Message) :
    (link.send message).2.failing = link.failing := rfl

end

namespace Supervisor

/-- The events of the journal about one topic. -/
def told (supervisor : Supervisor T) (topic : Topic) : List Event :=
  supervisor.journal.filter fun event => event.topic? = some topic

variable {supervisor : Supervisor T} {topic : Topic}

/-! ## Notes -/

theorem told_note (event : Event) :
    (supervisor.note event).told topic =
      supervisor.told topic ++ if event.topic? = some topic then [event] else [] := by
  simp only [told, note, List.filter_append, List.filter_cons, List.filter_nil, decide_eq_true_eq]

theorem told_noteIf (condition : Bool) (event : Event) :
    (supervisor.noteIf condition event).told topic =
      supervisor.told topic ++
        if condition = true ∧ event.topic? = some topic then [event] else [] := by
  cases condition with
  | true => simp only [noteIf, if_true, told_note, true_and]
  | false => simp only [noteIf, Bool.false_eq_true, if_false, false_and, List.append_nil]

/-- An event about something else tells nothing. -/
theorem told_note_of_topic?_eq_none {event : Event} (silent : event.topic? = none) :
    (supervisor.note event).told topic = supervisor.told topic := by
  rw [told_note, silent, if_neg nofun, List.append_nil]

/-! ## What tells nothing -/

@[simp] theorem told_setSlot (peer : Peer) (slot : PeerSlot T) :
    (supervisor.setSlot peer slot).told topic = supervisor.told topic := by
  cases peer <;> rfl

@[simp] theorem told_setLink (peer : Peer) (link : Option (Link T)) :
    (supervisor.setLink peer link).told topic = supervisor.told topic :=
  told_setSlot peer _

@[simp] theorem told_setLiveness (peer : Peer) (liveness : Liveness) :
    (supervisor.setLiveness peer liveness).told topic = supervisor.told topic :=
  told_setSlot peer _

@[simp] theorem told_persist (position : Position) :
    (supervisor.persist position).told topic = supervisor.told topic := by
  simp only [persist]
  split
  next => rfl
  next =>
    split
    next => rfl
    next => exact told_note_of_topic?_eq_none rfl

@[simp] theorem told_applyPosition (position : Position) :
    (supervisor.applyPosition position).told topic = supervisor.told topic := by
  let moved : Supervisor T := { supervisor with motors := { supervisor.motors with position } }
  have kept : (if moved.motors.inRange position then moved.persist position
      else moved.note (.outOfRange position)).told topic = moved.told topic := by
    split
    next => exact told_persist position
    next => exact told_note_of_topic?_eq_none rfl
  exact kept

@[simp] theorem told_applyReport (peer : Peer) (message : Message) :
    (supervisor.applyReport peer message).told topic = supervisor.told topic := by
  cases peer with
  | accelerometer => rfl
  | motors =>
    simp only [applyReport]
    split
    next position reported => exact told_applyPosition position
    next => rfl

@[simp] theorem told_applyError (peer : Peer) (message : Message) :
    (supervisor.applyError peer message).told topic = supervisor.told topic := by
  cases peer <;> exact told_note_of_topic?_eq_none rfl

/-! ## What tells something -/

theorem told_markSeen (peer : Peer) (now : Instant) :
    (supervisor.markSeen peer now).told topic = supervisor.told topic ++
      if ((supervisor.slot peer).liveness.markSeen now).1 = true ∧ .presence peer = topic then
        [.connected peer]
      else [] := by
  simp only [markSeen, told_noteIf, told_setLiveness, Event.topic?, Option.some.injEq]

theorem told_expire (peer : Peer) (now : Instant) :
    (expire now supervisor peer).told topic = supervisor.told topic ++
      if ((supervisor.slot peer).liveness.expire now).1 = true ∧ .presence peer = topic then
        [.disconnected peer]
      else [] := by
  simp only [expire, told_noteIf, told_setLiveness, Event.topic?, Option.some.injEq]

/-! ## What uses a transport -/

variable [Transport T]

@[simp] theorem told_send (peer : Peer) (message : Message) :
    (supervisor.send peer message).2.told topic = supervisor.told topic := by
  simp only [send]
  split
  next => rfl
  next link attached => exact told_setLink peer _

theorem told_command (message : Message) {event : Event} (silent : event.topic? = none) :
    (supervisor.command message event).2.told topic = supervisor.told topic := by
  have sent : (supervisor.send .motors message).2.told topic = supervisor.told topic :=
    told_send _ _
  simp only [command]
  split
  next =>
    split
    next result =>
      rw [result] at sent
      exact (told_note_of_topic?_eq_none silent).trans sent
    next result => rwa [result] at sent
  next => rfl

@[simp] theorem told_handleCommand (peer : Peer) (message : Message) :
    (supervisor.handleCommand peer message).2.told topic = supervisor.told topic := by
  simp only [handleCommand]
  split
  next => rw [restoreMotors, told_send, told_note_of_topic?_eq_none rfl]
  next => rfl

/-- Of a message, at most the presence of its sender is told. -/
theorem told_handle (peer : Peer) (message : Message) (now : Instant) :
    (supervisor.handle peer message now).2.told topic =
      if message.reply?.isSome then (supervisor.markSeen peer now).told topic
      else supervisor.told topic := by
  rw [handle]
  cases message.reply? with
  | none => exact told_handleCommand peer message
  | some code =>
    cases code with
    | statusReport => exact told_applyReport peer message
    | errorReport => exact told_applyError peer message
    | unknown code => rfl

@[simp] theorem told_handleNoting (peer : Peer) (now : Instant) (message : Message) :
    (handleNoting peer now supervisor message).told topic =
      (supervisor.handle peer message now).2.told topic := by
  simp only [handleNoting]
  split
  next result => rw [result]
  next result => rw [result, told_note_of_topic?_eq_none rfl]

/-- A failure to receive is told unless the attempt before it failed as well. -/
theorem told_receive (peer : Peer) :
    (supervisor.receive peer).2.told topic = supervisor.told topic ++
      if (supervisor.slot peer).link.any (fun link => link.receiveFails && !link.failing) = true ∧
          .link peer = topic then
        [.receiveFailed peer]
      else [] := by
  simp only [receive]
  split
  next detached =>
    rw [detached, Option.any_none, if_neg (by simp), List.append_nil]
  next link attached =>
    have kept := link.failing_receive
    rw [attached, Option.any_some, Link.receiveFails]
    split
    next result =>
      rw [result, told_setLink, if_neg (by simp [Except.isOk, Except.toBool]), List.append_nil]
    next error after result =>
      rw [result] at kept
      have kept : after.failing = link.failing := kept
      rw [result, told_noteIf, told_setLink]
      simp only [Link.noteOutcome, kept, Except.isOk, Except.toBool, Bool.not_false, Bool.true_and,
        Event.topic?, Option.some.injEq]

/-- A failure to ask for the status is told unless the attempt before it failed as well. -/
theorem told_requestFrom (request : Message) (deadline : Instant) (peer : Peer) :
    (requestFrom request deadline supervisor peer).told topic = supervisor.told topic ++
      if (supervisor.slot peer).link.any
            (fun link => link.sendFails request && !link.failing) = true ∧
          .link peer = topic then
        [.requestFailed peer]
      else [] := by
  simp only [requestFrom]
  split
  next detached =>
    rw [detached, Option.any_none, if_neg (by simp), List.append_nil]
  next link attached =>
    rw [attached, Option.any_some, Link.sendFails, told_noteIf, told_setSlot]
    cases (link.send request).1 <;>
      simp only [Link.noteOutcome, Link.failing_send, Except.isOk, Except.toBool, Bool.not_true,
        Bool.not_false, Event.topic?, Option.some.injEq]

/-- A call that handles no message tells nothing. -/
theorem told_call_of_handled?_eq_none {call : Call T} (other : (Step.call call).handled? = none) :
    (supervisor.call call).told topic = supervisor.told topic := by
  cases call with
  | attach peer channel => rw [call, attach, told_note_of_topic?_eq_none rfl, told_setLink]
  | detach peer => exact told_setLink peer none
  | disturb peer channel => exact told_setLink peer _
  | handle peer message now => cases other
  | move position => exact told_command _ rfl
  | home => exact told_command _ rfl
  | reboot => exact told_command _ rfl
  | upgrade => exact told_command _ rfl
  | resetSurvey => exact told_note_of_topic?_eq_none rfl
  | _ => rfl

end Supervisor

end OpticalLink
