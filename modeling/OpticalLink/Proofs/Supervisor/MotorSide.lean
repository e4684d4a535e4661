import OpticalLink.Supervisor.Poll

/-!
# The motor side of a supervisor

What the accelerometer can bring about stays with its own link, its presence, its sample and
the journal. `Supervisor.motorSide` is the rest of a supervisor. Each function that serves the
accelerometer leaves it (`Spares`), and each other one makes of it what it makes of the whole
supervisor (`Respects`); `Supervisor.respects_poll` says the latter of a round of supervision,
which serves both peers.
-/

namespace OpticalLink.Supervisor

/-- A supervisor without the link to the accelerometer, its presence and its sample, and without
the journal, in which both peers have their events. -/
def motorSide (supervisor : Supervisor) : Supervisor :=
  { supervisor with
    accelerometerSlot := ⟨.new, none⟩
    acceleration := none
    journal := [] }

/-- The motor side of what a function answers and leaves. -/
def outcomeSide {Result : Type} (outcome : Result × Supervisor) : Result × Supervisor :=
  (outcome.1, outcome.2.motorSide)

/-- A function that leaves the motor side. -/
def Spares (change : Supervisor → Supervisor) : Prop :=
  ∀ supervisor, (change supervisor).motorSide = supervisor.motorSide

/-- A function for which the motor side is all that matters to the motor side. -/
def Respects (change : Supervisor → Supervisor) : Prop :=
  ∀ supervisor, (change supervisor).motorSide = (change supervisor.motorSide).motorSide

/-- A function with an answer for which the motor side is all that matters to the answer and to
the motor side. -/
def Answers {Result : Type} (act : Supervisor → Result × Supervisor) : Prop :=
  ∀ supervisor, outcomeSide (act supervisor) = outcomeSide (act supervisor.motorSide)

variable {supervisor : Supervisor} {change next : Supervisor → Supervisor}

theorem Spares.respects (spares : Spares change) : Respects change := by
  intro supervisor
  rw [spares, spares]
  rfl

theorem Spares.comp (second : Spares next) (first : Spares change) :
    Spares fun supervisor => next (change supervisor) := by
  intro supervisor
  rw [second, first]

theorem Respects.comp (second : Respects next) (first : Respects change) :
    Respects fun supervisor => next (change supervisor) := by
  intro supervisor
  rw [second, first, ← second]

/-- A choice that depends on the motor side alone. -/
theorem Respects.ite {condition : Supervisor → Bool}
    (same : ∀ supervisor, condition supervisor = condition supervisor.motorSide)
    (whenTrue : Respects change) (whenFalse : Respects next) :
    Respects fun supervisor =>
      if condition supervisor then change supervisor else next supervisor := by
  intro supervisor
  simp only [← same supervisor]
  split
  next => exact whenTrue supervisor
  next => exact whenFalse supervisor

theorem Respects.foldl {Item : Type} {act : Supervisor → Item → Supervisor}
    (respects : ∀ item, Respects fun supervisor => act supervisor item) (items : List Item) :
    Respects fun supervisor => items.foldl act supervisor := by
  induction items with
  | nil => exact fun _ => rfl
  | cons first rest inductionHypothesis => exact inductionHypothesis.comp (respects first)

theorem Spares.foldl {Item : Type} {act : Supervisor → Item → Supervisor}
    (spares : ∀ item, Spares fun supervisor => act supervisor item) (items : List Item) :
    Spares fun supervisor => items.foldl act supervisor := by
  induction items with
  | nil => exact fun _ => rfl
  | cons first rest inductionHypothesis => exact inductionHypothesis.comp (spares first)

theorem Answers.respects {Result : Type} {act : Supervisor → Result × Supervisor}
    (answers : Answers act) : Respects fun supervisor => (act supervisor).2 :=
  fun supervisor => congrArg Prod.snd (answers supervisor)

/-- The answer may be told in other words. -/
theorem Answers.tell {First Second : Type} {act : Supervisor → First × Supervisor}
    (answers : Answers act) (tell : First → Second) :
    Answers fun supervisor => (tell (act supervisor).1, (act supervisor).2) :=
  fun supervisor => congrArg (fun outcome => (tell outcome.1, outcome.2)) (answers supervisor)

/-! ## Links and presence -/

@[simp] theorem motorSide_note (event : Event) :
    (supervisor.note event).motorSide = supervisor.motorSide := rfl

@[simp] theorem motorSide_noteIf (condition : Bool) (event : Event) :
    (supervisor.noteIf condition event).motorSide = supervisor.motorSide := by
  cases condition <;> rfl

@[simp] theorem motorSide_setSlot_accelerometer (slot : PeerSlot) :
    (supervisor.setSlot .accelerometer slot).motorSide = supervisor.motorSide := rfl

@[simp] theorem motorSide_setSlot_motors (slot : PeerSlot) :
    (supervisor.setSlot .motors slot).motorSide = supervisor.motorSide.setSlot .motors slot := rfl

@[simp] theorem slot_motorSide : supervisor.motorSide.slot .motors = supervisor.slot .motors := rfl

theorem spares_markSeen (now : Instant) :
    Spares fun supervisor => supervisor.markSeen .accelerometer now := by
  intro supervisor
  simp only [markSeen, setLiveness, motorSide_noteIf, motorSide_setSlot_accelerometer]

theorem respects_markSeen (now : Instant) :
    Respects fun supervisor => supervisor.markSeen .motors now := by
  intro supervisor
  simp only [markSeen, setLiveness, motorSide_noteIf, motorSide_setSlot_motors, slot_motorSide]
  rfl

theorem spares_expire (now : Instant) :
    Spares fun supervisor => expire now supervisor .accelerometer := by
  intro supervisor
  simp only [expire, setLiveness, motorSide_noteIf, motorSide_setSlot_accelerometer]

theorem respects_expire (now : Instant) :
    Respects fun supervisor => expire now supervisor .motors := by
  intro supervisor
  simp only [expire, setLiveness, motorSide_noteIf, motorSide_setSlot_motors, slot_motorSide]
  rfl

theorem answers_send (message : Message) :
    Answers fun supervisor => supervisor.send .motors message := by
  intro supervisor
  simp only [send, slot_motorSide]
  split <;> rfl

theorem spares_receive : Spares fun supervisor => (supervisor.receive .accelerometer).2 := by
  intro supervisor
  simp only [receive, setLink]
  split
  next => rfl
  next =>
    split
    next => rfl
    next => rw [motorSide_noteIf, motorSide_setSlot_accelerometer]

theorem answers_receive : Answers fun supervisor => supervisor.receive .motors := by
  intro supervisor
  simp only [receive, setLink, slot_motorSide]
  split
  next => rfl
  next =>
    split
    next => rfl
    next =>
      simp only [outcomeSide, motorSide_noteIf, motorSide_setSlot_motors]
      rfl

theorem spares_requestFrom (request : Message) (deadline : Instant) :
    Spares fun supervisor => requestFrom request deadline supervisor .accelerometer := by
  intro supervisor
  simp only [requestFrom]
  split
  next => rfl
  next => rw [motorSide_noteIf, motorSide_setSlot_accelerometer]

theorem respects_requestFrom (request : Message) (deadline : Instant) :
    Respects fun supervisor => requestFrom request deadline supervisor .motors := by
  intro supervisor
  simp only [requestFrom, slot_motorSide]
  split
  next => rfl
  next =>
    simp only [motorSide_noteIf, motorSide_setSlot_motors]
    rfl

/-! ## Commands -/

/-- A command is what is sent, whether or not it is noted. -/
theorem outcomeSide_command (message : Message) (event : Event) :
    outcomeSide (supervisor.command message event) =
      if supervisor.isConnected .motors then outcomeSide (supervisor.send .motors message)
      else (.error (.disconnected .motors), supervisor.motorSide) := by
  rw [command]
  split
  next =>
    cases supervisor.send .motors message with
    | mk result sent => cases result <;> rfl
  next => rfl

theorem answers_command (message : Message) (event : Event) :
    Answers fun supervisor => supervisor.command message event := by
  intro supervisor
  rw [outcomeSide_command, outcomeSide_command, answers_send message supervisor]
  rfl

/-! ## Messages -/

theorem respects_persist (position : Position) :
    Respects fun supervisor => supervisor.persist position := by
  intro supervisor
  have persisted : supervisor.motorSide.persisted = supervisor.persisted := rfl
  have store : supervisor.motorSide.store = supervisor.store := rfl
  simp only [persist, persisted, store]
  split
  next => rfl
  next => split <;> rfl

theorem respects_applyPosition (position : Position) :
    Respects fun supervisor => supervisor.applyPosition position := by
  have moves : Respects fun supervisor =>
      { supervisor with motors := { supervisor.motors with position } } := fun _ => rfl
  have keeps : Respects fun supervisor =>
      if supervisor.motors.inRange position then supervisor.persist position
      else supervisor.note (.outOfRange position) :=
    .ite (fun _ => rfl) (respects_persist position) fun _ => rfl
  have surveys : Respects fun supervisor => { supervisor with
      survey := (supervisor.survey.update position.x position.y
        supervisor.transceiver.rxPower).2 } := fun _ => rfl
  exact surveys.comp (keeps.comp moves)

theorem respects_applyReport (message : Message) :
    Respects fun supervisor => supervisor.applyReport .motors message := by
  have reads : Respects fun supervisor =>
      (supervisor.applySample message).applyReadings message := fun _ => rfl
  cases located : message.motorPosition? with
  | none =>
    simp only [applyReport, located]
    exact reads
  | some position =>
    simp only [applyReport, located]
    exact (respects_applyPosition position).comp reads

theorem answers_restoreMotors : Answers restoreMotors := by
  intro supervisor
  have noted := answers_send (moveMessage supervisor.motors.position)
  exact (noted (supervisor.note _)).trans (noted (supervisor.motorSide.note _)).symm

/-- A message of the motors is answered, and acted on, by the motor side. -/
theorem answers_handle (message : Message) (now : Instant) :
    Answers fun supervisor => supervisor.handle .motors message now := by
  intro supervisor
  cases reply : message.reply? with
  | none =>
    simp only [handle, reply, handleCommand]
    split
    next => exact answers_restoreMotors supervisor
    next => rfl
  | some code =>
    have applies : Respects fun supervisor => supervisor.handleReply .motors code message now := by
      cases code with
      | statusReport => exact (respects_applyReport message).comp (respects_markSeen now)
      | errorReport =>
        have applies : Respects fun supervisor => supervisor.applyError .motors message :=
          fun _ => rfl
        exact applies.comp (respects_markSeen now)
      | unknown code => exact respects_markSeen now
    simp only [handle, reply]
    exact congrArg (Prod.mk (Except.ok () : Except SupervisorError Unit)) (applies supervisor)

/-- No message of the accelerometer reaches the motor side. -/
theorem spares_handle (message : Message) (now : Instant) :
    Spares fun supervisor => (supervisor.handle .accelerometer message now).2 := by
  intro supervisor
  cases reply : message.reply? with
  | none => simp only [handle, reply, handleCommand]
  | some code =>
    have marked := spares_markSeen now supervisor
    simp only [handle, reply, handleReply]
    cases code with
    | statusReport => exact marked
    | errorReport => exact marked
    | unknown code => exact marked

/-! ## Rounds of supervision -/

/-- Whether handling a message fails is noted, and nothing else. -/
theorem motorSide_handleNoting (peer : Peer) (now : Instant) (message : Message) :
    (handleNoting peer now supervisor message).motorSide =
      (supervisor.handle peer message now).2.motorSide := by
  simp only [handleNoting]
  split
  next result => rw [result]
  next result => rw [result, motorSide_note]

theorem respects_handleNoting (now : Instant) (message : Message) :
    Respects fun supervisor => handleNoting .motors now supervisor message := by
  intro supervisor
  rw [motorSide_handleNoting, motorSide_handleNoting]
  exact (answers_handle message now).respects supervisor

theorem spares_handleNoting (now : Instant) (message : Message) :
    Spares fun supervisor => handleNoting .accelerometer now supervisor message := by
  intro supervisor
  rw [motorSide_handleNoting]
  exact spares_handle message now supervisor

/-- What the motors sent is received and handled by the motor side. -/
theorem respects_pump (now : Instant) : Respects fun supervisor => pump now supervisor .motors := by
  intro supervisor
  have handles := Respects.foldl (respects_handleNoting now)
  have pumped (supervisor : Supervisor) : pump now supervisor .motors =
      (supervisor.receive .motors).1.foldl (handleNoting .motors now)
        (supervisor.receive .motors).2 := rfl
  obtain ⟨sameMessages, sameSide⟩ := Prod.mk.inj (answers_receive supervisor)
  simp only [pumped]
  rw [handles, sameMessages, sameSide, ← handles]

/-- Nothing that the accelerometer sent reaches the motor side. -/
theorem spares_pump (now : Instant) :
    Spares fun supervisor => pump now supervisor .accelerometer := by
  intro supervisor
  have received : (supervisor.receive .accelerometer).2.motorSide = supervisor.motorSide :=
    spares_receive supervisor
  exact (Spares.foldl (spares_handleNoting now) _ _).trans received

theorem respects_requestStatus (now : Instant) :
    Respects fun supervisor => supervisor.requestStatus now := by
  intro supervisor
  let deadline := now + supervisor.settings.keepaliveTimeout
  exact ((spares_requestFrom supervisor.statusRequest deadline).respects.comp
    (respects_requestFrom supervisor.statusRequest deadline)) supervisor

/-- A round of supervision does to the motor side what it would do without the accelerometer. -/
theorem respects_poll (now : Instant) : Respects fun supervisor => supervisor.poll now := by
  have pumps : Respects fun supervisor => Peer.all.foldl (pump now) supervisor :=
    (spares_pump now).respects.comp (respects_pump now)
  have expires : Respects fun supervisor => Peer.all.foldl (expire now) supervisor :=
    (spares_expire now).respects.comp (respects_expire now)
  have schedules : Respects fun supervisor => { supervisor.requestStatus now with
      nextPoll := some (now + supervisor.settings.pollInterval) } := by
    intro supervisor
    let nextPoll := some (now + supervisor.settings.pollInterval)
    exact congrArg (fun requested : Supervisor => { requested with nextPoll })
      (respects_requestStatus now supervisor)
  have requests : Respects fun supervisor =>
      if supervisor.isDue now then { supervisor.requestStatus now with
        nextPoll := some (now + supervisor.settings.pollInterval) }
      else supervisor := .ite (fun _ => rfl) schedules fun _ => rfl
  exact requests.comp (expires.comp pumps)

end OpticalLink.Supervisor
