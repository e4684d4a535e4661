import OpticalLink.Proofs.Supervisor.Attempts

/-!
# The uses of a link in a round

A round of supervision uses the link to a peer in a fixed order: it receives once, it may send
positions back to the motors while it handles what was received, and if a request is due it asks
once for the status, whatever became of the uses before. `Supervisor.linkTo_poll` says that a round
is nothing else to a link. The link to the other peer has no part in it.
-/

namespace OpticalLink

/-- A use of a link in a round of supervision. -/
inductive LinkUse where
  /-- The waiting messages are taken in. -/
  | receive
  /-- A position goes back to the motors. -/
  | restore (position : Position)
  /-- The status is asked for with a message. -/
  | request (message : Message)
deriving DecidableEq, Repr

namespace Link

/-- A link after a use. -/
def use (link : Link) : LinkUse → Link
  | .receive => (link.receive.2.noteOutcome link.receiveFails).2
  | .restore position => (link.send (Supervisor.moveMessage position)).2
  | .request message => ((link.send message).2.noteOutcome (link.sendFails message)).2

/-- A link after some uses. -/
def useAll (link : Link) (uses : List LinkUse) : Link := uses.foldl use link

theorem useAll_append (link : Link) (first second : List LinkUse) :
    link.useAll (first ++ second) = (link.useAll first).useAll second :=
  List.foldl_append

end Link

namespace Supervisor

variable {supervisor : Supervisor} {peer : Peer}

/-! ## What uses a link -/

/-- Receiving uses the link to the peer itself. -/
theorem linkTo_receive (other : Peer) :
    (supervisor.receive other).2.linkTo peer =
      if other = peer then (supervisor.linkTo peer).map fun link => link.use .receive
      else supervisor.linkTo peer := by
  simp only [receive]
  split
  next detached =>
    split
    next this => rw [← this, linkTo, detached]; rfl
    next => rfl
  next link attached =>
    have used : (supervisor.linkTo other).map (fun link => link.use .receive) =
        some (link.receive.2.noteOutcome link.receiveFails).2 := by
      rw [linkTo, attached]
      rfl
    rw [Link.receiveFails] at used
    split
    next result =>
      rw [result] at used
      rw [linkTo_setLink]
      split
      next this => rw [← this, used]; rfl
      next => rfl
    next result =>
      rw [result] at used
      rw [linkTo_noteIf, linkTo_setLink]
      split
      next this => rw [← this, used]; rfl
      next => rfl

/-- Sending a position back uses the link to the motors. -/
theorem linkTo_restoreMotors :
    supervisor.restoreMotors.2.linkTo peer =
      if peer = .motors then
        (supervisor.linkTo peer).map fun link => link.use (.restore supervisor.motors.position)
      else supervisor.linkTo peer := by
  simp only [restoreMotors, send]
  cases peer with
  | accelerometer => split <;> rfl
  | motors =>
    split
    next detached =>
      have noLink : supervisor.linkTo .motors = none := detached
      rw [linkTo_note, noLink]
      rfl
    next link attached =>
      have theLink : supervisor.linkTo .motors = some link := attached
      rw [linkTo_setLink, theLink]
      rfl

/-- The links before and after the messages of a peer are handled: positions may go back to the
motors, and only where the motors themselves have asked for them. -/
def OnlyRestores (sender peer : Peer) (before after : Option Link) : Prop :=
  ∃ positions : List Position, (positions ≠ [] → sender = .motors ∧ peer = .motors) ∧
    after = before.map fun link => link.useAll (positions.map .restore)

theorem OnlyRestores.refl (sender peer : Peer) (link : Option Link) :
    OnlyRestores sender peer link link :=
  ⟨[], fun some => absurd rfl some, (congrFun Option.map_id link).symm⟩

theorem OnlyRestores.trans {sender peer : Peer} {first second third : Option Link}
    (earlier : OnlyRestores sender peer first second)
    (later : OnlyRestores sender peer second third) : OnlyRestores sender peer first third := by
  obtain ⟨early, earlyFrom, rfl⟩ := earlier
  obtain ⟨late, lateFrom, rfl⟩ := later
  refine ⟨early ++ late, fun some => ?_, ?_⟩
  · by_cases none : early = []
    · rw [none, List.nil_append] at some
      exact lateFrom some
    · exact earlyFrom none
  · rw [Option.map_map, List.map_append]
    congr 1
    funext link
    rw [Link.useAll_append]
    rfl

/-- Elsewhere than between the motors and their own link, nothing happens to a link. -/
theorem OnlyRestores.eq {sender peer : Peer} {before after : Option Link}
    (restored : OnlyRestores sender peer before after)
    (elsewhere : ¬ (sender = .motors ∧ peer = .motors)) : after = before := by
  obtain ⟨positions, restoresFrom, rfl⟩ := restored
  have nothing : positions = [] := Decidable.not_not.mp fun some => elsewhere (restoresFrom some)
  rw [nothing]
  exact congrFun Option.map_id before

/-- Handling a message sends at most a position back. -/
theorem onlyRestores_handle (sender : Peer) (message : Message) (now : Instant) :
    OnlyRestores sender peer (supervisor.linkTo peer)
      ((supervisor.handle sender message now).2.linkTo peer) := by
  have kept {after : Supervisor} (same : after.linkTo peer = supervisor.linkTo peer) :
      OnlyRestores sender peer (supervisor.linkTo peer) (after.linkTo peer) := by
    rw [same]
    exact .refl sender peer _
  rw [handle]
  split
  next reply _ => exact kept (linkTo_handleReply sender reply message now)
  next =>
    simp only [handleCommand]
    split
    next =>
      by_cases this : peer = .motors
      · refine ⟨[supervisor.motors.position], fun _ => ⟨rfl, this⟩, ?_⟩
        rw [linkTo_restoreMotors, if_pos this]
        rfl
      · exact kept (by rw [linkTo_restoreMotors, if_neg this])
    next => exact kept rfl

/-- Handling some messages sends at most positions back. -/
theorem onlyRestores_foldl_handleNoting (sender : Peer) (messages : List Message) (now : Instant) :
    OnlyRestores sender peer (supervisor.linkTo peer)
      ((messages.foldl (handleNoting sender now) supervisor).linkTo peer) := by
  induction messages generalizing supervisor with
  | nil => exact .refl sender peer _
  | cons message rest inductionHypothesis =>
    have noted : (handleNoting sender now supervisor message).linkTo peer =
        (supervisor.handle sender message now).2.linkTo peer := by
      simp only [handleNoting]
      split
      next result => rw [result]
      next result => rw [result, linkTo_note]
    have first := @onlyRestores_handle supervisor peer sender message now
    rw [← noted] at first
    exact first.trans inductionHypothesis

/-- What a peer sent is received over its own link, and handling it sends at most positions back. -/
theorem onlyRestores_pump (now : Instant) (sender : Peer) :
    OnlyRestores sender peer
      (if sender = peer then (supervisor.linkTo peer).map fun link => link.use .receive
        else supervisor.linkTo peer)
      ((pump now supervisor sender).linkTo peer) := by
  rw [← linkTo_receive]
  exact onlyRestores_foldl_handleNoting sender _ now

/-- Up to the status requests, a round receives once over a link, and sends at most positions back
to the motors. -/
theorem linkTo_stepsBeforeRequest (now : Instant) :
    ∃ positions : List Position, (peer = .accelerometer → positions = []) ∧
      (supervisor.perform (supervisor.stepsBeforeRequest now)).linkTo peer =
        (supervisor.linkTo peer).map fun link =>
          link.useAll (.receive :: positions.map .restore) := by
  rw [stepsBeforeRequest, perform_append, perform_append, perform_pumpSteps, perform_pumpSteps,
    perform_cons, perform_cons, perform_nil, step, step, linkTo_expire, linkTo_expire]
  have first := @onlyRestores_pump supervisor peer now .motors
  have second := @onlyRestores_pump (pump now supervisor .motors) peer now .accelerometer
  have fromMotors := second.eq (by simp)
  cases peer with
  | motors =>
    rw [if_neg (by decide)] at fromMotors
    rw [if_pos rfl] at first
    obtain ⟨positions, _, after_eq⟩ := first
    refine ⟨positions, by simp, ?_⟩
    rw [fromMotors, after_eq, Option.map_map]
    rfl
  | accelerometer =>
    rw [if_pos rfl] at fromMotors
    refine ⟨[], fun _ => rfl, ?_⟩
    rw [fromMotors, first.eq (by simp), if_neg (by decide)]
    rfl

/-- Asking one peer uses its own link. -/
theorem linkTo_requestFrom (request : Message) (deadline : Instant) (other : Peer) :
    (requestFrom request deadline supervisor other).linkTo peer =
      if other = peer then (supervisor.linkTo peer).map fun link => link.use (.request request)
      else supervisor.linkTo peer := by
  by_cases this : other = peer
  · subst this
    rw [if_pos rfl]
    simp only [requestFrom]
    split
    next detached => rw [linkTo, detached]; rfl
    next link attached =>
      rw [linkTo_noteIf, linkTo_setSlot, if_pos rfl, linkTo, attached, Option.map_some, Link.use,
        Link.sendFails]
      cases (link.send request).1 <;> rfl
  · rw [if_neg this, linkTo, linkTo, slot_requestFrom_of_ne this]

/-- The status requests use the link to every peer once, with one message for all. -/
theorem linkTo_step_request (now : Instant) :
    (supervisor.step (.request now)).linkTo peer =
      (supervisor.linkTo peer).map fun link => link.use (.request supervisor.statusRequest) := by
  have asked : (supervisor.step (.request now)).linkTo peer =
      (supervisor.requestStatus now).linkTo peer := by
    cases peer <;> rfl
  rw [asked]
  simp only [requestStatus, Peer.all, List.foldl_cons, List.foldl_nil, linkTo_requestFrom]
  cases peer <;> rfl

/-- All that a round of supervision does to the link to a peer. -/
theorem linkTo_poll (now : Instant) :
    ∃ positions : List Position, (peer = .accelerometer → positions = []) ∧
      (supervisor.poll now).linkTo peer = (supervisor.linkTo peer).map fun link =>
        link.useAll (.receive :: positions.map .restore ++
          if supervisor.isDue now then
            [.request (supervisor.perform (supervisor.stepsBeforeRequest now)).statusRequest]
          else []) := by
  obtain ⟨positions, alone, before_eq⟩ := @linkTo_stepsBeforeRequest supervisor peer now
  refine ⟨positions, alone, ?_⟩
  rw [← perform_pollSteps, pollSteps_eq]
  split
  next due =>
    rw [perform_append, perform_cons, perform_nil, linkTo_step_request, before_eq, Option.map_map]
    congr 1
    funext link
    rw [Link.useAll_append]
    rfl
  next early => rw [List.append_nil, before_eq, List.append_nil]

end Supervisor

end OpticalLink
