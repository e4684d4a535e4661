import OpticalLink.Proofs.Supervisor.Run

/-!
# Watching a peer

Whether a peer counts as connected depends on little: its replies, the looks at its
deadline, the status requests, and whether it has a link when one is sent. `Watch` is what a
supervisor has of one peer for this, a `Signal` is what can happen to it, and
`Supervisor.watch_perform` says that a supervisor watches each peer by its signals alone.
-/

namespace OpticalLink

/-! ## The presence of a peer -/

namespace Liveness

variable {liveness : Liveness}

@[simp] theorem keepalive_markSeen (now : Instant) :
    (liveness.markSeen now).2.keepalive = none := by
  rw [markSeen]
  split <;> rfl

@[simp] theorem connected_markSeen (now : Instant) :
    (liveness.markSeen now).2.connected = true := by
  rw [markSeen]
  split
  next connected => exact connected
  next => rfl

/-- After a look at the deadline, only one that is still to come is left. -/
theorem keepalive_expire (now : Instant) :
    (liveness.expire now).2.keepalive = liveness.keepalive.filter fun deadline => now < deadline := by
  rw [expire]
  split
  next none_eq => rw [none_eq]; rfl
  next deadline some_eq =>
    rw [some_eq, Option.filter_some]
    by_cases early : now < deadline
    · rw [if_pos early, if_pos (decide_eq_true early), some_eq]
    · rw [if_neg early, if_neg (mt of_decide_eq_true early)]
      split <;> rfl

/-- A look at the deadline disconnects a peer exactly if the deadline has come. -/
theorem connected_expire (now : Instant) :
    (liveness.expire now).2.connected =
      (liveness.connected && liveness.keepalive.all fun deadline => now < deadline) := by
  rw [expire]
  split
  next none_eq => rw [none_eq, Option.all_none, Bool.and_true]
  next deadline some_eq =>
    rw [some_eq, Option.all_some]
    by_cases early : now < deadline
    · rw [if_pos early, decide_eq_true early, Bool.and_true]
    · rw [if_neg early, decide_eq_false early, Bool.and_false]
      split
      next => rfl
      next gone => exact Bool.eq_false_iff.mpr gone

end Liveness

/-! ## Signals -/

/-- What a supervisor has of one peer to watch it by. -/
structure Watch where
  liveness : Liveness
  /-- Whether there is a link to the peer. -/
  attached : Bool
  nextPoll : Option Instant
  settings : Settings

/-- What can happen to a peer that is watched. -/
inductive Signal where
  | attached
  | detached
  /-- The peer has replied. -/
  | reply (now : Instant)
  /-- A deadline takes effect if it has come. -/
  | look (now : Instant)
  /-- The status requests are sent. -/
  | request (now : Instant)
deriving DecidableEq, Repr

/-- The watch after asking the peer to reply by a deadline, which takes a link. -/
def Watch.ask (watch : Watch) (deadline : Instant) : Watch :=
  { watch with
    liveness := if watch.attached then watch.liveness.armKeepalive deadline else watch.liveness }

theorem Watch.connected_ask {watch : Watch} {deadline : Instant} :
    (watch.ask deadline).liveness.connected = watch.liveness.connected := by
  rw [ask]
  split <;> rfl

theorem Watch.keepalive_ask {watch : Watch} {deadline : Instant} :
    (watch.ask deadline).liveness.keepalive =
      if watch.attached then some (watch.liveness.keepalive.getD deadline)
      else watch.liveness.keepalive := by
  rw [ask]
  split <;> rfl

/-- The watch after a signal. -/
def Watch.follow (watch : Watch) : Signal → Watch
  | .attached => { watch with attached := true }
  | .detached => { watch with attached := false }
  | .reply now => { watch with liveness := (watch.liveness.markSeen now).2 }
  | .look now => { watch with liveness := (watch.liveness.expire now).2 }
  | .request now =>
    { watch.ask (now + watch.settings.keepaliveTimeout) with
      nextPoll := some (now + watch.settings.pollInterval) }

namespace Supervisor

variable {T : Type}

/-- What a step means for a peer. -/
def Step.signal? (peer : Peer) : Step T → Option Signal
  | .call (.attach other _) => if other = peer then some .attached else none
  | .call (.detach other) => if other = peer then some .detached else none
  | .call (.handle sender message now) | .handleReceived sender message now =>
    if sender = peer ∧ message.reply?.isSome then some (.reply now) else none
  | .expire other now => if other = peer then some (.look now) else none
  | .request now => some (.request now)
  | _ => none

/-- How a supervisor watches a peer. -/
def watch (supervisor : Supervisor T) (peer : Peer) : Watch where
  liveness := (supervisor.slot peer).liveness
  attached := (supervisor.slot peer).link.isSome
  nextPoll := supervisor.nextPoll
  settings := supervisor.settings

/-- What some steps mean to a peer. -/
def signals (peer : Peer) (steps : List (Step T)) : List Signal :=
  steps.filterMap (Step.signal? peer)

/-! ## What is no signal -/

variable {supervisor : Supervisor T} {peer : Peer}

@[simp] theorem watch_note (event : Event) :
    (supervisor.note event).watch peer = supervisor.watch peer := by
  cases peer <;> rfl

@[simp] theorem watch_noteIf (condition : Bool) (event : Event) :
    (supervisor.noteIf condition event).watch peer = supervisor.watch peer := by
  cases condition
  · rfl
  · exact watch_note event

@[simp] theorem watch_setSlot_self (slot : PeerSlot T) :
    (supervisor.setSlot peer slot).watch peer =
      { supervisor.watch peer with liveness := slot.liveness, attached := slot.link.isSome } := by
  cases peer <;> rfl

theorem watch_setSlot_of_ne {other : Peer} (different : other ≠ peer) (slot : PeerSlot T) :
    (supervisor.setSlot other slot).watch peer = supervisor.watch peer := by
  cases other <;> cases peer <;> first | rfl | exact absurd rfl different

/-- Another link in the place of one changes nothing. -/
theorem watch_setLink {other : Peer} {link : Option (Link T)}
    (same : link.isSome = (supervisor.slot other).link.isSome) :
    (supervisor.setLink other link).watch peer = supervisor.watch peer := by
  rw [setLink]
  by_cases this : other = peer
  · rw [this] at same ⊢
    rw [watch_setSlot_self, same]
    rfl
  · exact watch_setSlot_of_ne this _

theorem watch_setLiveness {other : Peer} (liveness : Liveness) :
    (supervisor.setLiveness other liveness).watch peer =
      if other = peer then { supervisor.watch peer with liveness } else supervisor.watch peer := by
  rw [setLiveness]
  split
  next this =>
    rw [this, watch_setSlot_self]
    rfl
  next different => exact watch_setSlot_of_ne different _

@[simp] theorem watch_disturb (other : Peer) (channel : T) :
    (supervisor.disturb other channel).watch peer = supervisor.watch peer :=
  watch_setLink Option.isSome_map

@[simp] theorem watch_persist (position : Position) :
    (supervisor.persist position).watch peer = supervisor.watch peer := by
  simp only [persist]
  split
  next => rfl
  next =>
    split
    next => cases peer <;> rfl
    next => cases peer <;> rfl

@[simp] theorem watch_applyPosition (position : Position) :
    (supervisor.applyPosition position).watch peer = supervisor.watch peer := by
  let moved : Supervisor T := { supervisor with motors := { supervisor.motors with position } }
  have kept : (if moved.motors.inRange position then moved.persist position
      else moved.note (.outOfRange position)).watch peer = moved.watch peer := by
    split
    next => exact watch_persist position
    next => exact watch_note _
  exact kept

@[simp] theorem watch_applyReport (other : Peer) (message : Message) :
    (supervisor.applyReport other message).watch peer = supervisor.watch peer := by
  cases other with
  | accelerometer => rfl
  | motors =>
    simp only [applyReport]
    split
    next position reported => exact watch_applyPosition position
    next => rfl

@[simp] theorem watch_applyError (other : Peer) (message : Message) :
    (supervisor.applyError other message).watch peer = supervisor.watch peer := by
  cases other <;> rfl

/-! ## What is a signal -/

theorem watch_expire (other : Peer) (now : Instant) :
    (expire now supervisor other).watch peer =
      if other = peer then (supervisor.watch peer).follow (.look now)
      else supervisor.watch peer := by
  rw [expire, watch_noteIf, watch_setLiveness]
  split
  next this =>
    rw [this]
    rfl
  next => rfl

section

variable [Transport T]

@[simp] theorem watch_send (other : Peer) (message : Message) :
    (supervisor.send other message).2.watch peer = supervisor.watch peer := by
  simp only [send]
  split
  next => rfl
  next link attached => exact watch_setLink (by rw [attached]; rfl)

@[simp] theorem watch_command (message : Message) (event : Event) :
    (supervisor.command message event).2.watch peer = supervisor.watch peer := by
  have sent : (supervisor.send .motors message).2.watch peer = supervisor.watch peer :=
    watch_send _ _
  simp only [command]
  split
  next =>
    split
    next result => rwa [result] at sent
    next result => rwa [result] at sent
  next => rfl

@[simp] theorem watch_receive (other : Peer) :
    (supervisor.receive other).2.watch peer = supervisor.watch peer := by
  simp only [receive]
  split
  next => rfl
  next link attached =>
    split
    next => exact watch_setLink (by rw [attached]; rfl)
    next => rw [watch_noteIf, watch_setLink (by rw [attached]; rfl)]

@[simp] theorem watch_handleCommand (other : Peer) (message : Message) :
    (supervisor.handleCommand other message).2.watch peer = supervisor.watch peer := by
  simp only [handleCommand]
  split
  next => rw [restoreMotors, watch_send, watch_note]
  next => rfl

/-- A message is a signal of its sender if it carries a reply. -/
theorem watch_handle (sender : Peer) (message : Message) (now : Instant) :
    (supervisor.handle sender message now).2.watch peer =
      if sender = peer ∧ message.reply?.isSome then (supervisor.watch peer).follow (.reply now)
      else supervisor.watch peer := by
  have marked : (supervisor.markSeen sender now).watch peer =
      if sender = peer then (supervisor.watch peer).follow (.reply now)
      else supervisor.watch peer := by
    rw [markSeen, watch_noteIf, watch_setLiveness]
    split
    next this =>
      rw [this]
      rfl
    next => rfl
  rw [handle]
  cases reply : message.reply? with
  | none => simp only [Option.isSome_none, Bool.false_eq_true, and_false, if_false,
      watch_handleCommand]
  | some code =>
    simp only [Option.isSome_some, and_true, ← marked, handleReply]
    cases code with
    | statusReport => exact watch_applyReport sender message
    | errorReport => exact watch_applyError sender message
    | unknown code => rfl

@[simp] theorem watch_handleNoting (sender : Peer) (now : Instant) (message : Message) :
    (handleNoting sender now supervisor message).watch peer =
      (supervisor.handle sender message now).2.watch peer := by
  simp only [handleNoting]
  split
  next result => rw [result]
  next result => rw [result, watch_note]

theorem watch_requestFrom (request : Message) (deadline : Instant) (other : Peer) :
    (requestFrom request deadline supervisor other).watch peer =
      if other = peer then (supervisor.watch peer).ask deadline else supervisor.watch peer := by
  simp only [requestFrom]
  split
  next detached =>
    split
    next this =>
      rw [this] at detached
      rw [Watch.ask, watch, detached]
      rfl
    next => rfl
  next link attached =>
    rw [watch_noteIf]
    by_cases this : other = peer
    · rw [if_pos this]
      rw [this] at attached ⊢
      rw [watch_setSlot_self, Watch.ask, watch, attached]
      rfl
    · rw [if_neg this]
      exact watch_setSlot_of_ne this _

theorem watch_requestStatus (now : Instant) :
    (supervisor.requestStatus now).watch peer =
      (supervisor.watch peer).ask (now + supervisor.settings.keepaliveTimeout) := by
  cases peer <;> simp [requestStatus, Peer.all, watch_requestFrom]

theorem watch_call (call : Call T) :
    (supervisor.call call).watch peer =
      (Step.signal? peer (.call call)).elim (supervisor.watch peer)
        (supervisor.watch peer).follow := by
  cases call with
  | attach other channel =>
    simp only [call, attach, watch_note, setLink, Step.signal?]
    split
    next this => rw [this, watch_setSlot_self]; rfl
    next different => exact watch_setSlot_of_ne different _
  | detach other =>
    simp only [call, detach, setLink, Step.signal?]
    split
    next this => rw [this, watch_setSlot_self]; rfl
    next different => exact watch_setSlot_of_ne different _
  | disturb other channel => exact watch_disturb other channel
  | handle sender message now =>
    simp only [call, watch_handle, Step.signal?]
    split <;> rfl
  | move position => exact watch_command _ _
  | home => exact watch_command _ _
  | reboot => exact watch_command _ _
  | upgrade => exact watch_command _ _
  | calibrate offsetX offsetY => cases peer <;> rfl
  | setDistance distance => cases peer <;> rfl
  | resetSurvey => cases peer <;> rfl
  | updateTransceiver transceiver => cases peer <;> rfl
  | failCommits fail => cases peer <;> rfl
  | changeVolume volume => cases peer <;> rfl

/-- A step changes how a peer is watched by what it means to the peer, and by nothing else. -/
theorem watch_step (step : Step T) :
    (supervisor.step step).watch peer =
      (step.signal? peer).elim (supervisor.watch peer) (supervisor.watch peer).follow := by
  cases step with
  | call call => exact watch_call call
  | receive other => exact watch_receive other
  | handleReceived sender message now =>
    simp only [step, watch_handleNoting, watch_handle, Step.signal?]
    split <;> rfl
  | expire other now =>
    simp only [step, watch_expire, Step.signal?]
    split <;> rfl
  | request now =>
    have scheduled : (supervisor.step (.request now)).watch peer =
        { (supervisor.requestStatus now).watch peer with
          nextPoll := some (now + supervisor.settings.pollInterval) } := by
      cases peer <;> rfl
    rw [scheduled, watch_requestStatus]
    rfl

/-- A supervisor watches a peer by its signals. -/
theorem watch_perform (steps : List (Step T)) :
    (supervisor.perform steps).watch peer =
      (signals peer steps).foldl Watch.follow (supervisor.watch peer) := by
  induction steps generalizing supervisor with
  | nil => rfl
  | cons first rest inductionHypothesis =>
    rw [perform_cons, inductionHypothesis, watch_step]
    cases meaning : first.signal? peer with
    | none => rw [signals, signals, List.filterMap_cons_none meaning, Option.elim_none]
    | some signal =>
      rw [signals, signals, List.filterMap_cons_some meaning, Option.elim_some, List.foldl_cons]

end

/-! ## Silence -/

/-- The peer whose reply a step handles. -/
def Step.replier? (step : Step T) : Option Peer :=
  (step.handled?.filter fun handled => handled.2.reply?.isSome).map Prod.fst

/-- Some steps handle no reply of a peer. -/
def Silent (peer : Peer) (steps : List (Step T)) : Prop := ∀ step ∈ steps, step.replier? ≠ some peer

instance (peer : Peer) (steps : List (Step T)) : Decidable (Silent peer steps) :=
  inferInstanceAs (Decidable (∀ step ∈ steps, _))

@[simp] theorem silent_nil : Silent peer ([] : List (Step T)) :=
  fun _ member => absurd member List.not_mem_nil

theorem silent_cons {first : Step T} {rest : List (Step T)} :
    Silent peer (first :: rest) ↔ first.replier? ≠ some peer ∧ Silent peer rest :=
  List.forall_mem_cons

theorem silent_append {first second : List (Step T)} :
    Silent peer (first ++ second) ↔ Silent peer first ∧ Silent peer second :=
  List.forall_mem_append

/-- Handling a reply is a signal of the peer that sent it. -/
theorem Step.replier?_eq_some_iff {step : Step T} :
    step.replier? = some peer ↔ ∃ now, step.signal? peer = some (.reply now) := by
  cases step with
  | call call => cases call <;> simp [replier?, handled?, signal?, Option.filter_some, and_comm]
  | handleReceived sender message now =>
    simp [replier?, handled?, signal?, Option.filter_some, and_comm]
  | _ => simp [replier?, handled?, signal?]

/-- A request is a signal to every peer, and nothing else is one. -/
theorem Step.signal?_eq_request_iff {step : Step T} {now : Instant} :
    step.signal? peer = some (.request now) ↔ step = .request now := by
  cases step with
  | call call => cases call <;> simp [signal?]
  | _ => simp [signal?]

theorem Step.signal?_eq_look_iff {step : Step T} {now : Instant} :
    step.signal? peer = some (.look now) ↔ step = .expire peer now := by
  cases step with
  | call call => cases call <;> simp [signal?]
  | expire other later => simp [signal?, and_comm]
  | _ => simp [signal?]

/-! ## Rounds of supervision -/

/-- Steps among which there is no status request. -/
def RequestFree (steps : List (Step T)) : Prop := ∀ step ∈ steps, ∀ now, step ≠ .request now

theorem signals_append (first second : List (Step T)) :
    signals peer (first ++ second) = signals peer first ++ signals peer second :=
  List.filterMap_append

variable [Transport T]

theorem mem_pumpSteps {step : Step T} {now : Instant} {other : Peer}
    (member : step ∈ supervisor.pumpSteps now other) :
    step = .receive other ∨ ∃ message, step = .handleReceived other message now := by
  rcases List.mem_cons.mp member with received | member
  · exact .inl received
  · obtain ⟨message, _, handled⟩ := List.mem_map.mp member
    exact .inr ⟨message, handled.symm⟩

/-- What is received in a round are replies at its time, or no signals. -/
theorem eq_reply_of_mem_signals_pumpSteps {signal : Signal} {now : Instant} {other : Peer}
    (member : signal ∈ signals peer (supervisor.pumpSteps now other)) : signal = .reply now := by
  obtain ⟨step, member, meaning⟩ := List.mem_filterMap.mp member
  rcases mem_pumpSteps member with rfl | ⟨message, rfl⟩
  · cases meaning
  · simp only [Step.signal?] at meaning
    split at meaning
    next => exact (Option.some.inj meaning).symm
    next => cases meaning

/-- Up to the status requests, a round receives, handles what it received, and looks at the
deadlines. -/
theorem mem_stepsBeforeRequest {step : Step T} {now : Instant}
    (member : step ∈ supervisor.stepsBeforeRequest now) :
    (∃ other, step = .receive other) ∨ (∃ other message, step = .handleReceived other message now) ∨
      ∃ other, step = .expire other now := by
  have pumped {supervisor : Supervisor T} {other : Peer}
      (member : step ∈ supervisor.pumpSteps now other) :
      (∃ other, step = .receive other) ∨ ∃ other message, step = .handleReceived other message now :=
    (mem_pumpSteps member).imp (⟨other, ·⟩) (⟨other, ·⟩)
  simp only [stepsBeforeRequest, List.mem_append, List.mem_cons, List.not_mem_nil, or_false]
    at member
  rcases member with (member | member) | rfl | rfl
  · exact (pumped member).imp_right .inl
  · exact (pumped member).imp_right .inl
  · exact .inr (.inr ⟨.motors, rfl⟩)
  · exact .inr (.inr ⟨.accelerometer, rfl⟩)

theorem requestFree_stepsBeforeRequest (now : Instant) :
    RequestFree (supervisor.stepsBeforeRequest now) := by
  intro step member later
  rcases mem_stepsBeforeRequest member with ⟨other, rfl⟩ | ⟨other, message, rfl⟩ | ⟨other, rfl⟩ <;>
    exact nofun

/-- Up to the status requests, a round is to a peer its replies and then a look at its
deadline. -/
theorem exists_signals_stepsBeforeRequest (now : Instant) :
    ∃ replies, signals peer (supervisor.stepsBeforeRequest now) = replies ++ [.look now] ∧
      ∀ signal ∈ replies, signal = .reply now := by
  have looks : signals peer [(.expire .motors now : Step T), .expire .accelerometer now] =
      [.look now] := by
    cases peer <;> rfl
  refine ⟨_, by rw [stepsBeforeRequest, signals_append, signals_append, looks], ?_⟩
  intro signal member
  rcases List.mem_append.mp member with member | member
  · exact eq_reply_of_mem_signals_pumpSteps member
  · exact eq_reply_of_mem_signals_pumpSteps member

theorem nextPoll_step {step : Step T} (noRequest : ∀ now, step ≠ .request now) :
    (supervisor.step step).nextPoll = supervisor.nextPoll := by
  have kept : ((supervisor.step step).watch .motors).nextPoll =
      (supervisor.watch .motors).nextPoll := by
    rw [watch_step]
    cases meaning : step.signal? .motors with
    | none => rfl
    | some signal =>
      cases signal with
      | request now => exact absurd (Step.signal?_eq_request_iff.mp meaning) (noRequest now)
      | _ => rfl
  exact kept

theorem nextPoll_perform {steps : List (Step T)} (requestFree : RequestFree steps) :
    (supervisor.perform steps).nextPoll = supervisor.nextPoll := by
  induction steps generalizing supervisor with
  | nil => rfl
  | cons first rest inductionHypothesis =>
    obtain ⟨noRequest, requestFree⟩ := List.forall_mem_cons.mp requestFree
    rw [perform_cons, inductionHypothesis requestFree, nextPoll_step noRequest]

/-- Whether a status request is due does not depend on what comes before it in a round. -/
theorem pollSteps_eq (now : Instant) :
    supervisor.pollSteps now =
      supervisor.stepsBeforeRequest now ++ if supervisor.isDue now then [.request now] else [] := by
  have due : (supervisor.perform (supervisor.stepsBeforeRequest now)).isDue now =
      supervisor.isDue now := by
    rw [isDue, isDue, nextPoll_perform (requestFree_stepsBeforeRequest now)]
  simp only [pollSteps, due]
  split
  next => rfl
  next => rw [List.append_nil]

/-- The time of a poll that is due. -/
def dueTime? (supervisor : Supervisor T) : Operation T → Option Instant
  | .poll now => if supervisor.isDue now then some now else none
  | .call _ => none

/-- The times of the polls that are due among some operations. -/
def duePolls (supervisor : Supervisor T) : List (Operation T) → List Instant
  | [] => []
  | first :: rest => (supervisor.dueTime? first).toList ++ (supervisor.operate first).duePolls rest

theorem duePolls_append (first second : List (Operation T)) :
    supervisor.duePolls (first ++ second) =
      supervisor.duePolls first ++ (supervisor.run first).duePolls second := by
  induction first generalizing supervisor with
  | nil => rfl
  | cons operation rest inductionHypothesis =>
    rw [List.cons_append, duePolls, duePolls, inductionHypothesis, List.append_assoc, run_cons]

end Supervisor

end OpticalLink
