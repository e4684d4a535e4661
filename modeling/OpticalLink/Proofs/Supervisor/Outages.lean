import OpticalLink.Proofs.Supervisor.Attempts

/-!
# Outages of a link

An outage is a series of rounds in which a link fails to receive, or to send. The supervisor keeps
one record for both, so an attempt of the other kind that works ends the outage in its eyes, and the
next failure is told again. `Supervisor.warnings_of_rounds` counts what is told for every course of
the two, whatever the transport.
-/

namespace OpticalLink

/-- What a round of supervision finds out about the link to a peer. -/
structure Round where
  receiveFailed : Bool
  /-- Whether the status request failed, if one was due. -/
  requestFailed : Option Bool
deriving DecidableEq, Repr

namespace Round

/-- The attempts of a round. -/
def attempts (round : Round) : List Attempt :=
  ⟨.receive, round.receiveFailed⟩ :: (round.requestFailed.map (Attempt.mk .request)).toList

/-- Whether a round received but could not send its request. -/
def onlyReceived (round : Round) : Bool :=
  !round.receiveFailed && round.requestFailed == some true

/-- Whether a round could not receive but sent its request. -/
def onlySent (round : Round) : Bool :=
  round.receiveFailed && round.requestFailed == some false

end Round

/-- Of what is told, the events of one kind are the attempts of one purpose. -/
theorem Attempt.count_event (peer : Peer) (purpose : Purpose) (attempts : List Attempt) :
    (attempts.map (Attempt.event peer)).count (Attempt.event peer ⟨purpose, true⟩) =
      attempts.countP fun attempt => attempt.purpose = purpose := by
  rw [List.count, List.countP_map]
  apply List.countP_congr
  rintro ⟨other, failed⟩ -
  cases other <;> cases purpose <;> simp [Attempt.event]

/-- A request is told exactly in the rounds that received but could not send. -/
theorem countP_request_warnings_rounds (failing : Bool) (rounds : List Round) :
    ((warnings failing (rounds.flatMap Round.attempts)).countP
        fun attempt => attempt.purpose = .request) = rounds.countP Round.onlyReceived := by
  induction rounds generalizing failing with
  | nil => rfl
  | cons first rest inductionHypothesis =>
    obtain ⟨receiveFailed, requestFailed⟩ := first
    rw [List.flatMap_cons, List.countP_cons]
    -- Receiving comes first in a round, so it alone decides whether a failed request is told.
    rcases requestFailed with _ | requestFailed
    · rw [← inductionHypothesis receiveFailed]
      cases receiveFailed <;> cases failing <;> rfl
    · rw [← inductionHypothesis requestFailed]
      cases receiveFailed <;> cases requestFailed <;> cases failing <;>
        simp [Round.attempts, Round.onlyReceived, warnings, Attempt.warning?]

/-- Of rounds that all fail to receive, the first is told, unless the attempt before it failed as
well, and so is every other one that comes after a request that was sent. -/
theorem countP_receive_warnings_rounds {rounds : List Round}
    (failed : ∀ round ∈ rounds, round.receiveFailed = true) (failing : Bool) :
    ((warnings failing (rounds.flatMap Round.attempts)).countP
        fun attempt => attempt.purpose = .receive) =
      (if failing || rounds.isEmpty then 0 else 1) + rounds.dropLast.countP Round.onlySent := by
  induction rounds generalizing failing with
  | nil => rw [List.isEmpty_nil, Bool.or_true]; rfl
  | cons first rest inductionHypothesis =>
    obtain ⟨firstFailed, restFailed⟩ := List.forall_mem_cons.mp failed
    obtain ⟨receiveFailed, requestFailed⟩ := first
    cases firstFailed
    -- What the first round leaves on record decides whether the second is told.
    have others : ((warnings true ((requestFailed.map (Attempt.mk .request)).toList ++
          rest.flatMap Round.attempts)).countP fun attempt => attempt.purpose = .receive) =
        ((warnings (requestFailed != some false) (rest.flatMap Round.attempts)).countP
          fun attempt => attempt.purpose = .receive) := by
      rcases requestFailed with _ | ⟨_ | _⟩ <;> rfl
    have told : ((warnings failing (Round.attempts ⟨true, requestFailed⟩ ++
          rest.flatMap Round.attempts)).countP fun attempt => attempt.purpose = .receive) =
        (if failing then 0 else 1) +
          ((warnings (requestFailed != some false) (rest.flatMap Round.attempts)).countP
            fun attempt => attempt.purpose = .receive) := by
      rw [← others, Round.attempts, List.cons_append, warnings, List.countP_append]
      cases failing <;> rfl
    rw [List.flatMap_cons, told, inductionHypothesis restFailed]
    cases rest with
    | nil => cases failing <;> simp
    | cons second rest =>
      rw [List.dropLast_cons_cons, List.countP_cons]
      rcases requestFailed with _ | ⟨_ | _⟩ <;> cases failing <;> simp [Round.onlySent] <;> omega

namespace Supervisor

variable {T : Type} [Transport T]

/-- The steps of a round of supervision that come before a peer is received from. -/
def stepsBeforeReceive (supervisor : Supervisor T) (now : Instant) : Peer → List (Step T)
  | .motors => []
  | .accelerometer => supervisor.pumpSteps now .motors

/-- What a round of supervision finds out about the link to a peer. -/
def round (supervisor : Supervisor T) (peer : Peer) (now : Instant) : Round :=
  let receiving := supervisor.perform (supervisor.stepsBeforeReceive now peer)
  let asking := supervisor.perform (supervisor.stepsBeforeRequest now)
  { receiveFailed := (receiving.slot peer).link.any Link.receiveFails
    requestFailed :=
      if supervisor.isDue now then
        some ((asking.slot peer).link.any fun link => link.sendFails asking.statusRequest)
      else none }

/-- The rounds of supervision among some operations. -/
def rounds (supervisor : Supervisor T) (peer : Peer) : List (Operation T) → List Round
  | [] => []
  | .call inner :: rest => (supervisor.call inner).rounds peer rest
  | .poll now :: rest => supervisor.round peer now :: (supervisor.poll now).rounds peer rest

variable {supervisor : Supervisor T} {peer : Peer}

/-! ## The attempts of a round -/

theorem attempts_append (first second : List (Step T)) :
    supervisor.attempts peer (first ++ second) =
      supervisor.attempts peer first ++ (supervisor.perform first).attempts peer second := by
  induction first generalizing supervisor with
  | nil => rfl
  | cons step rest inductionHypothesis =>
    rw [List.cons_append, attempts, attempts, inductionHypothesis, List.append_assoc, perform_cons]

/-- What is received is handled without another attempt. -/
theorem attempts_pumpSteps (now : Instant) (other : Peer) :
    supervisor.attempts peer (supervisor.pumpSteps now other) =
      (supervisor.attempt? peer (.receive other)).toList := by
  have handled (messages : List Message) (supervisor : Supervisor T) :
      supervisor.attempts peer (messages.map fun message => .handleReceived other message now) =
        [] := by
    induction messages generalizing supervisor with
    | nil => rfl
    | cons first rest inductionHypothesis =>
      rw [List.map_cons, attempts, inductionHypothesis, List.append_nil, attempt?,
        Option.toList_eq_nil_iff]
      exact Option.bind_fun_none _
  rw [pumpSteps, attempts, handled, List.append_nil]

/-! ## Runs that keep a link -/

/-- No step of a round gives a peer another link or takes its link away. -/
theorem relinks_of_mem_stepsBeforeRequest {step : Step T} {now : Instant}
    (member : step ∈ supervisor.stepsBeforeRequest now) : step.relinks peer = false := by
  rcases mem_stepsBeforeRequest member with ⟨other, rfl⟩ | ⟨other, message, rfl⟩ | ⟨other, rfl⟩ <;>
    rfl

theorem relinks_of_mem_stepsBeforeReceive {step : Step T} {now : Instant}
    (member : step ∈ supervisor.stepsBeforeReceive now peer) : step.relinks peer = false := by
  cases peer with
  | motors => cases member
  | accelerometer =>
    have early : step ∈ supervisor.stepsBeforeRequest now :=
      List.mem_append_left _ (List.mem_append_left _ member)
    exact relinks_of_mem_stepsBeforeRequest early

theorem relinks_of_mem_operationSteps {operation : Operation T} {step : Step T}
    (kept : operation.relinks peer = false) (member : step ∈ supervisor.operationSteps operation) :
    step.relinks peer = false := by
  cases operation with
  | call inner =>
    rw [List.mem_singleton.mp member]
    exact kept
  | poll now =>
    rw [operationSteps, pollSteps_eq] at member
    rcases List.mem_append.mp member with member | member
    · exact relinks_of_mem_stepsBeforeRequest member
    · split at member
      next =>
        rw [List.mem_singleton.mp member]
        rfl
      next => cases member

theorem relinks_of_mem_steps {operations : List (Operation T)}
    (kept : ∀ operation ∈ operations, operation.relinks peer = false) :
    ∀ step ∈ supervisor.steps operations, step.relinks peer = false := by
  induction operations generalizing supervisor with
  | nil => exact nofun
  | cons first rest inductionHypothesis =>
    obtain ⟨firstKept, restKept⟩ := List.forall_mem_cons.mp kept
    intro step member
    rcases List.mem_append.mp member with member | member
    · exact relinks_of_mem_operationSteps firstKept member
    · exact inductionHypothesis restKept step member

theorem isSome_link_step {step : Step T} (kept : step.relinks peer = false) :
    ((supervisor.step step).slot peer).link.isSome = (supervisor.slot peer).link.isSome := by
  show ((supervisor.step step).watch peer).attached = (supervisor.watch peer).attached
  rw [watch_step]
  cases step with
  | call inner =>
    cases inner with
    | attach other channel => rw [Step.signal?, if_neg (of_decide_eq_false kept), Option.elim_none]
    | detach other => rw [Step.signal?, if_neg (of_decide_eq_false kept), Option.elim_none]
    | handle other message now => simp only [Step.signal?]; split <;> rfl
    | _ => rfl
  | receive other => rfl
  | handleReceived other message now => simp only [Step.signal?]; split <;> rfl
  | expire other now => simp only [Step.signal?]; split <;> rfl
  | request now => rfl

theorem isSome_link_perform {steps : List (Step T)}
    (kept : ∀ step ∈ steps, step.relinks peer = false) :
    ((supervisor.perform steps).slot peer).link.isSome = (supervisor.slot peer).link.isSome := by
  induction steps generalizing supervisor with
  | nil => rfl
  | cons first rest inductionHypothesis =>
    obtain ⟨firstKept, restKept⟩ := List.forall_mem_cons.mp kept
    rw [perform_cons, inductionHypothesis restKept, isSome_link_step firstKept]

/-- Steps that are not about a link leave a peer a link. -/
theorem exists_link_perform {steps : List (Step T)} {link : Link T}
    (kept : ∀ step ∈ steps, step.relinks peer = false)
    (attached : (supervisor.slot peer).link = some link) :
    ∃ after, ((supervisor.perform steps).slot peer).link = some after := by
  rw [← Option.isSome_iff_exists, isSome_link_perform kept, attached]
  rfl

/-- An operation leaves a peer a link unless it is about this link. -/
theorem exists_link_operate {link : Link T} {operation : Operation T}
    (kept : operation.relinks peer = false) (attached : (supervisor.slot peer).link = some link) :
    ∃ after, ((supervisor.operate operation).slot peer).link = some after := by
  rw [← perform_operationSteps]
  exact exists_link_perform (fun step => relinks_of_mem_operationSteps kept) attached

/-- Over a link, a round makes the attempts about which it finds out. -/
theorem attempts_pollSteps {link : Link T} (attached : (supervisor.slot peer).link = some link)
    (now : Instant) :
    supervisor.attempts peer (supervisor.pollSteps now) = (supervisor.round peer now).attempts := by
  have receivingKept : ∀ step ∈ supervisor.stepsBeforeReceive now peer,
      step.relinks peer = false := fun _ => relinks_of_mem_stepsBeforeReceive
  have askingKept : ∀ step ∈ supervisor.stepsBeforeRequest now, step.relinks peer = false :=
    fun _ => relinks_of_mem_stepsBeforeRequest
  obtain ⟨receiving, receivingAttached⟩ := exists_link_perform receivingKept attached
  obtain ⟨asking, askingAttached⟩ := exists_link_perform askingKept attached
  have received : supervisor.attempts peer (supervisor.stepsBeforeRequest now) =
      [⟨.receive, receiving.receiveFails⟩] := by
    rw [stepsBeforeRequest, attempts_append, attempts_append, attempts_pumpSteps,
      attempts_pumpSteps]
    cases peer with
    | motors =>
      have same : link = receiving := Option.some.inj (attached.symm.trans receivingAttached)
      simp [attempt?, Step.attempt?, attached, attempts, same]
    | accelerometer =>
      rw [stepsBeforeReceive] at receivingAttached
      simp [attempt?, Step.attempt?, receivingAttached, attempts]
  have asked : (supervisor.perform (supervisor.stepsBeforeRequest now)).attempts peer
      (if supervisor.isDue now then [.request now] else []) =
      ((supervisor.round peer now).requestFailed.map (Attempt.mk .request)).toList := by
    rw [round]
    split
    next =>
      rw [attempts, attempts, List.append_nil, attempt?, askingAttached]
      rfl
    next => rfl
  rw [pollSteps_eq, attempts_append, received, asked, Round.attempts, round, receivingAttached]
  rfl

/-- Over a link that is kept, a run makes the attempts about which its rounds find out. -/
theorem attempts_steps {link : Link T} {operations : List (Operation T)}
    (attached : (supervisor.slot peer).link = some link)
    (kept : ∀ operation ∈ operations, operation.relinks peer = false) :
    supervisor.attempts peer (supervisor.steps operations) =
      (supervisor.rounds peer operations).flatMap Round.attempts := by
  induction operations generalizing supervisor link with
  | nil => rfl
  | cons first rest inductionHypothesis =>
    obtain ⟨firstKept, restKept⟩ := List.forall_mem_cons.mp kept
    obtain ⟨after, stillAttached⟩ := exists_link_operate firstKept attached
    rw [steps, attempts_append, perform_operationSteps, inductionHypothesis stillAttached restKept]
    cases first with
    | call inner =>
      have untried : supervisor.attempt? peer (.call inner) = none := Option.bind_fun_none _
      rw [operationSteps, attempts, attempts, untried]
      rfl
    | poll now =>
      rw [operationSteps, attempts_pollSteps attached, rounds, List.flatMap_cons]
      rfl

/-- While a peer keeps a link, over whatever transport, the attempts told are the failed ones that
come after one that worked, where those to receive and those to send a request make one series. So
a request that fails is told exactly if its round has received, however many requests failed before.
And of rounds that all fail to receive, the first is told, and another one exactly if the request
of the round before it was sent. -/
theorem warnings_of_rounds {link : Link T} {operations : List (Operation T)}
    (attached : (supervisor.slot peer).link = some link)
    (kept : ∀ operation ∈ operations, operation.relinks peer = false) :
    let rounds := supervisor.rounds peer operations
    ∃ told, (supervisor.run operations).told (.link peer) = supervisor.told (.link peer) ++ told ∧
      told = (warnings link.failing (rounds.flatMap Round.attempts)).map (Attempt.event peer) ∧
      told.count (.requestFailed peer) = rounds.countP Round.onlyReceived ∧
      ((∀ round ∈ rounds, round.receiveFailed = true) →
        told.count (.receiveFailed peer) =
          (if link.failing || rounds.isEmpty then 0 else 1) +
            rounds.dropLast.countP Round.onlySent) := by
  intro rounds
  have told : (supervisor.perform (supervisor.steps operations)).told (.link peer) = _ :=
    told_link_perform (relinks_of_mem_steps kept)
  have failing : supervisor.failing peer = link.failing := by
    rw [Supervisor.failing, attached]
    rfl
  rw [perform_steps, attempts_steps attached kept, failing] at told
  refine ⟨_, told, rfl, ?_, fun failed => ?_⟩
  · exact (Attempt.count_event peer .request _).trans (countP_request_warnings_rounds _ _)
  · exact (Attempt.count_event peer .receive _).trans (countP_receive_warnings_rounds failed _)

/-- A line that cannot be read takes two requests, and each failure to receive is told. Then the
line is silent and takes no request, and each failure to send is told. -/
theorem warnings_of_rounds_serial_line :
    let fault : IoFault := ⟨.other, "Input/output error (os error 5)"⟩
    let silence : IoFault := ⟨.timedOut, "Operation timed out"⟩
    let line : SerialLine :=
      ⟨[.error fault, .error fault, .error silence], [.ok (), .ok (), .error fault, .error fault]⟩
    let supervisor := (initial .memory .default SerialLine).run [.call (.attach .motors line)]
    let operations := [.poll 0, .poll 1000000, .poll 2000000, .poll 3000000]
    supervisor.rounds .motors operations = [⟨true, some false⟩, ⟨true, some false⟩,
        ⟨false, some true⟩, ⟨false, some true⟩] ∧
      (supervisor.run operations).told (.link .motors) = [.receiveFailed .motors,
        .receiveFailed .motors, .requestFailed .motors, .requestFailed .motors] := by
  intro fault silence line supervisor operations
  have rounds_eq : supervisor.rounds .motors operations = [⟨true, some false⟩,
      ⟨true, some false⟩, ⟨false, some true⟩, ⟨false, some true⟩] := by decide +kernel
  have attached : (supervisor.slot .motors).link = some (Link.new line) := rfl
  have untold : supervisor.told (.link .motors) = [] := by decide +kernel
  have kept : ∀ operation ∈ operations, operation.relinks .motors = false := by
    simp [operations, Operation.relinks]
  obtain ⟨told, told_eq, warnings_eq, -⟩ := warnings_of_rounds attached kept
  rw [rounds_eq] at warnings_eq
  rw [untold, warnings_eq] at told_eq
  exact ⟨rounds_eq, told_eq⟩

/-- The link to the motors is attached, and its writes begin to fail. Two requests in a row fail,
with no write between them that works, and both are told. Over a line that cannot be read but
written, two attempts in a row to receive fail, and both are told. -/
theorem outages_told_again :
    (let broken := (Channel.new 4096 4096).setFailWrites .left true
      let supervisor := (initial .memory .default).run
        [.call (.attach .motors (.new 4096 4096)), .call (.disturb .motors broken)]
      let operations := [.poll 0, .poll 1000000]
      (supervisor.rounds .motors operations).map Round.requestFailed = [some true, some true] ∧
        (supervisor.run operations).journal.count (.requestFailed .motors) = 2) ∧
      let fault : IoFault := ⟨.other, "Input/output error (os error 5)"⟩
      let supervisor := (initial .memory .default SerialLine).run
        [.call (.attach .motors ⟨[.error fault, .error fault], []⟩)]
      let operations := [.poll 0, .poll 1000000]
      (supervisor.rounds .motors operations).map Round.receiveFailed = [true, true] ∧
        (supervisor.run operations).journal.count (.receiveFailed .motors) = 2 := by
  decide +kernel

end Supervisor

end OpticalLink
