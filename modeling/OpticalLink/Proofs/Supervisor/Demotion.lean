import OpticalLink.Proofs.Supervisor.Deadlines

/-!
# When a peer counts as gone

A peer that was asked and does not reply until its deadline is disconnected by the first
poll from then on, and nothing else disconnects a peer. The first half is carried by
`Supervisor.Awaited`, which silence keeps until the deadline has come; the second by
`Supervisor.Built.exists_due_poll`, which traces a deadline back to the poll that set it.
`Supervisor.demotion_after_unanswered_request` puts the two together.
-/

namespace OpticalLink.Supervisor

variable {T : Type} [Transport T]

variable {supervisor : Supervisor T} {peer : Peer}

/-! ## Silence -/

/-- Without a reply no step connects a peer. -/
theorem disconnected_step {step : Step T} (gone : supervisor.isConnected peer = false)
    (noReply : step.replier? ≠ some peer) : (supervisor.step step).isConnected peer = false := by
  show ((supervisor.step step).watch peer).liveness.connected = false
  have goneBefore : (supervisor.watch peer).liveness.connected = false := gone
  rw [watch_step]
  cases meaning : step.signal? peer with
  | none => exact gone
  | some signal =>
    cases signal with
    | reply now => exact absurd (Step.replier?_eq_some_iff.mpr ⟨now, meaning⟩) noReply
    | look now =>
      rw [Option.elim_some, Watch.follow, Liveness.connected_expire, goneBefore, Bool.false_and]
    | request now => exact Watch.connected_ask.trans gone
    | attached => exact gone
    | detached => exact gone

theorem disconnected_perform {steps : List (Step T)} (gone : supervisor.isConnected peer = false)
    (silent : Silent peer steps) : (supervisor.perform steps).isConnected peer = false := by
  induction steps generalizing supervisor with
  | nil => exact gone
  | cons first rest inductionHypothesis =>
    obtain ⟨noReply, silent⟩ := silent_cons.mp silent
    exact inductionHypothesis (disconnected_step gone noReply) silent

/-- A peer is gone already, or it has until the deadline to reply. -/
def Awaited (supervisor : Supervisor T) (peer : Peer) (deadline : Instant) : Prop :=
  supervisor.isConnected peer = false ∨ supervisor.deadline? peer = some deadline

/-- Without a reply a deadline stays set until it takes effect, and is not put off. -/
theorem Awaited.step {step : Step T} {deadline : Instant} (awaited : supervisor.Awaited peer deadline)
    (noReply : step.replier? ≠ some peer) : (supervisor.step step).Awaited peer deadline := by
  rcases awaited with gone | armed
  · exact .inl (disconnected_step gone noReply)
  · have armedBefore : (supervisor.watch peer).liveness.keepalive = some deadline := armed
    show ((supervisor.step step).watch peer).liveness.connected = false ∨
      ((supervisor.step step).watch peer).liveness.keepalive = some deadline
    rw [watch_step]
    cases meaning : step.signal? peer with
    | none => exact .inr armed
    | some signal =>
      cases signal with
      | reply now => exact absurd (Step.replier?_eq_some_iff.mpr ⟨now, meaning⟩) noReply
      | look now =>
        rw [Option.elim_some, Watch.follow, Liveness.connected_expire, Liveness.keepalive_expire,
          armedBefore, Option.all_some, Option.filter_some]
        cases decide (now < deadline)
        · exact .inl (Bool.and_false _)
        · exact .inr rfl
      | request now =>
        refine .inr (Watch.keepalive_ask.trans ?_)
        rw [armedBefore, Option.getD_some, ite_self]
      | attached => exact .inr armed
      | detached => exact .inr armed

theorem Awaited.perform {steps : List (Step T)} {deadline : Instant}
    (awaited : supervisor.Awaited peer deadline) (silent : Silent peer steps) :
    (supervisor.perform steps).Awaited peer deadline := by
  induction steps generalizing supervisor with
  | nil => exact awaited
  | cons first rest inductionHypothesis =>
    obtain ⟨noReply, silent⟩ := silent_cons.mp silent
    exact inductionHypothesis (awaited.step noReply) silent

/-! ## Looks at the deadline -/

/-- A look at the deadline disconnects a peer exactly if the deadline has come. -/
theorem isConnected_step_expire (now : Instant) :
    (supervisor.step (.expire peer now)).isConnected peer =
      (supervisor.isConnected peer && (supervisor.deadline? peer).all fun deadline =>
        now < deadline) := by
  show ((supervisor.step (.expire peer now)).watch peer).liveness.connected = _
  rw [watch_step, Step.signal?, if_pos rfl, Option.elim_some, Watch.follow,
    Liveness.connected_expire]
  rfl

/-- Every round looks at the deadline of every peer. -/
theorem exists_stepsBeforeRequest_eq (supervisor : Supervisor T) (peer : Peer) (now : Instant) :
    ∃ taken rest, supervisor.stepsBeforeRequest now = taken ++ .expire peer now :: rest := by
  cases peer with
  | motors => exact ⟨_, [.expire .accelerometer now], rfl⟩
  | accelerometer => exact ⟨_, [], List.append_cons _ _ _⟩

/-- A silent round at the deadline of a peer or later disconnects it. -/
theorem Awaited.poll {deadline now : Instant} (awaited : supervisor.Awaited peer deadline)
    (late : deadline ≤ now) (silent : Silent peer (supervisor.pollSteps now)) :
    (supervisor.poll now).isConnected peer = false := by
  obtain ⟨taken, rest, split⟩ := supervisor.exists_stepsBeforeRequest_eq peer now
  rw [← perform_pollSteps]
  rw [pollSteps_eq, split, List.append_assoc, List.cons_append] at silent ⊢
  obtain ⟨silentBefore, silent⟩ := silent_append.mp silent
  obtain ⟨-, silentAfter⟩ := silent_cons.mp silent
  rw [perform_append, perform_cons]
  refine disconnected_perform ?_ silentAfter
  rw [isConnected_step_expire]
  rcases awaited.perform silentBefore with gone | armed
  · rw [gone, Bool.false_and]
  · rw [armed, Option.all_some, decide_eq_false (Nat.not_lt.mpr late), Bool.and_false]

/-- A peer is disconnected by a look at a deadline that has come, and by nothing else. -/
theorem exists_deadline_of_disconnected {step : Step T} (connected : supervisor.isConnected peer = true)
    (gone : (supervisor.step step).isConnected peer = false) :
    ∃ now deadline, step = .expire peer now ∧ supervisor.deadline? peer = some deadline ∧
      deadline ≤ now := by
  have goneAfter : ((supervisor.step step).watch peer).liveness.connected = false := gone
  have kept (same : ((step.signal? peer).elim (supervisor.watch peer)
      (supervisor.watch peer).follow).liveness.connected = true) : False := by
    rw [← watch_step, goneAfter] at same
    cases same
  cases meaning : step.signal? peer with
  | none => exact (kept (by rw [meaning]; exact connected)).elim
  | some signal =>
    rw [meaning] at kept
    cases signal with
    | reply now => exact (kept (Liveness.connected_markSeen now)).elim
    | look now =>
      obtain rfl := Step.signal?_eq_look_iff.mp meaning
      rw [isConnected_step_expire, connected, Bool.true_and] at gone
      cases armed : supervisor.deadline? peer with
      | none =>
        rw [armed] at gone
        cases gone
      | some deadline =>
        rw [armed, Option.all_some, decide_eq_false_iff_not, Nat.not_lt] at gone
        exact ⟨now, deadline, rfl, rfl, gone⟩
    | request now => exact (kept (Watch.connected_ask.trans connected)).elim
    | attached => exact (kept connected).elim
    | detached => exact (kept connected).elim

/-! ## Where deadlines come from -/

/-- Whether a poll sends a status request to a peer, or tries to. -/
def Asks (supervisor : Supervisor T) (peer : Peer) (now : Instant) : Prop :=
  supervisor.isDue now = true ∧ (supervisor.slot peer).link.isSome

/-- What is received, and looks at deadlines, leave the links in their places. -/
theorem isSome_link_perform_stepsBeforeRequest (now : Instant) :
    ((supervisor.perform (supervisor.stepsBeforeRequest now)).slot peer).link.isSome =
      (supervisor.slot peer).link.isSome := by
  obtain ⟨replies, signals_eq, allReplies⟩ := @exists_signals_stepsBeforeRequest T supervisor peer _ now
  have kept (watch : Watch) : (replies.foldl Watch.follow watch).attached = watch.attached := by
    clear signals_eq
    induction replies generalizing watch with
    | nil => rfl
    | cons signal rest inductionHypothesis =>
      obtain ⟨rfl, restReplies⟩ := List.forall_mem_cons.mp allReplies
      rw [List.foldl_cons, inductionHypothesis restReplies]
      rfl
  show ((supervisor.perform (supervisor.stepsBeforeRequest now)).watch peer).attached = _
  rw [watch_perform, signals_eq, List.foldl_append]
  exact kept _

/-- A due poll gives a peer with a link until the end of its time to reply. -/
theorem Timely.deadline?_poll {last : Option Instant} (timely : supervisor.Timely last)
    (short : supervisor.settings.keepaliveTimeout < supervisor.settings.pollInterval)
    {now : Instant} (due : supervisor.isDue now = true) :
    (supervisor.poll now).deadline? peer =
      if (supervisor.slot peer).link.isSome then some (now + supervisor.settings.keepaliveTimeout)
      else none := by
  rw [← perform_pollSteps, pollSteps_eq, if_pos due, perform_append, perform_cons, perform_nil,
    deadline?_step_request, isSome_link_perform_stepsBeforeRequest,
    timely.deadline?_eq_none short due, settings_perform, Option.getD_none]

/-- A deadline that is set was set by a due poll that asked the peer, which has not replied
since. -/
theorem Built.exists_due_poll {store : Store} (built : Built store supervisor)
    {operations : List (Operation T)} {deadline : Instant}
    (armed : (supervisor.run operations).deadline? peer = some deadline) :
    ∃ earlier asked since, operations = earlier ++ .poll asked :: since ∧
      (supervisor.run earlier).Asks peer asked ∧
      deadline = asked + supervisor.settings.keepaliveTimeout ∧
      Silent peer ((supervisor.run (earlier ++ [.poll asked])).steps since) := by
  induction operations using List.reverseRecOn with
  | nil =>
    obtain ⟨settings, -, rfl⟩ := built.exists_settings
    cases peer <;> cases armed
  | append_singleton before operation inductionHypothesis =>
    -- An operation that sets no deadline found it set, and handled no reply.
    have earlier (requestFree : RequestFree ((supervisor.run before).operationSteps operation)) :
        ∃ earlier asked since, before ++ [operation] = earlier ++ .poll asked :: since ∧
          (supervisor.run earlier).Asks peer asked ∧
          deadline = asked + supervisor.settings.keepaliveTimeout ∧
          Silent peer ((supervisor.run (earlier ++ [.poll asked])).steps since) := by
      rw [run_append, run_cons, run_nil, ← perform_operationSteps] at armed
      obtain ⟨armedBefore, silent⟩ := armed_of_armed_perform requestFree armed
      obtain ⟨earlier, asked, since, rfl, asks, deadline_eq, silentSince⟩ :=
        inductionHypothesis armedBefore
      refine ⟨earlier, asked, since ++ [operation], by rw [List.append_assoc, List.cons_append],
        asks, deadline_eq, ?_⟩
      rw [List.append_cons, run_append] at silent
      rw [steps_append, silent_append, steps, steps, List.append_nil]
      exact ⟨silentSince, silent⟩
    cases operation with
    | call call =>
      refine earlier ?_
      intro step member now
      rw [List.mem_singleton.mp member]
      rintro ⟨⟩
    | poll now =>
      by_cases due : (supervisor.run before).isDue now = true
      · rw [run_append, run_cons, run_nil, operate,
          (built.timely_run before).deadline?_poll (built.short_run before) due] at armed
        split at armed
        next attached =>
          refine ⟨before, now, [], rfl, ⟨due, attached⟩, ?_, silent_nil⟩
          rw [← settings_run before]
          exact (Option.some.inj armed).symm
        next => cases armed
      · refine earlier ?_
        rw [operationSteps, pollSteps_eq, if_neg due, List.append_nil]
        exact requestFree_stepsBeforeRequest now

/-! ## Demotion -/

/-- Within a round nothing comes after the status requests. -/
theorem requestFree_of_pollSteps_eq {now : Instant} {taken rest : List (Step T)} {last : Step T}
    (steps_eq : supervisor.pollSteps now = taken ++ last :: rest) : RequestFree taken := by
  intro step member
  refine requestFree_stepsBeforeRequest now step (?_ : step ∈ supervisor.stepsBeforeRequest now)
  rw [pollSteps_eq] at steps_eq
  split at steps_eq
  next =>
    have dropped := congrArg List.dropLast steps_eq
    rw [List.dropLast_concat, List.dropLast_append_cons] at dropped
    rw [dropped]
    exact List.mem_append_left _ member
  next =>
    rw [List.append_nil] at steps_eq
    rw [steps_eq]
    exact List.mem_append_left _ member

theorem eq_of_expire_mem_pollSteps {now later : Instant}
    (member : .expire peer later ∈ supervisor.pollSteps now) : later = now := by
  rw [pollSteps_eq, List.mem_append] at member
  rcases member with member | member
  · rcases mem_stepsBeforeRequest member with ⟨_, same⟩ | ⟨_, _, same⟩ | ⟨_, same⟩
    · cases same
    · cases same
    · cases same
      rfl
  · split at member
    next => cases List.mem_singleton.mp member
    next => cases member

/-- A peer that a due poll asks, and that stays silent, is gone after every poll at its
deadline or later, and stays so until a reply. In turn, where a peer goes from connected to
disconnected, this is a poll at the deadline or later of an earlier due poll that asked it,
and the peer was silent from that request to the look at its deadline. -/
theorem demotion_after_unanswered_request {store : Store} (built : Built store supervisor)
    (peer : Peer) :
    (∀ earlier asked since now,
      (supervisor.run earlier).Asks peer asked →
      asked + supervisor.settings.keepaliveTimeout ≤ now →
      Silent peer ((supervisor.run (earlier ++ [.poll asked])).steps (since ++ [.poll now])) →
      let state := supervisor.run (earlier ++ .poll asked :: since ++ [.poll now])
      state.isConnected peer = false ∧
        ∀ operations taken rest, state.steps operations = taken ++ rest → Silent peer taken →
          (state.perform taken).isConnected peer = false) ∧
      ∀ operations operation taken step rest,
        let state := supervisor.run operations
        state.operationSteps operation = taken ++ step :: rest →
        (state.perform taken).isConnected peer = true →
        (state.perform (taken ++ [step])).isConnected peer = false →
        ∃ now, operation = .poll now ∧ step = .expire peer now ∧
          ∃ earlier asked since, operations = earlier ++ .poll asked :: since ∧
            (supervisor.run earlier).Asks peer asked ∧
            asked + supervisor.settings.keepaliveTimeout ≤ now ∧
            Silent peer
              ((supervisor.run (earlier ++ [.poll asked])).steps since ++ taken) := by
  constructor
  · intro earlier asked since now ⟨due, attached⟩ late silent state
    have awaited : (supervisor.run (earlier ++ [.poll asked])).Awaited peer
        (asked + supervisor.settings.keepaliveTimeout) := by
      refine .inr ?_
      rw [run_append, run_cons, run_nil, operate,
        (built.timely_run earlier).deadline?_poll (built.short_run earlier) due, if_pos attached,
        settings_run]
    rw [steps_append, silent_append, steps, steps, List.append_nil] at silent
    have gone : state.isConnected peer = false := by
      have awaitedThen := awaited.perform silent.1
      rw [perform_steps] at awaitedThen
      have state_eq : state = ((supervisor.run (earlier ++ [.poll asked])).run since).poll now := by
        rw [← run_append, List.append_assoc, List.singleton_append]
        exact run_append _ _ [.poll now]
      rw [state_eq]
      exact awaitedThen.poll late silent.2
    exact ⟨gone, fun operations taken rest _ silentThen => disconnected_perform gone silentThen⟩
  · intro operations operation taken step rest state steps_eq connected gone
    rw [perform_append] at gone
    obtain ⟨now, deadline, rfl, armed, late⟩ := exists_deadline_of_disconnected connected gone
    cases operation with
    | call call =>
      have member : Step.expire peer now ∈ [Step.call call] := by
        rw [show [Step.call call] = taken ++ .expire peer now :: rest from steps_eq]
        exact List.mem_append_right taken List.mem_cons_self
      cases List.mem_singleton.mp member
    | poll later =>
      have round : state.pollSteps later = taken ++ .expire peer now :: rest := steps_eq
      have member : .expire peer now ∈ state.pollSteps later := by
        rw [round]
        exact List.mem_append_right taken List.mem_cons_self
      obtain rfl := eq_of_expire_mem_pollSteps member
      obtain ⟨armedBefore, silent⟩ :=
        armed_of_armed_perform (requestFree_of_pollSteps_eq round) armed
      obtain ⟨earlier, asked, since, operations_eq, asks, rfl, silentSince⟩ :=
        built.exists_due_poll armedBefore
      exact ⟨now, rfl, rfl, earlier, asked, since, operations_eq, asks, late,
        silent_append.mpr ⟨silentSince, silent⟩⟩

/-- Without links a round that is not due looks at the deadlines and does nothing else. -/
theorem pollSteps_of_detached {now : Instant}
    (detached : ∀ peer, (supervisor.slot peer).link = none)
    (early : supervisor.isDue now = false) :
    supervisor.pollSteps now = [.receive .motors, .receive .accelerometer,
      .expire .motors now, .expire .accelerometer now] := by
  have idle (peer : Peer) : supervisor.receive peer = ([], supervisor) := by
    rw [receive, detached]
  have first : supervisor.pumpSteps now .motors = [.receive .motors] := by
    rw [pumpSteps, idle, List.map_nil]
  have second : (supervisor.step (.receive .motors)).pumpSteps now .accelerometer =
      [.receive .accelerometer] := by
    rw [step, idle, pumpSteps, idle, List.map_nil]
  rw [pollSteps_eq, early, stepsBeforeRequest, first, perform_cons, perform_nil, second]
  rfl

/-- The motors reply once and are then asked for their status. They stay silent, while the
other peer replies and their link is detached. The poll at their deadline disconnects them,
and not the one before. -/
theorem demotion_at_the_deadline :
    let supervisor := initial .memory .default
    let earlier : List Operation := [.call (.attach .motors (.new 1 1)),
      .call (.handle .motors (.ofReply .statusReport) 0)]
    let since : List Operation := [.call (.handle .accelerometer (.ofReply .statusReport) 100),
      .call (.detach .motors), .poll 499999]
    let operations := earlier ++ .poll 0 :: since
    Built .memory supervisor ∧ (supervisor.run operations).isConnected .motors = true ∧
      (supervisor.run (operations ++ [.poll 500000])).isConnected .motors = false ∧
      ∃ earlier asked since, operations = earlier ++ .poll asked :: since ∧
        (supervisor.run earlier).Asks .motors asked ∧ asked + 500000 ≤ 500000 ∧
        Silent .motors ((supervisor.run (earlier ++ [.poll asked])).steps since ++
          [.receive .motors, .receive .accelerometer]) := by
  intro supervisor earlier since operations
  have built : Built .memory supervisor := .inr ⟨.default, rfl⟩
  obtain ⟨demoted, traced⟩ := demotion_after_unanswered_request built .motors
  have connected : (supervisor.run operations).isConnected .motors = true := by decide +kernel
  have silent : Silent .motors ((supervisor.run (earlier ++ [.poll 0])).steps
    (since ++ [.poll 500000])) := by decide +kernel
  have asks : (supervisor.run earlier).Asks .motors 0 := ⟨by decide +kernel, by decide +kernel⟩
  obtain ⟨gone, -⟩ := demoted earlier 0 since 500000 asks (by decide) silent
  have round : (supervisor.run operations).operationSteps (.poll 500000) =
      [.receive .motors, .receive .accelerometer] ++
        .expire .motors 500000 :: [.expire .accelerometer 500000] := by
    have detached (peer : Peer) : ((supervisor.run operations).slot peer).link = none := by
      cases peer <;> decide +kernel
    rw [operationSteps, pollSteps_of_detached detached (by decide +kernel)]
    rfl
  obtain ⟨now, same, -, origin⟩ :=
    traced operations (.poll 500000) _ _ _ round (by decide +kernel) (by decide +kernel)
  cases same
  exact ⟨built, connected, gone, origin⟩

end OpticalLink.Supervisor
