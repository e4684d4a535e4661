import Mathlib.Data.List.Induction
import OpticalLink.Proofs.Supervisor.Watch

/-!
# Deadlines

A due poll gives the peers that it asks `keepaliveTimeout` to reply, which is shorter than
the time to the next status request. A deadline that is still set when this request is due
has therefore come, and the look at the deadlines in the same round clears it before the
peers are asked again. `Supervisor.Timely` is the invariant behind this, and
`Supervisor.deadline_of_last_due_poll` says that no peer is ever asked twice for one reply.
-/

namespace OpticalLink

/-- Valid settings leave time between a deadline and the next status request. -/
theorem Settings.keepaliveTimeout_lt {settings : Settings} (valid : settings.validate = .ok ()) :
    settings.keepaliveTimeout < settings.pollInterval := by
  by_contra late
  rw [Nat.not_lt] at late
  simp only [validate, late, if_true] at valid
  split at valid
  next => cases valid
  next =>
    split at valid
    next => cases valid
    next => cases valid

namespace Supervisor

variable {T : Type} [Transport T]

variable {supervisor : Supervisor T} {peer : Peer}

/-- When the deadline of a peer has come, if one is set. -/
def deadline? (supervisor : Supervisor T) (peer : Peer) : Option Instant :=
  (supervisor.slot peer).liveness.keepalive

/-- Only a request sets a deadline, and a reply clears it. -/
theorem armed_of_armed_step {step : Step T} (noRequest : ∀ now, step ≠ .request now)
    {deadline : Instant} (armed : (supervisor.step step).deadline? peer = some deadline) :
    supervisor.deadline? peer = some deadline ∧ step.replier? ≠ some peer := by
  have followed : ((step.signal? peer).elim (supervisor.watch peer)
      (supervisor.watch peer).follow).liveness.keepalive = some deadline := by
    rw [← watch_step]
    exact armed
  rw [Ne, Step.replier?_eq_some_iff]
  cases meaning : step.signal? peer with
  | none =>
    rw [meaning] at followed
    exact ⟨followed, nofun⟩
  | some signal =>
    rw [meaning] at followed
    cases signal with
    | reply now =>
      rw [Option.elim_some, Watch.follow, Liveness.keepalive_markSeen] at followed
      cases followed
    | look now =>
      rw [Option.elim_some, Watch.follow, Liveness.keepalive_expire,
        Option.filter_eq_some_iff] at followed
      exact ⟨followed.1, nofun⟩
    | request now => exact absurd (Step.signal?_eq_request_iff.mp meaning) (noRequest now)
    | attached => exact ⟨followed, nofun⟩
    | detached => exact ⟨followed, nofun⟩

theorem armed_of_armed_perform {steps : List (Step T)} (requestFree : RequestFree steps)
    {deadline : Instant} (armed : (supervisor.perform steps).deadline? peer = some deadline) :
    supervisor.deadline? peer = some deadline ∧ Silent peer steps := by
  induction steps generalizing supervisor with
  | nil => exact ⟨armed, silent_nil⟩
  | cons first rest inductionHypothesis =>
    obtain ⟨noRequest, requestFree⟩ := List.forall_mem_cons.mp requestFree
    obtain ⟨armedThen, silent⟩ := inductionHypothesis requestFree armed
    obtain ⟨armedBefore, noReply⟩ := armed_of_armed_step noRequest armedThen
    exact ⟨armedBefore, silent_cons.mpr ⟨noReply, silent⟩⟩

/-- A deadline that is set after the look at it is still to come. -/
theorem lt_of_armed_perform_stepsBeforeRequest {now deadline : Instant}
    (armed : (supervisor.perform (supervisor.stepsBeforeRequest now)).deadline? peer =
      some deadline) : now < deadline := by
  obtain ⟨replies, signals_eq, _⟩ := @exists_signals_stepsBeforeRequest T supervisor peer _ now
  have looked : (((replies.foldl Watch.follow (supervisor.watch peer)).liveness.expire
      now).2).keepalive = some deadline := by
    rw [← armed]
    show _ = ((supervisor.perform (supervisor.stepsBeforeRequest now)).watch peer).liveness.keepalive
    rw [watch_perform, signals_eq, List.foldl_append]
    rfl
  rw [Liveness.keepalive_expire, Option.filter_eq_some_iff] at looked
  exact of_decide_eq_true looked.2

theorem settings_perform (steps : List (Step T)) :
    (supervisor.perform steps).settings = supervisor.settings := by
  have kept (watch : Watch) (signals : List Signal) :
      (signals.foldl Watch.follow watch).settings = watch.settings := by
    induction signals generalizing watch with
    | nil => rfl
    | cons signal rest inductionHypothesis =>
      rw [List.foldl_cons, inductionHypothesis]
      cases signal <;> rfl
  show ((supervisor.perform steps).watch .motors).settings = _
  rw [watch_perform, kept]
  rfl

theorem settings_run (operations : List (Operation T)) :
    (supervisor.run operations).settings = supervisor.settings := by
  rw [← perform_steps, settings_perform]

/-- A request sets the deadline of every peer with a link, unless one is set. -/
theorem deadline?_step_request (now : Instant) :
    (supervisor.step (.request now)).deadline? peer =
      if (supervisor.slot peer).link.isSome then
        some ((supervisor.deadline? peer).getD (now + supervisor.settings.keepaliveTimeout))
      else supervisor.deadline? peer := by
  show ((supervisor.step (.request now)).watch peer).liveness.keepalive = _
  rw [watch_step]
  exact Watch.keepalive_ask

/-- When the last due poll was decides about the next one and about all deadlines. -/
structure Timely (supervisor : Supervisor T) (last : Option Instant) : Prop where
  nextPoll_eq : supervisor.nextPoll = last.map (· + supervisor.settings.pollInterval)
  deadline_eq : ∀ peer deadline, supervisor.deadline? peer = some deadline →
    last.map (· + supervisor.settings.keepaliveTimeout) = some deadline

variable {last : Option Instant}

omit [Transport T] in
theorem timely_initial (store : Store) (settings : Settings) :
    (initial store settings T).Timely none where
  nextPoll_eq := rfl
  deadline_eq := by
    intro peer deadline armed
    cases peer <;> cases armed

/-- Deadlines and the next poll stay as they are until the next request, or are cleared. -/
theorem Timely.perform (timely : supervisor.Timely last) {steps : List (Step T)}
    (requestFree : RequestFree steps) : (supervisor.perform steps).Timely last where
  nextPoll_eq := by rw [nextPoll_perform requestFree, settings_perform, timely.nextPoll_eq]
  deadline_eq := by
    intro peer deadline armed
    rw [settings_perform]
    exact timely.deadline_eq peer deadline (armed_of_armed_perform requestFree armed).1

/-- When a request is due, the deadlines of the last one have come. -/
theorem Timely.deadline?_eq_none (timely : supervisor.Timely last)
    (short : supervisor.settings.keepaliveTimeout < supervisor.settings.pollInterval)
    {now : Instant} (due : supervisor.isDue now = true) :
    (supervisor.perform (supervisor.stepsBeforeRequest now)).deadline? peer = none := by
  rw [Option.eq_none_iff_forall_ne_some]
  intro deadline armed
  have early : now < deadline := lt_of_armed_perform_stepsBeforeRequest armed
  have armedBefore := (armed_of_armed_perform (requestFree_stepsBeforeRequest now) armed).1
  obtain ⟨asked, rfl, rfl⟩ := Option.map_eq_some_iff.mp
    (timely.deadline_eq peer deadline armedBefore)
  rw [isDue, timely.nextPoll_eq] at due
  refine Nat.lt_irrefl now ?_
  calc now
    _ < asked + supervisor.settings.keepaliveTimeout := early
    _ < asked + supervisor.settings.pollInterval := Nat.add_lt_add_left short asked
    _ ≤ now := of_decide_eq_true due

/-- A request sets deadlines after its own time alone, if none is set before it. -/
theorem Timely.request {now : Instant} (unarmed : ∀ peer, supervisor.deadline? peer = none) :
    (supervisor.step (.request now)).Timely (some now) where
  nextPoll_eq := by
    rw [show (supervisor.step (.request now)).settings = supervisor.settings from
      settings_perform [.request now]]
    rfl
  deadline_eq := by
    intro peer deadline armed
    rw [deadline?_step_request, unarmed] at armed
    rw [show (supervisor.step (.request now)).settings = supervisor.settings from
      settings_perform [.request now]]
    split at armed
    next => exact armed
    next => cases armed

/-- An operation keeps the deadlines timely. -/
theorem Timely.operate (timely : supervisor.Timely last)
    (short : supervisor.settings.keepaliveTimeout < supervisor.settings.pollInterval)
    (operation : Operation T) :
    (supervisor.operate operation).Timely ((supervisor.dueTime? operation).or last) := by
  rw [← perform_operationSteps]
  cases operation with
  | call call =>
    refine timely.perform ?_
    intro step member now
    rw [List.mem_singleton.mp member]
    exact nofun
  | poll now =>
    rw [operationSteps, pollSteps_eq, dueTime?]
    split
    next due =>
      rw [perform_append]
      exact Timely.request fun peer => timely.deadline?_eq_none short due
    next early =>
      rw [List.append_nil]
      exact timely.perform (requestFree_stepsBeforeRequest now)

/-- Throughout a run, there is time between a deadline and the next status request. -/
theorem Built.short_run {store : Store} (built : Built store supervisor)
    (operations : List (Operation T)) :
    (supervisor.run operations).settings.keepaliveTimeout <
      (supervisor.run operations).settings.pollInterval := by
  obtain ⟨settings, valid, rfl⟩ := built.exists_settings
  rw [settings_run]
  exact Settings.keepaliveTimeout_lt valid

/-- Deadlines are timely throughout a run. -/
theorem Built.timely_run {store : Store} (built : Built store supervisor)
    (operations : List (Operation T)) :
    (supervisor.run operations).Timely (supervisor.duePolls operations).getLast? := by
  induction operations using List.reverseRecOn with
  | nil =>
    obtain ⟨settings, -, rfl⟩ := built.exists_settings
    exact timely_initial store settings
  | append_singleton before operation inductionHypothesis =>
    have last_eq : ((supervisor.run before).duePolls [operation]).getLast? =
        (supervisor.run before).dueTime? operation := by
      rw [duePolls, duePolls, List.append_nil]
      cases (supervisor.run before).dueTime? operation <;> rfl
    rw [run_append, duePolls_append, List.getLast?_append, last_eq]
    exact inductionHypothesis.operate (built.short_run before) operation

/-- Asking other peers leaves the deadline of a peer. -/
theorem deadline?_foldl_requestFrom {request : Message} {deadline : Instant} {asked : List Peer}
    (absent : peer ∉ asked) :
    (asked.foldl (requestFrom request deadline) supervisor).deadline? peer =
      supervisor.deadline? peer := by
  induction asked generalizing supervisor with
  | nil => rfl
  | cons first rest inductionHypothesis =>
    rw [List.mem_cons, not_or] at absent
    rw [List.foldl_cons, inductionHypothesis absent.2]
    show ((requestFrom request deadline supervisor first).watch peer).liveness.keepalive = _
    rw [watch_requestFrom, if_neg (Ne.symm absent.1)]
    rfl

/-- After any run, a deadline that is set is that of the last due poll, and lies before the
next one. When a poll is due, none is left by the time that the peers are asked, whichever
of them is next, so that each request sets a deadline of its own. -/
theorem deadline_of_last_due_poll {store : Store} (built : Built store supervisor)
    (operations : List (Operation T)) :
    let state := supervisor.run operations
    (∀ peer deadline, state.deadline? peer = some deadline →
      ∃ asked next, (supervisor.duePolls operations).getLast? = some asked ∧
        deadline = asked + supervisor.settings.keepaliveTimeout ∧
        state.nextPoll = some next ∧ deadline < next) ∧
      ∀ now, state.isDue now = true →
        let ready := state.perform (state.stepsBeforeRequest now)
        let request := requestFrom ready.statusRequest (now + ready.settings.keepaliveTimeout)
        state.poll now = { Peer.all.foldl request ready with
          nextPoll := some (now + supervisor.settings.pollInterval) } ∧
        ∀ earlier peer later, Peer.all = earlier ++ peer :: later →
          (earlier.foldl request ready).deadline? peer = none := by
  intro state
  have timely := built.timely_run operations
  have settings_eq : state.settings = supervisor.settings := settings_run operations
  have short := built.short_run operations
  constructor
  · intro peer deadline armed
    obtain ⟨asked, last_eq, rfl⟩ := Option.map_eq_some_iff.mp
      (timely.deadline_eq peer deadline armed)
    refine ⟨asked, asked + state.settings.pollInterval, last_eq, by rw [← settings_eq], ?_, ?_⟩
    · rw [timely.nextPoll_eq, last_eq]
      rfl
    · exact Nat.add_lt_add_left short asked
  · intro now due ready request
    constructor
    · rw [← perform_pollSteps, pollSteps_eq, if_pos due, perform_append, ← settings_eq]
      have ready_settings : ready.settings = state.settings := settings_perform _
      rw [← ready_settings]
      rfl
    · intro earlier peer later peers_eq
      have distinct : (earlier ++ peer :: later).Nodup := peers_eq ▸ by decide
      have absent : peer ∉ earlier := fun member =>
        (List.nodup_append.mp distinct).2.2 peer member peer List.mem_cons_self rfl
      rw [deadline?_foldl_requestFrom absent]
      exact timely.deadline?_eq_none short due

/-- The clock jumps back after a due poll, and one peer has replied to it. The deadline of
the other is kept, and is gone when the next poll is due, however late. -/
theorem deadline_of_last_due_poll_clock_jump :
    let channel := Channel.new 1 1
    let operations : List Operation := [.call (.attach .motors channel),
      .call (.attach .accelerometer channel), .poll 0, .poll 5000000,
      .call (.handle .motors (.ofReply .errorReport) 5000100), .poll 200]
    let state := (initial .memory .default).run operations
    Built .memory (initial .memory .default) ∧
      state.deadline? .accelerometer = some 5500000 ∧
      (∃ next, state.nextPoll = some next ∧ 5500000 < next) ∧
      (state.perform (state.stepsBeforeRequest 7000000)).deadline? .accelerometer = none := by
  intro channel operations state
  have built : Built .memory (initial .memory .default) := .inr ⟨.default, rfl⟩
  have armed : state.deadline? .accelerometer = some 5500000 := by decide +kernel
  obtain ⟨set, ready⟩ := deadline_of_last_due_poll built operations
  obtain ⟨asked, next, _, _, next_eq, early⟩ := set .accelerometer 5500000 armed
  obtain ⟨_, unarmed⟩ := ready 7000000 (by decide +kernel)
  have unasked := unarmed [.motors] .accelerometer [] rfl
  rw [deadline?_foldl_requestFrom (by decide)] at unasked
  exact ⟨built, armed, ⟨next, next_eq, early⟩, unasked⟩

end Supervisor

end OpticalLink
