import OpticalLink.Proofs.Link.Requests
import OpticalLink.Proofs.Supervisor.Cadence
import OpticalLink.Proofs.Supervisor.Readings
import OpticalLink.Proofs.Supervisor.Uses

/-!
# Status requests

A due poll asks both peers with one and the same message. It carries the latest receive power that
the motors have reported or the transceiver has shown, the messages of the same poll included, and
nothing but the command where no power is known. `Supervisor.status_requests` joins this with the
cadence of the polls and with the one use that each link is put to. Neither a missing nor a broken
link of one peer has a part in what the other is asked.
-/

namespace OpticalLink

/-! ## The power that is known -/

/-- The receive power in wire units that becomes known. -/
def Notice.reading? : Notice → Option UInt16
  | .report message => message.powerReading?
  | .measure transceiver => some transceiver.rxReading
  | _ => none

theorem Picture.lastPower_learn (picture : Picture) (notice : Notice) :
    (picture.learn notice).lastPower = notice.reading?.or picture.lastPower := by
  cases notice with
  | report message =>
    have heard : (picture.hear message).lastPower = message.powerReading?.or picture.lastPower :=
      Option.orElse_eq_or
    rw [learn, Notice.reading?, ← heard]
    cases message.motorPosition? <;> rfl
  | _ => rfl

namespace Supervisor

/-- The bytes of the receive power that a step shows: those that a status report of the motors
carries, or the power of the transceiver when it is read. -/
def Step.powerBytes? : Step → Option Bytes
  | .call (.updateTransceiver transceiver) => some (BigEndian.bytes16 transceiver.rxReading)
  | step => step.reported? [.motors] .powerReading 2

/-- The bytes of the latest receive power in some steps. -/
def latestPower (steps : List Step) : Option Bytes := (steps.filterMap Step.powerBytes?).getLast?

/-- The power that a step makes known is written with the bytes that it shows. -/
theorem Step.map_reading? (step : Step) :
    (step.notice?.bind Notice.reading?).map BigEndian.bytes16 = step.powerBytes? := by
  have shown (peer : Peer) (message : Message) :
      ((message.notice? peer).bind Notice.reading?).map BigEndian.bytes16 =
        if peer ∈ [Peer.motors] then message.reported? .powerReading 2 else none := by
    rw [message.bind_of_report Message.powerReading? (fun _ => rfl) (fun _ => rfl) (fun _ => rfl),
      ← message.map_reported? readsFront_number16]
    rfl
  cases step with
  | call call =>
    cases call with
    | handle peer message now => exact shown peer message
    | _ => rfl
  | handleReceived peer message now => exact shown peer message
  | _ => rfl

variable {supervisor : Supervisor} {peer : Peer}

/-- The power for the next request is the latest that some steps have shown, or what it was. -/
theorem lastPower_latest (steps : List Step) :
    (supervisor.perform steps).lastPower.map BigEndian.bytes16 =
      (latestPower steps).or (supervisor.lastPower.map BigEndian.bytes16) := by
  have known : (supervisor.perform steps).lastPower =
      (steps.filterMap fun step => step.notice?.bind Notice.reading?).getLast?.or
        supervisor.lastPower :=
    latest_or_perform supervisor Picture.lastPower Picture.lastPower_learn steps
  have written : (steps.filterMap fun step => step.notice?.bind Notice.reading?).getLast?.map
      BigEndian.bytes16 = latestPower steps := by
    rw [latestPower, ← List.getLast?_map, List.map_filterMap]
    exact congrArg (fun found => (steps.filterMap found).getLast?) (funext Step.map_reading?)
  rw [known, ← written]
  cases (steps.filterMap fun step => step.notice?.bind Notice.reading?).getLast? <;> rfl

/-! ## The message -/

/-- A status request is a request with the known power. -/
theorem statusRequest_eq :
    supervisor.statusRequest = .request .getStatus none supervisor.lastPower := by
  rw [statusRequest]
  cases supervisor.lastPower <;> rfl

/-- The fields of a status request. -/
theorem fields_statusRequest :
    supervisor.statusRequest.fields = ⟨.command, [Command.getStatus.code]⟩ ::
      ((supervisor.lastPower.map BigEndian.bytes16).map (Field.mk .powerReading)).toList := by
  rw [statusRequest_eq, Message.fields_request]
  rfl

/-- A status request is canonical. -/
theorem canonical_statusRequest (supervisor : Supervisor) :
    supervisor.statusRequest.Canonical := by
  rw [statusRequest_eq]
  exact Message.canonical_request _ _ _

/-- A status request fits a frame. -/
theorem wrappedSize_statusRequest_le (supervisor : Supervisor) :
    Frame.wrappedSize supervisor.statusRequest.serialize ≤ Frame.maxLength := by
  rw [statusRequest_eq]
  exact Message.wrappedSize_request_le _ _ _

/-! ## One peer without the other -/

/-- What is kept for a peer that is asked depends on what was kept for it, and on nothing else. -/
theorem slot_requestFrom_congr {first second : Supervisor}
    (same : first.slot peer = second.slot peer) (request : Message) (deadline : Instant) :
    (requestFrom request deadline first peer).slot peer =
      (requestFrom request deadline second peer).slot peer := by
  have kept (supervisor : Supervisor) (slot : PeerSlot) (condition : Bool) (event : Event) :
      ((supervisor.setSlot peer slot).noteIf condition event).slot peer = slot := by
    cases peer <;> cases condition <;> rfl
  simp only [requestFrom, same]
  split
  next => exact same
  next => rw [kept, kept]

/-- Each peer is asked as if it were alone. -/
theorem slot_step_request (supervisor : Supervisor) (peer : Peer) (now : Instant) :
    (supervisor.step (.request now)).slot peer =
      (requestFrom supervisor.statusRequest (now + supervisor.settings.keepaliveTimeout) supervisor
        peer).slot peer := by
  have asked : (supervisor.step (.request now)).slot peer =
      (supervisor.requestStatus now).slot peer := by
    cases peer <;> rfl
  rw [asked]
  simp only [requestStatus, Peer.all, List.foldl_cons, List.foldl_nil]
  cases peer with
  | motors => exact slot_requestFrom_of_ne (by decide) _ _
  | accelerometer => exact slot_requestFrom_congr (slot_requestFrom_of_ne (by decide) _ _) _ _

/-- Another link to one peer changes nothing in what the other is asked. -/
theorem slot_step_request_setLink {other : Peer} (different : other ≠ peer)
    (replacement : Option Link) (now : Instant) :
    ((supervisor.setLink other replacement).step (.request now)).slot peer =
      (supervisor.step (.request now)).slot peer := by
  have sameRequest : (supervisor.setLink other replacement).statusRequest =
      supervisor.statusRequest := by
    cases other <;> rfl
  have sameSettings : (supervisor.setLink other replacement).settings = supervisor.settings := by
    cases other <;> rfl
  have sameSlot : (supervisor.setLink other replacement).slot peer = supervisor.slot peer := by
    cases other <;> cases peer <;> first | rfl | exact absurd rfl different
  rw [slot_step_request, slot_step_request, sameRequest, sameSettings]
  exact slot_requestFrom_congr sameSlot _ _

/-! ## All status requests of a run -/

variable {store : Store}

/-- A poll is due exactly if it is the first one or comes at least `pollInterval` after the last due
one, so the times of the polls alone settle it. A due poll uses each link there is once to ask for
the status, and another poll does not; all other uses are receiving and sending positions back to
the motors. Both peers are asked with one message, which a link sends as one frame or not at all:
the command and the latest power that was known, if any. The link to one peer has no part in what
the other is asked, nor in when the next poll is due. -/
theorem status_requests (built : Built store supervisor) (before : List Operation)
    (now : Instant) :
    let state := supervisor.run before
    let ready := state.perform (state.stepsBeforeRequest now)
    let request := ready.statusRequest
    let frame := Frame.wrap request.serialize
    let power := latestPower (supervisor.steps before ++ state.stepsBeforeRequest now)
    (state.isDue now = true ↔ pollTimes before = [] ∨
      ∃ asked, (supervisor.duePolls before).getLast? = some asked ∧
        asked + supervisor.settings.pollInterval ≤ now) ∧
    supervisor.duePolls before =
      dueTimes supervisor.settings.pollInterval none (pollTimes before) ∧
    (∀ peer, ∃ positions : List Position, (peer = .accelerometer → positions = []) ∧
      (state.poll now).linkTo peer = (state.linkTo peer).map fun link =>
        link.useAll (.receive :: positions.map .restore ++
          if state.isDue now then [.request request] else [])) ∧
    (∀ link : Link, link.send request =
      if link.channel.closed then (.error (.transport .closed), link)
      else if link.channel.left.failWrites then
        (.error (.transport (.io Channel.simulatedWriteFault)), link)
      else (.ok (), { link with channel := link.channel.pass frame })) ∧
    messagesIn frame = [request] ∧
    request.fields = ⟨.command, [Command.getStatus.code]⟩ ::
      (power.map (Field.mk .powerReading)).toList ∧
    (state.isDue now = true → ∀ other replacement,
      let changed := (ready.setLink other replacement).step (.request now)
      changed.nextPoll = some (now + supervisor.settings.pollInterval) ∧
      (state.poll now).nextPoll = changed.nextPoll ∧
      ∀ peer, other ≠ peer → changed.slot peer = (state.poll now).slot peer) := by
  intro state ready request frame power
  have ready_eq : ready =
      supervisor.perform (supervisor.steps before ++ state.stepsBeforeRequest now) := by
    rw [perform_append, perform_steps]
  have unknown : supervisor.lastPower = none := by
    obtain ⟨settings, -, rfl⟩ := built.exists_settings
    rfl
  have fits := wrappedSize_statusRequest_le ready
  have short : ready.statusRequest.serialize.length ≤ Frame.maxLength := by
    rw [Frame.wrappedSize] at fits
    omega
  refine ⟨built.isDue_iff before now, built.duePolls_eq before, fun peer => linkTo_poll now,
    fun link => link.send_eq fits, messagesIn_wrap (canonical_statusRequest ready) short, ?_,
    fun due other replacement => ?_⟩
  · rw [fields_statusRequest, ready_eq, lastPower_latest, unknown, Option.map_none, Option.or_none]
  · have polled : state.poll now = ready.step (.request now) := by
      rw [← perform_pollSteps, pollSteps_eq, if_pos due, perform_append]
      rfl
    have settings_eq : ready.settings = supervisor.settings := by
      rw [ready_eq, settings_perform]
    have changedSettings : (ready.setLink other replacement).settings = ready.settings := by
      cases other <;> rfl
    refine ⟨?_, ?_, fun peer different => ?_⟩
    · rw [← settings_eq, ← changedSettings]
      rfl
    · rw [polled, step, step, changedSettings]
    · rw [polled, slot_step_request_setLink different]

/-- The motors report a power between two polls and have no link. The second poll comes just in time
to be due, and the accelerometer is asked with that power. -/
theorem status_requests_reported_power :
    let supervisor := initial .memory .default
    let report := (Message.ofReply .statusReport).addPowerReading 7
    let before : List Operation := [.call (.attach .accelerometer .pair), .poll 0,
      .call (.handle .motors report 5)]
    let state := supervisor.run before
    let request := (state.perform (state.stepsBeforeRequest 1000000)).statusRequest
    Built .memory supervisor ∧ state.isDue 999999 = false ∧ state.isDue 1000000 = true ∧
      (state.poll 1000000).linkTo .motors = none ∧
      (state.poll 1000000).linkTo .accelerometer =
        (state.linkTo .accelerometer).map (fun link => link.useAll [.receive, .request request]) ∧
      request.fields = [⟨.command, [1]⟩, ⟨.powerReading, [0, 7]⟩] := by
  intro supervisor report before state request
  have built : Built .memory supervisor := .inr ⟨.default, rfl⟩
  have due : state.isDue 1000000 = true := by decide +kernel
  obtain ⟨_, _, uses, _, _, fields_eq, _⟩ := status_requests built before 1000000
  obtain ⟨_, _, motors_eq⟩ := uses .motors
  obtain ⟨positions, alone, accelerometer_eq⟩ := uses .accelerometer
  have noLink : state.linkTo .motors = none := by decide +kernel
  have power_eq : latestPower (supervisor.steps before ++ state.stepsBeforeRequest 1000000) =
      some [0, 7] := by
    decide +kernel
  refine ⟨built, by decide +kernel, due, ?_, ?_, ?_⟩
  · rw [motors_eq, noLink]
    rfl
  · rw [accelerometer_eq, alone rfl, if_pos due]
    rfl
  · rw [fields_eq, power_eq]
    rfl

end Supervisor

end OpticalLink
