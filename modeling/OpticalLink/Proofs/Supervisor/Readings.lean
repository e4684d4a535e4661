import OpticalLink.Proofs.Message.Values
import OpticalLink.Proofs.Supervisor.Picture
import OpticalLink.Supervisor.Status

/-!
# What status reports make known

Each field of a status report stands for itself: the first field with a tag counts, and it has to
be long enough for its type. `Supervisor.Step.reported?` are the bytes that count, and
`Supervisor.readings_of_latest_reports` says that each component of the status is the latest of
them from the peers that may report it, or what it was at the beginning.
-/

namespace OpticalLink

/-! ## Fields of a report -/

/-- The bytes that a status report carries under a tag: those at the front of the first field with
the tag, if it has as many. -/
def Message.reported? (message : Message) (tag : Tag) (size : Nat) : Option Bytes :=
  if message.reply? = some .statusReport then (message.value? tag).bind (front? size) else none

/-- What is missing or too short is not reported, whatever stands behind it. -/
theorem Message.Lacks.reported?_eq_none {message : Message} {tag : Tag} {size : Nat}
    (lacks : message.Lacks tag size) : message.reported? tag size = none := by
  rw [reported?]
  split
  next => exact Option.bind_eq_none_iff.mpr fun value found => front?_of_lt (lacks value found)
  next => rfl

namespace Notice

variable {Value : Type} (read : Message → Option Value)

/-- What a status report of the motors makes known. -/
def fromMotors? : Notice → Option Value
  | .report message => read message
  | _ => none

/-- What a status report of either peer makes known. -/
def fromEither? : Notice → Option Value
  | .report message | .sample message => read message
  | _ => none

/-- The transmit power that becomes known. -/
def txPower? : Notice → Option Milliwatts
  | .measure transceiver => some transceiver.txPower
  | _ => none

end Notice

section

variable {Value : Type} (read : Message → Option Value) (message : Message)

/-- All that a message can make known. -/
theorem Message.notice?_cases (peer : Peer) :
    (message.reply? = some .statusReport ∧ peer = .motors ∧
        message.notice? peer = some (.report message)) ∨
      (message.reply? = some .statusReport ∧ peer = .accelerometer ∧
        message.notice? peer = some (.sample message)) ∨
      (message.reply? = some .errorReport ∧ message.notice? peer = some (.error message)) ∨
      (message.reply? ≠ some .statusReport ∧ message.notice? peer = none) := by
  by_cases reported : message.reply? = some .statusReport
  · cases peer <;> simp [notice?, reported]
  · by_cases failed : message.reply? = some .errorReport
    · cases peer <;> simp [notice?, failed]
    · simp [notice?_eq_none reported failed, reported]

/-- What only the status reports of the motors make known is read from them. -/
theorem Message.bind_of_report {write : Notice → Option Value}
    (reports : ∀ message, write (.report message) = read message)
    (errors : ∀ message, write (.error message) = none)
    (samples : ∀ message, write (.sample message) = none) (peer : Peer) :
    (message.notice? peer).bind write =
      if peer ∈ [Peer.motors] ∧ message.reply? = some .statusReport then read message
      else none := by
  rcases message.notice?_cases peer with ⟨reply, rfl, told⟩ | ⟨reply, rfl, told⟩ | ⟨reply, told⟩ |
    ⟨reply, told⟩ <;> simp [told, reply, reports, errors, samples]

theorem Message.bind_fromMotors? (peer : Peer) :
    (message.notice? peer).bind (Notice.fromMotors? read) =
      if peer ∈ [Peer.motors] ∧ message.reply? = some .statusReport then read message
      else none :=
  message.bind_of_report read (fun _ => rfl) (fun _ => rfl) (fun _ => rfl) peer

theorem Message.bind_fromEither? (peer : Peer) :
    (message.notice? peer).bind (Notice.fromEither? read) =
      if peer ∈ Peer.all ∧ message.reply? = some .statusReport then read message else none := by
  rcases message.notice?_cases peer with ⟨reply, rfl, told⟩ | ⟨reply, rfl, told⟩ | ⟨reply, told⟩ |
    ⟨reply, told⟩ <;> simp [told, reply, Notice.fromEither?, Peer.all]

theorem Message.bind_power? (peer : Peer) :
    (message.notice? peer).bind Notice.power? =
      if peer ∈ [Peer.motors] ∧ message.reply? = some .statusReport then message.power?
      else none :=
  message.bind_of_report Message.power? (fun _ => rfl) (fun _ => rfl) (fun _ => rfl) peer

theorem Message.bind_txPower? (peer : Peer) :
    (message.notice? peer).bind Notice.txPower? = none := by
  rcases message.notice?_cases peer with ⟨-, -, told⟩ | ⟨-, -, told⟩ | ⟨-, told⟩ | ⟨-, told⟩ <;>
    simp [told, Notice.txPower?]

/-- What is read under a tag is written with the bytes that are reported. -/
theorem Message.map_reported? {decode : Bytes → Option Value} {encode : Value → Bytes} {size : Nat}
    (reads : ReadsFront decode encode size) (tag : Tag) (senders : List Peer) (peer : Peer) :
    (if peer ∈ senders ∧ message.reply? = some .statusReport then
        (message.value? tag).bind decode else none).map encode =
      if peer ∈ senders then message.reported? tag size else none := by
  have written : ((message.value? tag).bind decode).map encode =
      (message.value? tag).bind (front? size) := by
    rw [Option.map_bind]
    exact congrArg _ (funext reads.map_encode)
  by_cases sends : peer ∈ senders
  · rw [if_pos sends, reported?]
    by_cases report : message.reply? = some .statusReport
    · rw [if_pos ⟨sends, report⟩, if_pos report, written]
    · rw [if_neg fun both => report both.2, if_neg report, Option.map_none]
  · rw [if_neg sends, if_neg fun both => sends both.1, Option.map_none]

/-- Nothing is read under a tag when nothing is reported. -/
theorem Message.read_eq_none {decode : Bytes → Option Value} {encode : Value → Bytes} {size : Nat}
    (reads : ReadsFront decode encode size) {tag : Tag}
    (nothing : message.reported? tag size = none) (senders : List Peer) (peer : Peer) :
    (if peer ∈ senders ∧ message.reply? = some .statusReport then
        (message.value? tag).bind decode else none) = none := by
  rw [← Option.map_eq_none_iff (f := encode), message.map_reported? reads, nothing, ite_self]

end

namespace Picture

variable (picture : Picture) (notice : Notice)

theorem position_learn_fromMotors :
    (picture.learn notice).motors.position =
      (notice.fromMotors? Message.motorPosition?).getD picture.motors.position := by
  rw [position_learn]
  cases notice <;> rfl

theorem encoder_learn :
    (picture.learn notice).motors.encoder =
      (notice.fromMotors? Message.encoderReading?).getD picture.motors.encoder := by
  cases notice with
  | report message =>
    rw [learn]
    cases message.motorPosition? <;> rfl
  | _ => rfl

theorem current_learn :
    (picture.learn notice).motors.current =
      (notice.fromMotors? Message.currentReading?).or picture.motors.current := by
  cases notice with
  | report message =>
    have heard : (picture.hear message).motors.current =
        message.currentReading?.or picture.motors.current :=
      Option.orElse_eq_or
    rw [learn, Notice.fromMotors?, ← heard]
    cases message.motorPosition? <;> rfl
  | _ => rfl

theorem txPower_learn :
    (picture.learn notice).transceiver.txPower =
      notice.txPower?.getD picture.transceiver.txPower := by
  cases notice with
  | report message =>
    rw [learn]
    cases message.motorPosition? <;> rfl
  | _ => rfl

theorem acceleration_learn :
    (picture.learn notice).acceleration =
      (notice.fromEither? Message.acceleration?).or picture.acceleration := by
  cases notice with
  | report message =>
    have heard : (picture.hear message).acceleration =
        message.acceleration?.or picture.acceleration :=
      Option.orElse_eq_or
    rw [learn, Notice.fromEither?, ← heard]
    cases message.motorPosition? <;> rfl
  | sample message => exact Option.orElse_eq_or
  | _ => rfl

end Picture

/-! ## Fields of the reports in a run -/

namespace Supervisor

variable {T : Type}

/-- The bytes that a status report of some peers carries under a tag, in the message that a step
handles. -/
def Step.reported? (senders : List Peer) (tag : Tag) (size : Nat) (step : Step T) : Option Bytes :=
  step.handled?.bind fun handled =>
    if handled.1 ∈ senders then handled.2.reported? tag size else none

/-- The latest such bytes in some steps. -/
def latestReported (senders : List Peer) (tag : Tag) (size : Nat) (steps : List (Step T)) :
    Option Bytes :=
  (steps.filterMap (Step.reported? senders tag size)).getLast?

variable {supervisor : Supervisor T} {Value : Type} {decode : Bytes → Option Value}
  {encode : Value → Bytes} {size : Nat}

/-- Status reports become known from messages alone. -/
theorem Step.bind_notice? {write : Notice → Option Value}
    (measures : ∀ transceiver, write (.measure transceiver) = none) (resets : write .reset = none)
    (step : Step T) :
    step.notice?.bind write =
      step.handled?.bind fun handled => (handled.2.notice? handled.1).bind write := by
  cases step with
  | call call =>
    cases call with
    | updateTransceiver transceiver => exact measures transceiver
    | resetSurvey => exact resets
    | _ => rfl
  | _ => rfl

/-- What the motors make known under a tag is written with the bytes that they report. -/
theorem Step.map_fromMotors? (reads : ReadsFront decode encode size) (tag : Tag) (step : Step T) :
    (step.notice?.bind (Notice.fromMotors? fun message => (message.value? tag).bind decode)).map
        encode =
      step.reported? [.motors] tag size := by
  rw [bind_notice? (fun _ => rfl) rfl, Option.map_bind, reported?]
  refine congrArg step.handled?.bind (funext fun handled => ?_)
  rw [Function.comp, Message.bind_fromMotors?, Message.map_reported? _ reads]

/-- What either peer makes known under a tag is written with the bytes that it reports. -/
theorem Step.map_fromEither? (reads : ReadsFront decode encode size) (tag : Tag) (step : Step T) :
    (step.notice?.bind (Notice.fromEither? fun message => (message.value? tag).bind decode)).map
        encode =
      step.reported? Peer.all tag size := by
  rw [bind_notice? (fun _ => rfl) rfl, Option.map_bind, reported?]
  refine congrArg step.handled?.bind (funext fun handled => ?_)
  rw [Function.comp, Message.bind_fromEither?, Message.map_reported? _ reads]

/-- The latest value is written with the latest bytes. -/
theorem map_getLast?_eq {found : Step T → Option Value} {senders : List Peer} {tag : Tag}
    (written : ∀ step, (found step).map encode = Step.reported? senders tag size step)
    (steps : List (Step T)) :
    (steps.filterMap found).getLast?.map encode = latestReported senders tag size steps := by
  rw [latestReported, ← List.getLast?_map, List.map_filterMap]
  exact congrArg (fun found => (steps.filterMap found).getLast?) (funext written)

/-! ## The powers of the transceiver -/

/-- The receive power that a step shows: that of the transceiver when it is read, or the one that
the two bytes stand for that the motors report. -/
def Step.rxPower? : Step T → Option Milliwatts
  | .call (.updateTransceiver transceiver) => some transceiver.rxPower
  | step => (step.reported? [.motors] .powerReading 2).bind Milliwatts.ofBytes?

/-- The transmit power that a step shows: that of the transceiver when it is read. -/
def Step.txPower? : Step T → Option Milliwatts
  | .call (.updateTransceiver transceiver) => some transceiver.txPower
  | _ => none

theorem Step.bind_power? (step : Step T) : step.notice?.bind Notice.power? = step.rxPower? := by
  have shown (peer : Peer) (message : Message) :
      (message.notice? peer).bind Notice.power? =
        (if peer ∈ [Peer.motors] then message.reported? .powerReading 2 else none).bind
          Milliwatts.ofBytes? := by
    rw [Message.bind_power?, ← message.map_reported? readsFront_number16]
    split
    next =>
      rw [Message.power?, Message.powerReading?, Option.bind_map]
      cases (message.value? .powerReading).bind Message.number16? with
      | none => rfl
      | some reading =>
        rw [Option.bind_some, Function.comp, Milliwatts.ofBytes?_bytes16, Option.map_some]
    next => rfl
  cases step with
  | call call =>
    cases call with
    | handle peer message now => exact shown peer message
    | _ => rfl
  | handleReceived peer message now => exact shown peer message
  | _ => rfl

theorem Step.bind_txPower? (step : Step T) : step.notice?.bind Notice.txPower? = step.txPower? := by
  cases step with
  | call call =>
    cases call with
    | handle peer message now => exact message.bind_txPower? peer
    | _ => rfl
  | handleReceived peer message now => exact message.bind_txPower? peer
  | _ => rfl

/-! ## The components after some steps -/

variable [Transport T]

/-- A part of the picture that may be unknown is the last that was written, or what it was. -/
theorem latest_or_perform (supervisor : Supervisor T) {Part : Type}
    (read : Picture → Option Part) {write : Notice → Option Part}
    (read_learn : ∀ picture notice,
      read (picture.learn notice) = (write notice).or (read picture)) (steps : List (Step T)) :
    read (supervisor.perform steps).picture =
      (steps.filterMap fun step => step.notice?.bind write).getLast?.or
        (read supervisor.picture) := by
  have replaced (picture : Picture) (notice : Notice) : read (picture.learn notice) =
      ((write notice).map some).getD (read picture) := by
    rw [read_learn]
    cases write notice <;> rfl
  have known := latest_perform supervisor read replaced steps
  have wrapped : (fun step : Step T => step.notice?.bind fun notice => (write notice).map some) =
      fun step => (step.notice?.bind write).map some :=
    funext fun step => by rw [Option.map_bind]; rfl
  rw [known, wrapped, ← List.map_filterMap, List.getLast?_map]
  cases (steps.filterMap fun step => step.notice?.bind write).getLast? <;> rfl

/-- What the motors report under a tag is after some steps the latest that they reported, or what
it was. -/
theorem encode_latest_fromMotors (read : Picture → Value)
    (reads : ReadsFront decode encode size) (tag : Tag)
    (read_learn : ∀ (picture : Picture) (notice : Notice), read (picture.learn notice) =
      (notice.fromMotors? fun message => (message.value? tag).bind decode).getD (read picture))
    (steps : List (Step T)) :
    encode (read (supervisor.perform steps).picture) =
      (latestReported [.motors] tag size steps).getD (encode (read supervisor.picture)) := by
  rw [latest_perform supervisor read read_learn, ← map_getLast?_eq (Step.map_fromMotors? reads tag),
    Option.getD_map]

section

variable (steps : List (Step T))

theorem position_latest :
    (supervisor.perform steps).motors.position.encode =
      (latestReported [.motors] .motorPosition 12 steps).getD supervisor.motors.position.encode :=
  encode_latest_fromMotors (fun picture => picture.motors.position) readsFront_position
    .motorPosition Picture.position_learn_fromMotors steps

theorem encoder_latest :
    (supervisor.perform steps).motors.encoder.encode =
      (latestReported [.motors] .encoderValue 8 steps).getD supervisor.motors.encoder.encode :=
  encode_latest_fromMotors (fun picture => picture.motors.encoder) readsFront_encoderReading
    .encoderValue Picture.encoder_learn steps

theorem current_latest :
    (supervisor.perform steps).motors.current.map BigEndian.bytes16 =
      (latestReported [.motors] .currentReading 2 steps).or
        (supervisor.motors.current.map BigEndian.bytes16) := by
  have latest := latest_or_perform supervisor (fun picture => picture.motors.current)
    Picture.current_learn steps
  rw [← map_getLast?_eq (Step.map_fromMotors? readsFront_number16 .currentReading), ← Option.map_or]
  exact congrArg (Option.map BigEndian.bytes16) latest

theorem acceleration_latest :
    (supervisor.perform steps).acceleration.map Acceleration.encode =
      (latestReported Peer.all .accelerometerValue 12 steps).or
        (supervisor.acceleration.map Acceleration.encode) := by
  have latest := latest_or_perform supervisor (fun picture => picture.acceleration)
    Picture.acceleration_learn steps
  rw [← map_getLast?_eq (Step.map_fromEither? readsFront_acceleration .accelerometerValue),
    ← Option.map_or]
  exact congrArg (Option.map Acceleration.encode) latest

theorem rxPower_latest :
    (supervisor.perform steps).transceiver.rxPower =
      (steps.filterMap Step.rxPower?).getLast?.getD supervisor.transceiver.rxPower := by
  have latest := latest_perform supervisor (fun picture => picture.transceiver.rxPower)
    Picture.rxPower_learn steps
  simp only [Step.bind_power?] at latest
  exact latest

theorem txPower_latest :
    (supervisor.perform steps).transceiver.txPower =
      (steps.filterMap Step.txPower?).getLast?.getD supervisor.transceiver.txPower := by
  have latest := latest_perform supervisor (fun picture => picture.transceiver.txPower)
    Picture.txPower_learn steps
  simp only [Step.bind_txPower?] at latest
  exact latest

end

/-! ## Messages that leave a component alone -/

section

variable {step : Step T} {peer : Peer} {message : Message}

/-- A part of the picture stays when the message of a step writes nothing to it. -/
theorem read_step_eq {Part : Type} (read : Picture → Part) {write : Notice → Option Value}
    (kept : ∀ picture notice, write notice = none → read (picture.learn notice) = read picture)
    (handled : step.handled? = some (peer, message))
    (nothing : (message.notice? peer).bind write = none) :
    read (supervisor.step step).picture = read supervisor.picture := by
  rw [picture_step, Step.notice?_of_handled handled]
  cases told : message.notice? peer with
  | none => rfl
  | some notice =>
    rw [told, Option.bind_some] at nothing
    exact kept supervisor.picture notice nothing

theorem position_step_eq (handled : step.handled? = some (peer, message))
    (nothing : message.reported? .motorPosition 12 = none) :
    (supervisor.step step).motors.position = supervisor.motors.position :=
  read_step_eq (fun picture => picture.motors.position)
    (fun picture notice unwritten => by
      rw [picture.position_learn_fromMotors, unwritten, Option.getD_none])
    handled ((message.bind_fromMotors? _ peer).trans
      (message.read_eq_none readsFront_position nothing _ peer))

theorem encoder_step_eq (handled : step.handled? = some (peer, message))
    (nothing : message.reported? .encoderValue 8 = none) :
    (supervisor.step step).motors.encoder = supervisor.motors.encoder :=
  read_step_eq (fun picture => picture.motors.encoder)
    (fun picture notice unwritten => by rw [picture.encoder_learn, unwritten, Option.getD_none])
    handled ((message.bind_fromMotors? _ peer).trans
      (message.read_eq_none readsFront_encoderReading nothing _ peer))

theorem current_step_eq (handled : step.handled? = some (peer, message))
    (nothing : message.reported? .currentReading 2 = none) :
    (supervisor.step step).motors.current = supervisor.motors.current :=
  read_step_eq (fun picture => picture.motors.current)
    (fun picture notice unwritten => by rw [picture.current_learn, unwritten, Option.none_or])
    handled ((message.bind_fromMotors? _ peer).trans
      (message.read_eq_none readsFront_number16 nothing _ peer))

theorem acceleration_step_eq (handled : step.handled? = some (peer, message))
    (nothing : message.reported? .accelerometerValue 12 = none) :
    (supervisor.step step).acceleration = supervisor.acceleration :=
  read_step_eq (fun picture => picture.acceleration)
    (fun picture notice unwritten => by
      rw [picture.acceleration_learn, unwritten, Option.none_or])
    handled ((message.bind_fromEither? _ peer).trans
      (message.read_eq_none readsFront_acceleration nothing _ peer))

theorem txPower_step_eq (handled : step.handled? = some (peer, message)) :
    (supervisor.step step).transceiver.txPower = supervisor.transceiver.txPower :=
  read_step_eq (fun picture => picture.transceiver.txPower)
    (fun picture notice unwritten => by rw [picture.txPower_learn, unwritten, Option.getD_none])
    handled (message.bind_txPower? peer)

theorem transceiver_step_eq (handled : step.handled? = some (peer, message))
    (nothing : message.reported? .powerReading 2 = none) :
    (supervisor.step step).transceiver = supervisor.transceiver := by
  have unread : (message.notice? peer).bind Notice.power? = none := by
    have none_read := message.read_eq_none readsFront_number16 nothing [.motors] peer
    rw [message.bind_power?]
    split at none_read
    next => rw [Message.power?, Message.powerReading?, none_read, Option.map_none, ite_self]
    next other => exact if_neg other
  have received : (supervisor.step step).transceiver.rxPower = supervisor.transceiver.rxPower :=
    read_step_eq (fun picture => picture.transceiver.rxPower)
      (fun picture notice unwritten => by rw [picture.rxPower_learn, unwritten, Option.getD_none])
      handled unread
  exact show Transceiver.mk _ _ = Transceiver.mk _ _ by rw [txPower_step_eq handled, received]

end

end Supervisor

/-! ## Replies that carry a command -/

/-- A message without its fields with a tag. -/
def Message.without (message : Message) (tag : Tag) : Message :=
  ⟨message.fields.filter fun field => field.tag != tag⟩

theorem Message.value?_without {message : Message} {tag other : Tag} (different : other ≠ tag) :
    (message.without tag).value? other = message.value? other := by
  have kept (field : Field) :
      decide ((field.tag != tag) = true ∧ (field.tag == other) = true) = (field.tag == other) := by
    by_cases same : field.tag = other
    · simp [same, different]
    · simp [same]
  simp only [value?, field?, without, List.find?_filter, kept]

namespace Supervisor

variable {T : Type} [Transport T]

/-- What is done with a reply has nothing to do with a command in it. -/
theorem handle_without_command {supervisor : Supervisor T} {message : Message}
    (replies : message.reply?.isSome = true) (peer : Peer) (now : Instant) :
    supervisor.handle peer (message.without .command) now = supervisor.handle peer message now ∧
      (supervisor.handle peer message now).1 = .ok () := by
  obtain ⟨reply, found⟩ := Option.isSome_iff_exists.mp replies
  have same : (message.without .command).reply? = some reply := by
    rw [← found]
    simp (disch := decide) only [Message.reply?, Message.value?_without]
  simp only [handle, found, same]
  cases reply with
  | statusReport =>
    simp (disch := decide) only [handleReply, applyReport, applySample, applyReadings,
      Message.acceleration?, Message.encoderReading?, Message.currentReading?,
      Message.errorReport?, Message.powerReading?, Message.power?, Message.motorPosition?,
      Message.value?_without, and_self]
  | errorReport =>
    simp (disch := decide) only [handleReply, applyError, Message.errorReport?,
      Message.value?_without, and_self]
  | unknown code => exact ⟨rfl, trivial⟩

/-! ## The components of the status -/

/-- At any point of a run, each component of the status that reports are about is what the latest
report says that may say it: a status report of the motors, or of either peer for the sample of
acceleration, whose first field with the tag is long enough. If there was none, it is what it was
at the beginning. The receive power is in ten thousandths of a milliwatt in a report, and may also
have been read since; the transmit power is only read. A message leaves the components alone for
which it has no such field, and all of them unless it is a status report. A command in a message
with a reply has no effect. -/
theorem readings_of_latest_reports (supervisor : Supervisor T) (operations : List (Operation T)) :
    ∀ before after, supervisor.steps operations = before ++ after →
      let start := supervisor.status
      let state := supervisor.perform before
      let known := state.status
      known.motors.position.encode =
        (latestReported [.motors] .motorPosition 12 before).getD start.motors.position.encode ∧
      known.motors.encoder.encode =
        (latestReported [.motors] .encoderValue 8 before).getD start.motors.encoder.encode ∧
      known.motors.current.map BigEndian.bytes16 =
        (latestReported [.motors] .currentReading 2 before).or
          (start.motors.current.map BigEndian.bytes16) ∧
      known.transceiver.rxPower =
        (before.filterMap Step.rxPower?).getLast?.getD start.transceiver.rxPower ∧
      known.transceiver.txPower =
        (before.filterMap Step.txPower?).getLast?.getD start.transceiver.txPower ∧
      known.acceleration.map Acceleration.encode =
        (latestReported Peer.all .accelerometerValue 12 before).or
          (start.acceleration.map Acceleration.encode) ∧
      (∀ step peer message, step.handled? = some (peer, message) →
        let later := (state.step step).status
        (message.Lacks .motorPosition 12 → later.motors.position = known.motors.position) ∧
        (message.Lacks .encoderValue 8 → later.motors.encoder = known.motors.encoder) ∧
        (message.Lacks .currentReading 2 → later.motors.current = known.motors.current) ∧
        (message.Lacks .powerReading 2 → later.transceiver = known.transceiver) ∧
        (message.Lacks .accelerometerValue 12 → later.acceleration = known.acceleration) ∧
        later.transceiver.txPower = known.transceiver.txPower ∧
        (message.reply? ≠ some .statusReport →
          later.motors.position = known.motors.position ∧
          later.motors.encoder = known.motors.encoder ∧
          later.motors.current = known.motors.current ∧
          later.transceiver = known.transceiver ∧ later.acceleration = known.acceleration)) ∧
      ∀ (peer : Peer) (message : Message) (now : Instant), message.reply?.isSome = true →
        state.handle peer (message.without .command) now = state.handle peer message now ∧
          (state.handle peer message now).1 = .ok () := by
  intro before after _ start state known
  refine ⟨position_latest before, encoder_latest before, current_latest before,
    rxPower_latest before, txPower_latest before, acceleration_latest before, ?_,
    fun peer message now replies => handle_without_command replies peer now⟩
  · intro step peer message handled
    refine ⟨fun lacks => position_step_eq handled lacks.reported?_eq_none,
      fun lacks => encoder_step_eq handled lacks.reported?_eq_none,
      fun lacks => current_step_eq handled lacks.reported?_eq_none,
      fun lacks => transceiver_step_eq handled lacks.reported?_eq_none,
      fun lacks => acceleration_step_eq handled lacks.reported?_eq_none,
      txPower_step_eq handled, fun noReport => ?_⟩
    have nothing (tag : Tag) (size : Nat) : message.reported? tag size = none := if_neg noReport
    exact ⟨position_step_eq handled (nothing _ _), encoder_step_eq handled (nothing _ _),
      current_step_eq handled (nothing _ _), transceiver_step_eq handled (nothing _ _),
      acceleration_step_eq handled (nothing _ _)⟩

/-- A position that is a byte short hides the whole one behind it, but not the encoder next to it.
The accelerometer reports a sample, and a position and a power that it has no part in. An error
report with a current changes nothing, and a status report counts though a command comes before
its reply. A report of a power replaces the receive power that was read before it, and is replaced
by the one that is read after it. -/
theorem readings_of_latest_reports_of_mixed_fields :
    let report := Message.ofReply .statusReport
    let short := ((report.push .motorPosition [0, 0, 0, 9, 0, 0, 0, 9, 0, 0, 0]).addMotorPosition
      ⟨9, 9, 9⟩).addEncoderReading ⟨-5, 6⟩
    let sample := ((report.addAcceleration ⟨7, 8, -9⟩).addMotorPosition ⟨9, 9, 9⟩).addPowerReading 9
    let first : Transceiver := ⟨0.5, 0.25⟩
    let second : Transceiver := ⟨0.75, 0.5⟩
    let located : List Step := [
      .call (.handle .motors (report.addMotorPosition ⟨1, -2, 3⟩) 0)]
    let later : List Step := [.call (.updateTransceiver first),
      .call (.handle .motors (report.addPowerReading 12345) 1),
      .call (.handle .motors short 2), .call (.handle .accelerometer sample 3),
      .call (.handle .motors ((Message.ofReply .errorReport).addCurrentReading 99) 4),
      .call (.handle .motors (((Message.ofCommand .moveMotor).addReply .statusReport).addMotorPosition
        ⟨4, 5, 6⟩) 5)]
    let read : Step := .call (.updateTransceiver second)
    let state := (initial .memory .default).perform located
    let last := (initial .memory .default).perform (located ++ later)
    (state.step (.call (.handle .motors short 2))).status.motors.position =
        state.status.motors.position ∧
      state.status.motors.position.encode = Position.encode ⟨1, -2, 3⟩ ∧
      last.status.motors.position.encode = Position.encode ⟨4, 5, 6⟩ ∧
      last.status.motors.encoder.encode = EncoderReading.encode ⟨-5, 6⟩ ∧
      last.status.motors.current.map BigEndian.bytes16 = none ∧
      last.status.transceiver.rxPower = 1.2345 ∧ last.status.transceiver.txPower = first.txPower ∧
      last.status.acceleration.map Acceleration.encode =
        some (Acceleration.encode ⟨7, 8, -9⟩) ∧
      ((initial .memory .default).perform
        (located ++ later ++ [read])).status.transceiver.rxPower = second.rxPower := by
  intro report short sample first second located later read state last
  let operations : List Operation := [
    .call (.handle .motors (report.addMotorPosition ⟨1, -2, 3⟩) 0),
    .call (.updateTransceiver first),
    .call (.handle .motors (report.addPowerReading 12345) 1),
    .call (.handle .motors short 2), .call (.handle .accelerometer sample 3),
    .call (.handle .motors ((Message.ofReply .errorReport).addCurrentReading 99) 4),
    .call (.handle .motors (((Message.ofCommand .moveMotor).addReply .statusReport).addMotorPosition
      ⟨4, 5, 6⟩) 5),
    .call (.updateTransceiver second)]
  have told := readings_of_latest_reports (initial .memory .default) operations
  have lacks : short.Lacks .motorPosition 12 := by
    rintro value ⟨⟩
    decide
  obtain ⟨position, -, -, -, -, -, untouched, -⟩ := told located (later ++ [read]) rfl
  obtain ⟨lastPosition, encoder, current, rxPower, txPower, acceleration, -⟩ :=
    told (located ++ later) [read] rfl
  obtain ⟨-, -, -, readPower, -⟩ := told (located ++ later ++ [read]) [] rfl
  have shown : (located ++ later).map Step.rxPower? =
      [none, some first.rxPower, some 1.2345, none, none, none, none] := rfl
  have received : (located ++ later).filterMap Step.rxPower? = [first.rxPower, 1.2345] := by
    rw [← Function.id_comp Step.rxPower?, ← List.filterMap_map, shown]
    rfl
  rw [received] at rxPower
  rw [List.filterMap_append, received] at readPower
  -- Behind a name, the last state would be evaluated where it is compared.
  simp only [last]
  exact ⟨(untouched _ _ short rfl).1 lacks, position, lastPosition, encoder, current, rxPower,
    txPower, acceleration, readPower⟩

end Supervisor

end OpticalLink
