import OpticalLink.Proofs.Link.Requests
import OpticalLink.Proofs.Supervisor.Picture

/-!
# Restoring the motors

When the motors ask for their last position, they are sent the one that they reported last, or
the stored one if they have reported none. `Supervisor.handle_restore` says what the answer is,
and `Supervisor.restored_position_of_latest_report` where the position in it comes from.
-/

namespace OpticalLink

/-! ## Positions at the beginning -/

namespace Store

/-- A number if it fits 32 signed bits, else zero. -/
def fitted (value : Int) : Int := if -2147483648 ≤ value ∧ value ≤ 2147483647 then value else 0

/-- The position that a supervisor starts with: the stored one, as far as it fits. -/
def startingPosition (store : Store) : Position where
  x := .ofInt (fitted (store.getInt Key.lastX 0))
  y := .ofInt (fitted (store.getInt Key.lastY 0))
  z := 0

theorem getSigned32_eq_ofInt_fitted (store : Store) (key : String) :
    store.getSigned32 key = .ofInt (fitted (store.getInt key 0)) := by
  rw [getSigned32, fitted]
  split <;> rfl

end Store

/-! ## The answer -/

namespace Supervisor

/-- The message that moves the motors is canonical. -/
theorem canonical_moveMessage (position : Position) : (moveMessage position).Canonical :=
  Message.canonical_request .moveMotor (some position) none

theorem serializedSize_moveMessage (position : Position) :
    (moveMessage position).serializedSize = 26 := rfl

/-- The message that moves the motors fits a frame. -/
theorem wrappedSize_moveMessage_le (position : Position) :
    Frame.wrappedSize (moveMessage position).serialize ≤ Frame.maxLength :=
  Message.wrappedSize_request_le .moveMotor (some position) none

/-- The position in the message that moves the motors is read back. -/
theorem motorPosition?_moveMessage (position : Position) :
    (moveMessage position).motorPosition? = some position :=
  Message.motorPosition?_request .moveMotor (some position) none

variable {supervisor : Supervisor} {message : Message}

/-- What is done when the motors ask for their last position. -/
theorem handle_restore (noReply : message.reply? = none)
    (asked : message.command? = some .restoreMotor) (now : Instant) :
    supervisor.handle .motors message now = supervisor.restoreMotors := by
  simp only [handle, noReply, handleCommand, asked]

/-- Without a link, nothing is restored. -/
theorem restoreMotors_of_detached (detached : supervisor.motorsSlot.link = none) :
    supervisor.restoreMotors = (.error (.notAttached .motors), { supervisor with
      journal := supervisor.journal ++ [.restoring supervisor.motors.position] }) := by
  have noLink : ((supervisor.note (.restoring supervisor.motors.position)).slot .motors).link =
      none := detached
  rw [restoreMotors, send, noLink]
  rfl

/-- Over a channel that can be written to, the motors are sent the known position in one
frame. -/
theorem restoreMotors_of_open {link : Link} (attached : supervisor.motorsSlot.link = some link)
    (isOpen : link.channel.closed = false) (writable : link.channel.left.failWrites = false) :
    supervisor.restoreMotors = (.ok (), { supervisor with
      motorsSlot := { supervisor.motorsSlot with link := some { link with
        channel := link.channel.pass
          (Frame.wrap (moveMessage supervisor.motors.position).serialize) } }
      journal := supervisor.journal ++ [.restoring supervisor.motors.position] }) := by
  have itsLink : ((supervisor.note (.restoring supervisor.motors.position)).slot .motors).link =
      some link := attached
  rw [restoreMotors, send, itsLink]
  simp only [link.send_eq (wrappedSize_moveMessage_le _), isOpen, writable]
  rfl

/-! ## The position in the answer -/

/-- The position that the motors reported last in some steps of a supervisor that was built from
a store, or the one it started with if they reported none. -/
def lastKnown (store : Store) (steps : List Step) : Position :=
  (steps.filterMap Step.reportedPosition?).getLast?.getD store.startingPosition

/-- The known position is the last one that was reported, or the stored one. -/
theorem position_perform {store : Store} (built : Built store supervisor) (steps : List Step) :
    (supervisor.perform steps).motors.position = lastKnown store steps := by
  have started : supervisor.picture.motors.position = store.startingPosition := by
    obtain ⟨settings, -, rfl⟩ := built.exists_settings
    simp only [picture, initial, Store.aim, Store.getSigned32_eq_ofInt_fitted,
      Store.startingPosition]
  have reports : Step.reportedPosition? = fun step => step.notice?.bind Notice.position? :=
    funext (Step.reportedPosition?_eq (T := Channel))
  rw [lastKnown, reports, ← started]
  exact latest_perform supervisor (fun picture => picture.motors.position) Picture.position_learn
    steps

/-- At any point of a run, when the motors ask for their last position over a channel that can be
written to, they are sent one frame. In it, one message moves them to the position that they
reported last, or to the stored one if they have reported none, and carries nothing else. Without
a link, nothing is sent. Either way, nothing else changes but the journal. -/
theorem restored_position_of_latest_report {store : Store} (built : Built store supervisor)
    (operations : List Operation) (noReply : message.reply? = none)
    (asked : message.command? = some .restoreMotor) (now : Instant) :
    ∀ before after, supervisor.steps operations = before ++ after →
      let state := supervisor.perform before
      let position := lastKnown store before
      (∀ link, state.motorsSlot.link = some link → link.channel.closed = false →
        link.channel.left.failWrites = false →
        ∃ answer : Message,
          state.handle .motors message now = (.ok (), { state with
            motorsSlot := { state.motorsSlot with
              link := some { link with
                channel := link.channel.pass (Frame.wrap answer.serialize) } }
            journal := state.journal ++ [.restoring position] }) ∧
          Receiver.new.feed (Frame.wrap answer.serialize) = (⟨.new, 1, 0⟩, [answer]) ∧
          answer.fields.map Field.tag = [.command, .motorPosition] ∧
          answer.command? = some .moveMotor ∧ answer.motorPosition? = some position) ∧
      (state.motorsSlot.link = none →
        state.handle .motors message now = (.error (.notAttached .motors),
          { state with journal := state.journal ++ [.restoring position] })) := by
  intro before after _ state position
  have known : state.motors.position = position := position_perform built before
  have handled : state.handle .motors message now = state.restoreMotors :=
    handle_restore noReply asked now
  constructor
  · intro link attached isOpen writable
    have fits : (moveMessage position).serialize.length ≤ Frame.maxLength := by
      rw [Message.length_serialize, serializedSize_moveMessage]
      decide
    refine ⟨moveMessage position, ?_, Receiver.feed_frame (canonical_moveMessage position) fits,
      rfl, rfl, motorPosition?_moveMessage position⟩
    rw [handled, restoreMotors_of_open attached isOpen writable, known]
  · intro detached
    rw [handled, restoreMotors_of_detached detached, known]

/-- The motors report a position whose commit fails and then one out of range. They are sent the
latter when they ask with another position and an empty reply, and nothing before they are
attached. -/
theorem restored_position_of_latest_report_out_of_range :
    let request := ((Message.ofCommand .restoreMotor).addMotorPosition ⟨1, 2, 3⟩).push .reply []
    let report := fun position => (Message.ofReply .statusReport).addMotorPosition position
    let channel := Channel.new 64 64
    let started := initial .memory .default
    let steps : List Step := [.call (.attach .motors channel), .call (.failCommits true),
      .call (.handle .motors (report ⟨7, 8, 9⟩) 0),
      .call (.handle .motors (report ⟨1000000, -2, 5⟩) 1)]
    (∃ answer : Message,
      ((started.perform steps).handle .motors request 2).1 = .ok () ∧
      ((started.perform steps).handle .motors request 2).2.motorsSlot.link =
        some { Link.new channel with channel := channel.pass (Frame.wrap answer.serialize) } ∧
      Receiver.new.feed (Frame.wrap answer.serialize) = (⟨.new, 1, 0⟩, [answer]) ∧
      answer.motorPosition? = some ⟨1000000, -2, 5⟩) ∧
    (started.handle .motors request 2).1 = .error (.notAttached .motors) := by
  intro request report channel started steps
  let operations : List Operation := [.call (.attach .motors channel), .call (.failCommits true),
    .call (.handle .motors (report ⟨7, 8, 9⟩) 0),
    .call (.handle .motors (report ⟨1000000, -2, 5⟩) 1)]
  have built : Built .memory started := .inr ⟨.default, rfl⟩
  have restored := @restored_position_of_latest_report _ request _ built operations rfl rfl 2
  obtain ⟨answer, handled, framed, -, -, located⟩ :=
    (restored steps [] rfl).1 (Link.new channel) rfl rfl rfl
  have latest : lastKnown .memory steps = ⟨1000000, -2, 5⟩ := by decide +kernel
  rw [latest] at located
  refine ⟨⟨answer, congrArg Prod.fst handled, ?_, framed, located⟩, ?_⟩
  · exact congrArg (fun handled => handled.2.motorsSlot.link) handled
  · exact congrArg Prod.fst ((restored [] steps rfl).2 rfl)

end Supervisor

end OpticalLink
