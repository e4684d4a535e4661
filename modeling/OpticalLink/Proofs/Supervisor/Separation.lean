import OpticalLink.Proofs.Supervisor.MotorSide
import OpticalLink.Proofs.Supervisor.Run

/-!
# The accelerometer apart

A run with all that the accelerometer does, and with all that is done to its link, shows the
same of the motor side as the run without it. `Supervisor.trace` is what a run shows, and
`Supervisor.trace_without_accelerometer` says that leaving these actions out of the run leaves
them out of the trace and changes nothing else.
-/

namespace OpticalLink.Supervisor

/-! ## Actions -/

/-- What can happen to a supervisor. -/
inductive Action where
  /-- Something is done to the supervisor, or to what it uses. -/
  | operate (operation : Operation)
  /-- The device of a peer does something to the channel that it shares with the link: it writes,
  takes what has reached it, closes the channel, or makes writes fail. -/
  | conduct (peer : Peer) (change : Channel → Channel)

/-- The peer that a call comes from, or whose link it is about. -/
def Call.peer? : Call → Option Peer
  | .attach peer _ | .detach peer | .disturb peer _ | .handle peer _ _ => some peer
  | _ => none

/-- Whether an action comes from the accelerometer, or is about its link. -/
def Action.ofAccelerometer : Action → Bool
  | .operate (.call call) => call.peer? == some .accelerometer
  | .operate (.poll _) => false
  | .conduct peer _ => peer == .accelerometer

/-- The supervisor after the device of a peer has done something to its channel. -/
def conduct (supervisor : Supervisor) (peer : Peer) (change : Channel → Channel) : Supervisor :=
  supervisor.setLink peer ((supervisor.slot peer).link.map fun link =>
    { link with channel := change link.channel })

/-- The supervisor after an action. -/
def act (supervisor : Supervisor) : Action → Supervisor
  | .operate operation => supervisor.operate operation
  | .conduct peer change => supervisor.conduct peer change

/-- What comes back from an action. -/
inductive Answer where
  | silent
  | outcome (result : Except SupervisorError Unit)
  | detached (link : Option Link)

/-- What comes back from an action on a supervisor. -/
def answer (supervisor : Supervisor) : Action → Answer
  | .operate (.call (.detach peer)) => .detached (supervisor.detach peer).1
  | .operate (.call (.handle peer message now)) => .outcome (supervisor.handle peer message now).1
  | .operate (.call (.move position)) => .outcome (supervisor.moveMotors position).1
  | .operate (.call .home) => .outcome supervisor.homing.1
  | .operate (.call .reboot) => .outcome supervisor.reboot.1
  | .operate (.call .upgrade) => .outcome supervisor.upgradeFirmware.1
  | .operate (.call (.calibrate offsetX offsetY)) =>
    .outcome (supervisor.calibrate offsetX offsetY).1
  | .operate (.call (.setDistance distance)) => .outcome (supervisor.setDistance distance).1
  | _ => .silent

/-! ## What one action shows -/

variable {supervisor other : Supervisor} {action : Action}

/-- What the accelerometer does, and what is done to its link, leaves the motor side. -/
theorem spares_act (apart : action.ofAccelerometer = true) :
    Spares fun supervisor => supervisor.act action := by
  intro supervisor
  cases action with
  | conduct peer change =>
    cases peer with
    | motors => cases apart
    | accelerometer => rfl
  | operate operation =>
    cases operation with
    | poll now => cases apart
    | call call =>
      cases call with
      | handle peer message now =>
        cases peer with
        | motors => cases apart
        | accelerometer => exact spares_handle message now supervisor
      | attach peer channel | detach peer | disturb peer channel =>
        cases peer with
        | motors => cases apart
        | accelerometer => rfl
      | _ => cases apart

/-- All other actions are answered, and acted on, by the motor side. -/
theorem answers_act (motors : action.ofAccelerometer = false) :
    Answers fun supervisor => (supervisor.answer action, supervisor.act action) := by
  cases action with
  | conduct peer change =>
    cases peer with
    | motors => exact fun _ => rfl
    | accelerometer => cases motors
  | operate operation =>
    cases operation with
    | poll now =>
      exact fun supervisor => congrArg (Prod.mk Answer.silent) (respects_poll now supervisor)
    | call call =>
      cases call with
      | handle peer message now =>
        cases peer with
        | motors => exact (answers_handle message now).tell Answer.outcome
        | accelerometer => cases motors
      | attach peer channel | detach peer | disturb peer channel =>
        cases peer with
        | motors => exact fun _ => rfl
        | accelerometer => cases motors
      | move position => exact (answers_command _ _).tell Answer.outcome
      | home => exact (answers_command _ _).tell Answer.outcome
      | reboot => exact (answers_command _ _).tell Answer.outcome
      | upgrade => exact (answers_command _ _).tell Answer.outcome
      | _ => exact fun _ => rfl

/-! ## What a run shows -/

/-- What an action shows: its answer, and all of the supervisor that is not the accelerometer's.
The link to the motors is a part of it, with every byte that waits in its channel. -/
structure Sight where
  action : Action
  answer : Answer
  side : Supervisor

/-- What some actions show, one after the other. -/
def trace (supervisor : Supervisor) : List Action → List Sight
  | [] => []
  | first :: rest =>
    ⟨first, supervisor.answer first, (supervisor.act first).motorSide⟩ ::
      (supervisor.act first).trace rest

/-- Two supervisors with one motor side show the same, and keep one motor side, though only one
of them takes part in what the accelerometer does. -/
theorem trace_filter (same : supervisor.motorSide = other.motorSide) (actions : List Action) :
    (supervisor.trace actions).filter (fun sight => !sight.action.ofAccelerometer) =
        other.trace (actions.filter fun action => !action.ofAccelerometer) ∧
      (actions.foldl act supervisor).motorSide =
        ((actions.filter fun action => !action.ofAccelerometer).foldl act other).motorSide := by
  induction actions generalizing supervisor other with
  | nil => exact ⟨rfl, same⟩
  | cons first rest inductionHypothesis =>
    rw [trace, List.foldl_cons]
    cases apart : first.ofAccelerometer with
    | true =>
      have left : (supervisor.act first).motorSide = other.motorSide :=
        (spares_act apart supervisor).trans same
      simp only [List.filter_cons, apart, Bool.not_true, Bool.false_eq_true, if_false]
      exact inductionHypothesis left
    | false =>
      have shown : outcomeSide (supervisor.answer first, supervisor.act first) =
          outcomeSide (other.answer first, other.act first) := by
        rw [answers_act apart supervisor, same, ← answers_act apart other]
      have sameAnswer : supervisor.answer first = other.answer first := congrArg Prod.fst shown
      have sameSide : (supervisor.act first).motorSide = (other.act first).motorSide :=
        congrArg Prod.snd shown
      obtain ⟨sameTrace, sameEnd⟩ := inductionHypothesis sameSide
      simp only [List.filter_cons, apart, Bool.not_false, if_true, trace, List.foldl_cons]
      exact ⟨by rw [sameAnswer, sameSide, sameTrace], sameEnd⟩

/-- Without what the accelerometer does and what is done to its link, every other action of a run
has the same answer and leaves the same motor side: what is known of the motors, the light and
the survey, the store, the presence of the motors and all that was sent to them, and the time of
the next round. So does the run as a whole. -/
theorem trace_without_accelerometer (supervisor : Supervisor) (actions : List Action) :
    (supervisor.trace actions).filter (fun sight => !sight.action.ofAccelerometer) =
        supervisor.trace (actions.filter fun action => !action.ofAccelerometer) ∧
      (actions.foldl act supervisor).motorSide =
        ((actions.filter fun action => !action.ofAccelerometer).foldl act supervisor).motorSide :=
  trace_filter rfl actions

end OpticalLink.Supervisor
