import OpticalLink.Proofs.Supervisor.Chronicle
import OpticalLink.Proofs.Supervisor.Links
import OpticalLink.Proofs.Supervisor.Watch

/-!
# Attempts to use a link

Every round of supervision tries a link once to receive and, when a request is due, once more to
send it. The link keeps one record of how the last attempt ended, whichever of the two it was. A
step tells its attempt if it failed and the record says that the one before it did not
(`Supervisor.told_link_step`), so `warnings` is all that is told of a link.

Nothing is assumed of the transport: it may refuse to be read and go on taking what is written, or
the other way about.
-/

namespace OpticalLink

/-- What a link is tried for. -/
inductive Purpose where
  | receive
  | request
deriving DecidableEq, Repr

/-- A use of a link in a round of supervision, and how it ended. -/
structure Attempt where
  purpose : Purpose
  failed : Bool
deriving DecidableEq, Repr

/-- How a failed attempt is told. -/
def Attempt.event (peer : Peer) (attempt : Attempt) : Event :=
  match attempt.purpose with
  | .receive => .receiveFailed peer
  | .request => .requestFailed peer

/-- An attempt is told if it failed and the one before it did not. -/
def Attempt.warning? (failing : Bool) (attempt : Attempt) : Option Attempt :=
  if attempt.failed && !failing then some attempt else none

/-- The attempts that are told. -/
def warnings (failing : Bool) : List Attempt → List Attempt
  | [] => []
  | first :: rest => (first.warning? failing).toList ++ warnings first.failed rest

namespace Supervisor

variable {T : Type}

/-- How the last attempt to use the link to a peer ended, if there is a link. -/
def record (supervisor : Supervisor T) (peer : Peer) : Option Bool :=
  (supervisor.linkTo peer).map Link.failing

/-- Whether the last attempt to use the link to a peer failed. -/
def failing (supervisor : Supervisor T) (peer : Peer) : Bool :=
  (supervisor.slot peer).link.any Link.failing

/-- The attempt to use a link to a peer that a step makes, with the status request that goes out
now. -/
def Step.attempt? [Transport T] (peer : Peer) (request : Message) (link : Link T) :
    Step T → Option Attempt
  | .receive other => if other = peer then some ⟨.receive, link.receiveFails⟩ else none
  | .request _ => some ⟨.request, link.sendFails request⟩
  | _ => none

/-- The attempt to use the link to a peer that a step makes. -/
def attempt? [Transport T] (supervisor : Supervisor T) (peer : Peer) (step : Step T) :
    Option Attempt :=
  (supervisor.slot peer).link.bind fun link => step.attempt? peer supervisor.statusRequest link

/-- The attempts to use the link to a peer that some steps make. -/
def attempts [Transport T] (supervisor : Supervisor T) (peer : Peer) : List (Step T) → List Attempt
  | [] => []
  | first :: rest =>
    (supervisor.attempt? peer first).toList ++ (supervisor.step first).attempts peer rest

/-- Whether a call gives a peer another link, or takes its link away. -/
def Call.relinks (peer : Peer) : Call T → Bool
  | .attach other _ | .detach other => other = peer
  | _ => false

/-- Whether an operation gives a peer another link, or takes its link away. -/
def Operation.relinks (peer : Peer) : Operation T → Bool
  | .call inner => inner.relinks peer
  | .poll _ => false

/-- Whether a step gives a peer another link, or takes its link away. -/
def Step.relinks (peer : Peer) : Step T → Bool
  | .call inner => inner.relinks peer
  | _ => false

variable {supervisor : Supervisor T} {peer : Peer}

/-! ## What leaves the record -/

/-- What leaves a link leaves its record. -/
theorem record_eq_of_linkTo_eq {other : Supervisor T}
    (same : supervisor.linkTo peer = other.linkTo peer) :
    supervisor.record peer = other.record peer :=
  congrArg (Option.map Link.failing) same

@[simp] theorem record_note (event : Event) :
    (supervisor.note event).record peer = supervisor.record peer :=
  record_eq_of_linkTo_eq (linkTo_note event)

@[simp] theorem record_noteIf (condition : Bool) (event : Event) :
    (supervisor.noteIf condition event).record peer = supervisor.record peer :=
  record_eq_of_linkTo_eq (linkTo_noteIf condition event)

theorem record_setSlot (other : Peer) (slot : PeerSlot T) :
    (supervisor.setSlot other slot).record peer =
      if other = peer then slot.link.map Link.failing else supervisor.record peer := by
  rw [record, linkTo_setSlot, apply_ite (Option.map Link.failing)]
  rfl

theorem record_setLink (other : Peer) (link : Option (Link T)) :
    (supervisor.setLink other link).record peer =
      if other = peer then link.map Link.failing else supervisor.record peer :=
  record_setSlot other _

/-- A link with the same record in the place of one changes nothing. -/
theorem record_setLink_of_eq {other : Peer} {link : Option (Link T)}
    (same : link.map Link.failing = supervisor.record other) :
    (supervisor.setLink other link).record peer = supervisor.record peer := by
  rw [record_setLink, same]
  split
  next this => rw [this]
  next => rfl

/-- What a device does is no attempt of the supervisor. -/
@[simp] theorem record_disturb (other : Peer) (channel : T) :
    (supervisor.disturb other channel).record peer = supervisor.record peer := by
  apply record_setLink_of_eq
  rw [Option.map_map]
  rfl

@[simp] theorem record_expire (other : Peer) (now : Instant) :
    (expire now supervisor other).record peer = supervisor.record peer :=
  record_eq_of_linkTo_eq (linkTo_expire other now)

variable [Transport T]

/-- A message that is no status request is sent without a record of its outcome. -/
@[simp] theorem record_send (other : Peer) (message : Message) :
    (supervisor.send other message).2.record peer = supervisor.record peer := by
  simp only [send]
  split
  next => rfl
  next link attached =>
    apply record_setLink_of_eq
    rw [record, linkTo, attached, Option.map_some, Option.map_some, Link.failing_send]

@[simp] theorem record_command (message : Message) (event : Event) :
    (supervisor.command message event).2.record peer = supervisor.record peer := by
  have sent : (supervisor.send .motors message).2.record peer = supervisor.record peer :=
    record_send _ _
  simp only [command]
  split
  next =>
    split
    next result => rwa [result] at sent
    next result => rwa [result] at sent
  next => rfl

@[simp] theorem record_handleCommand (other : Peer) (message : Message) :
    (supervisor.handleCommand other message).2.record peer = supervisor.record peer := by
  simp only [handleCommand]
  split
  next => rw [restoreMotors, record_send, record_note]
  next => rfl

@[simp] theorem record_handle (other : Peer) (message : Message) (now : Instant) :
    (supervisor.handle other message now).2.record peer = supervisor.record peer := by
  rw [handle]
  split
  next reply _ => exact record_eq_of_linkTo_eq (linkTo_handleReply other reply message now)
  next => exact record_handleCommand other message

@[simp] theorem record_handleNoting (other : Peer) (now : Instant) (message : Message) :
    (handleNoting other now supervisor message).record peer = supervisor.record peer := by
  have handled : (supervisor.handle other message now).2.record peer = supervisor.record peer :=
    record_handle other message now
  simp only [handleNoting]
  split
  next result => rwa [result] at handled
  next result =>
    rw [result] at handled
    rwa [record_note]

/-! ## What changes the record -/

/-- The record after the attempt of a step. -/
def recordAfter? (supervisor : Supervisor T) (peer : Peer) (step : Step T) : Option Bool :=
  (supervisor.slot peer).link.map fun link =>
    (step.attempt? peer supervisor.statusRequest link).elim link.failing Attempt.failed

theorem record_receive (other : Peer) :
    (supervisor.receive other).2.record peer = supervisor.recordAfter? peer (.receive other) := by
  by_cases this : other = peer
  · subst this
    rw [recordAfter?]
    simp only [receive, Step.attempt?, if_true, Option.elim_some]
    split
    next detached => rw [detached, record, linkTo, detached]; rfl
    next link attached =>
      rw [attached, Option.map_some, Link.receiveFails]
      split
      next result =>
        rw [record_setLink, if_pos rfl, result]
        rfl
      next result =>
        rw [record_noteIf, record_setLink, if_pos rfl, result]
        rfl
  · have kept : supervisor.recordAfter? peer (.receive other) = supervisor.record peer := by
      simp only [recordAfter?, Step.attempt?, if_neg this, Option.elim_none]
      rfl
    rw [kept]
    simp only [receive]
    split
    next => rfl
    next =>
      split
      next => rw [record_setLink, if_neg this]
      next => rw [record_noteIf, record_setLink, if_neg this]

theorem record_requestFrom (request : Message) (deadline : Instant) (other : Peer) :
    (requestFrom request deadline supervisor other).record peer =
      if other = peer then
        (supervisor.slot peer).link.map fun link => link.sendFails request
      else supervisor.record peer := by
  simp only [requestFrom]
  split
  next detached =>
    split
    next this => rw [← this, record, linkTo, detached]; rfl
    next => rfl
  next link attached =>
    rw [record_noteIf, record_setSlot]
    split
    next this =>
      rw [← this, attached, Option.map_some, Option.map_some, Link.sendFails]
      cases (link.send request).1 <;> rfl
    next => rfl

/-- Asking one peer leaves what is kept for the other. -/
theorem slot_requestFrom_of_ne {other : Peer} (different : other ≠ peer) (request : Message)
    (deadline : Instant) :
    (requestFrom request deadline supervisor other).slot peer = supervisor.slot peer := by
  have noted (supervisor : Supervisor T) (condition : Bool) (event : Event) :
      (supervisor.noteIf condition event).slot peer = supervisor.slot peer := by
    cases condition <;> cases peer <;> rfl
  simp only [requestFrom]
  split
  next => rfl
  next =>
    rw [noted]
    cases other <;> cases peer <;> first | rfl | exact absurd rfl different

theorem record_requestStatus (now : Instant) :
    (supervisor.requestStatus now).record peer = supervisor.recordAfter? peer (.request now) := by
  simp only [requestStatus, Peer.all, List.foldl_cons, List.foldl_nil]
  cases peer with
  | motors =>
    rw [record_requestFrom, if_neg (by decide), record_requestFrom, if_pos rfl]
    rfl
  | accelerometer =>
    rw [record_requestFrom, if_pos rfl, slot_requestFrom_of_ne (by decide)]
    rfl

/-- A step changes the record by its attempt, unless it gives the peer another link. -/
theorem record_step {step : Step T} (kept : step.relinks peer = false) :
    (supervisor.step step).record peer = supervisor.recordAfter? peer step := by
  cases step with
  | call call =>
    cases call with
    | attach other channel =>
      have different : other ≠ peer := of_decide_eq_false kept
      rw [step, Supervisor.call, attach, record_note, record_setLink, if_neg different]
      rfl
    | detach other =>
      have different : other ≠ peer := of_decide_eq_false kept
      rw [step, Supervisor.call, detach, record_setLink, if_neg different]
      rfl
    | disturb other channel => exact record_disturb other channel
    | handle other message now => exact record_handle other message now
    | move position => exact record_command _ _
    | home => exact record_command _ _
    | reboot => exact record_command _ _
    | upgrade => exact record_command _ _
    | _ => cases peer <;> rfl
  | receive other => exact record_receive other
  | handleReceived other message now => exact record_handleNoting other now message
  | expire other now => exact record_expire other now
  | request now =>
    have asked : (supervisor.step (.request now)).record peer =
        (supervisor.requestStatus now).record peer := by
      cases peer <;> rfl
    rw [asked, record_requestStatus]

/-! ## What is told of a link -/

/-- A step records how its attempt ended, and nothing else does. -/
theorem failing_step {step : Step T} (kept : step.relinks peer = false) :
    (supervisor.step step).failing peer =
      (supervisor.attempt? peer step).elim (supervisor.failing peer) Attempt.failed := by
  have failing_eq (supervisor : Supervisor T) :
      supervisor.failing peer = (supervisor.record peer).getD false := by
    rw [failing, record, linkTo]
    cases (supervisor.slot peer).link <;> rfl
  rw [failing_eq, record_step kept, recordAfter?, failing, attempt?]
  cases (supervisor.slot peer).link with
  | none => rfl
  | some link =>
    rw [Option.map_some, Option.bind_some]
    cases step.attempt? peer supervisor.statusRequest link <;> rfl

/-- A message tells nothing of a link. -/
theorem told_link_handle (other : Peer) (message : Message) (now : Instant) :
    (supervisor.handle other message now).2.told (.link peer) = supervisor.told (.link peer) := by
  rw [told_handle]
  split
  next => rw [told_markSeen, if_neg (by simp), List.append_nil]
  next => rfl

/-- Of the link to a peer, the status requests tell that asking this peer failed for the first
time. -/
theorem told_link_requestStatus (now : Instant) :
    (supervisor.requestStatus now).told (.link peer) = supervisor.told (.link peer) ++
      if (supervisor.slot peer).link.any (fun link =>
          link.sendFails supervisor.statusRequest && !link.failing) = true then
        [.requestFailed peer]
      else [] := by
  simp only [requestStatus, Peer.all, List.foldl_cons, List.foldl_nil, told_requestFrom]
  cases peer with
  | motors => simp
  | accelerometer =>
    rw [slot_requestFrom_of_ne (by decide)]
    simp

/-- What a failed attempt tells, for either purpose. -/
theorem toList_warning? {purpose : Purpose} {failed failing : Bool} :
    ((Attempt.warning? failing ⟨purpose, failed⟩).map (Attempt.event peer)).toList =
      if (failed && !failing) = true then [Attempt.event peer ⟨purpose, failed⟩] else [] := by
  rw [Attempt.warning?]
  split <;> rfl

/-- A step tells its attempt if it failed and the one before it did not. -/
theorem told_link_step (step : Step T) :
    (supervisor.step step).told (.link peer) = supervisor.told (.link peer) ++
      (((supervisor.attempt? peer step).bind (Attempt.warning? (supervisor.failing peer))).map
        (Attempt.event peer)).toList := by
  have quiet {step : Step T}
      (none_eq : step.attempt? peer supervisor.statusRequest = fun _ => none) :
      supervisor.told (.link peer) = supervisor.told (.link peer) ++
        (((supervisor.attempt? peer step).bind (Attempt.warning? (supervisor.failing peer))).map
          (Attempt.event peer)).toList := by
    rw [attempt?, none_eq, Option.bind_fun_none]
    exact (List.append_nil _).symm
  cases step with
  | call call =>
    rw [← quiet (by rfl)]
    cases call with
    | handle other message now => exact told_link_handle other message now
    | _ => exact told_call_of_handled?_eq_none rfl
  | receive other =>
    rw [Supervisor.step, told_receive, failing, attempt?]
    by_cases this : other = peer
    · subst this
      cases (supervisor.slot other).link with
      | none => simp
      | some link => simp [Step.attempt?, toList_warning?, Attempt.event]
    · simp [Step.attempt?, this]
  | handleReceived other message now =>
    rw [← quiet (by rfl), Supervisor.step, told_handleNoting, told_link_handle]
  | expire other now =>
    rw [← quiet (by rfl), Supervisor.step, told_expire, if_neg (by simp), List.append_nil]
  | request now =>
    have asked : (supervisor.step (.request now)).told (.link peer) =
        (supervisor.requestStatus now).told (.link peer) := rfl
    rw [asked, told_link_requestStatus, failing, attempt?]
    cases (supervisor.slot peer).link with
    | none => simp
    | some link => simp [Step.attempt?, toList_warning?, Attempt.event]

/-- What is told of a link that is kept are the failed attempts that follow one that worked. -/
theorem told_link_perform {steps : List (Step T)}
    (kept : ∀ step ∈ steps, step.relinks peer = false) :
    (supervisor.perform steps).told (.link peer) = supervisor.told (.link peer) ++
      (warnings (supervisor.failing peer) (supervisor.attempts peer steps)).map
        (Attempt.event peer) := by
  induction steps generalizing supervisor with
  | nil => exact (List.append_nil _).symm
  | cons first rest inductionHypothesis =>
    obtain ⟨firstKept, restKept⟩ := List.forall_mem_cons.mp kept
    rw [perform_cons, inductionHypothesis restKept, told_link_step, failing_step firstKept,
      attempts, List.append_assoc]
    cases supervisor.attempt? peer first with
    | none => rfl
    | some attempt =>
      rw [Option.bind_some, Option.elim_some, Option.toList_some, List.singleton_append, warnings,
        List.map_append]
      cases attempt.warning? (supervisor.failing peer) <;> rfl

end Supervisor

end OpticalLink
