import OpticalLink.Proofs.Link.Session

/-!
# Delivery over an open channel

A device that only sends messages, and a host that receives: every call of `receive`
succeeds, and what the host has been handed is a prefix of what the device has sent
(`Session.received_isPrefix_sent`). It is all of it whenever no byte waits. Frames may be
cut anywhere by the chunks of a read, the reads of a call and the calls themselves.
-/

namespace OpticalLink

/-- The steps of a device that sends messages with canonical tags and of a host that
receives. Nothing else is written and the channel is never closed. -/
def LinkStep.Sends : LinkStep → Prop
  | .send message => message.Built ∧ ∀ field ∈ message.fields, field.tag.Canonical
  | .failWrites _ | .receive => True
  | .write _ | .close => False

/-- Closing is none of these steps. -/
theorem LinkStep.Sends.ne_close {step : LinkStep} (sends : step.Sends) : step ≠ .close := by
  rintro rfl
  exact sends

namespace Session

variable {session : Session}

/-- All that was written are the frames of the messages that were sent, each of which
fits a frame. -/
structure Framed (session : Session) : Prop where
  written_eq : session.written = framesOf session.sent
  canonical : ∀ message ∈ session.sent, message.Canonical
  fits : ∀ message ∈ session.sent, message.serialize.length ≤ Frame.maxLength

/-- A message that is sent adds its frame. -/
theorem Framed.send (framed : session.Framed) {message : Message}
    (canonical : message.Canonical) : (session.step (.send message)).Framed := by
  rcases session.step_send message with same | ⟨channel, fits, _, same⟩
  · rw [same]
    exact framed
  · rw [same]
    have written_eq : session.written ++ Frame.wrap message.serialize =
        framesOf (session.sent ++ [message]) := by
      rw [framed.written_eq, framesOf, framesOf, List.flatMap_append, List.flatMap_singleton]
    refine ⟨written_eq, ?_, ?_⟩
    · intro other member
      rcases List.mem_append.mp member with earlier | last
      · exact framed.canonical other earlier
      · rwa [List.mem_singleton.mp last]
    · intro other member
      rcases List.mem_append.mp member with earlier | last
      · exact framed.fits other earlier
      · rwa [List.mem_singleton.mp last]

/-- Only frames are written while the device only sends. -/
theorem Framed.step (framed : session.Framed) {step : LinkStep} (sends : step.Sends) :
    (session.step step).Framed := by
  obtain ⟨written_eq, canonical, fits⟩ := framed
  cases step with
  | send message => exact Framed.send ⟨written_eq, canonical, fits⟩ (sends.1.canonical sends.2)
  | failWrites fail => exact ⟨written_eq, canonical, fits⟩
  | receive =>
    simp only [Session.step]
    split
    next => exact ⟨written_eq, canonical, fits⟩
    next => exact ⟨written_eq, canonical, fits⟩
  | write bytes => exact sends.elim
  | close => exact sends.elim

/-- The frames of a session are those of the messages sent in it. -/
theorem framed_run (hostChunk deviceChunk : Nat) {steps : List LinkStep}
    (sends : ∀ step ∈ steps, step.Sends) :
    ((start hostChunk deviceChunk).run steps).Framed := by
  have preserved : ∀ session step, LinkStep.Sends step → Framed session →
      (session.step step).Framed := fun _ _ sends framed => framed.step sends
  have initially : (start hostChunk deviceChunk).Framed :=
    ⟨rfl, fun _ member => absurd member List.not_mem_nil,
      fun _ member => absurd member List.not_mem_nil⟩
  exact run_preserves preserved initially sends

/-- Sending and receiving in any order, with chunks of any size and with writes failing
at any time: receiving never fails, and what it hands out is a prefix of what was sent.
When no byte waits, it is all that was sent, and the counters say so. -/
theorem received_isPrefix_sent (hostChunk deviceChunk : Nat) (steps : List LinkStep)
    (sends : ∀ step ∈ steps, step.Sends) :
    let session := (start hostChunk deviceChunk).run steps
    session.failures = [] ∧ session.received <+: session.sent ∧
      (session.pending = [] → session.received = session.sent ∧
        session.link.stats =
          { delivered := session.sent.length, oversized := 0, rejected := 0 }) := by
  intro session
  obtain ⟨⟨consumed, consistent⟩, prompt⟩ : (∃ consumed, session.Consistent _ consumed) ∧
      session.Prompt := prompt_run hostChunk deviceChunk fun step member =>
    (sends step member).ne_close
  have framed : session.Framed := framed_run hostChunk deviceChunk sends
  have fed := feed_framesOf framed.canonical framed.fits
  have received_eq : session.received = messagesIn consumed := by
    rw [← consistent.messages_eq, prompt.queue_eq, List.append_nil]
  have sent_eq : session.sent = messagesIn (consumed ++ session.pending) := by
    rw [← consistent.written_eq, framed.written_eq, messagesIn, fed]
  refine ⟨prompt.failures_eq, ?_, ?_⟩
  · rw [received_eq, sent_eq, messagesIn_append]
    exact List.prefix_append _ _
  · intro nothingWaits
    have consumed_eq : consumed = framesOf session.sent := by
      rw [← framed.written_eq, consistent.written_eq, nothingWaits, List.append_nil]
    constructor
    · rw [received_eq, sent_eq, nothingWaits, List.append_nil]
    · rw [Link.stats, consistent.receiver_eq, consumed_eq, fed]
      rfl

/-- A report whose frame is not written at first, and is then read in two calls. -/
theorem received_isPrefix_sent_retried_report :
    let report := (Message.ofReply .statusReport).addMotorPosition ⟨1, 2, 3⟩
    let steps := [.failWrites true, .send report, .failWrites false, .send report, .receive,
      .receive]
    (∀ step ∈ steps, step.Sends) ∧ ((start 1 1).run steps).received = [report] := by
  intro report steps
  have built : report.Built := .motorPosition (.reply .empty .statusReport) ⟨1, 2, 3⟩
  have canonical : ∀ field ∈ report.fields, field.tag.Canonical := fun field member =>
    (Message.canonical_positionReport ⟨1, 2, 3⟩ field member).tag.imp fun _ tag => tag.2
  have sends : ∀ step ∈ steps, step.Sends := by
    simp only [steps, List.forall_mem_cons, LinkStep.Sends]
    exact ⟨trivial, ⟨built, canonical⟩, trivial, ⟨built, canonical⟩, trivial, trivial,
      fun _ member => absurd member List.not_mem_nil⟩
  have everythingRead : ((start 1 1).run steps).pending = [] := by decide +kernel
  have sentOnce : ((start 1 1).run steps).sent = [report] := by decide +kernel
  obtain ⟨_, _, complete⟩ := received_isPrefix_sent 1 1 steps sends
  obtain ⟨all, _⟩ := complete everythingRead
  exact ⟨sends, all.trans sentOnce⟩

end Session

end OpticalLink
