import OpticalLink.Proofs.Link.Session

/-!
# Closing a channel

A channel that is closed can still be read until it is empty. The call that empties it
may fail, though: when it runs dry before its last read, it reports the closing, and the
messages it has read stay in the queue. No later call hands them out.
`Session.received_after_close` says which bytes are lost so, and what reaches the host.
-/

namespace OpticalLink

/-- How many of the bytes that wait at a closed channel are read by the call that fails.
All calls before it read the most a call can. -/
def strandedBytes (chunk waiting : Nat) : Nat :=
  let last := waiting % (FrameReader.readsPerCall * chunk)
  if last + chunk ≤ FrameReader.readsPerCall * chunk then last else 0

@[simp] theorem strandedBytes_zero (chunk : Nat) : strandedBytes chunk 0 = 0 := by
  simp [strandedBytes]

/-- A call that runs dry strands everything that waits. -/
theorem strandedBytes_of_le {chunk waiting : Nat} (positive : 0 < chunk)
    (runsDry : waiting + chunk ≤ FrameReader.readsPerCall * chunk) :
    strandedBytes chunk waiting = waiting := by
  have last_eq : waiting % (FrameReader.readsPerCall * chunk) = waiting :=
    Nat.mod_eq_of_lt (by omega)
  simp only [strandedBytes, last_eq, if_pos runsDry]

/-- A call that does not run dry strands nothing, and leaves it to the later ones. -/
theorem strandedBytes_sub_of_lt {chunk waiting : Nat}
    (enough : FrameReader.readsPerCall * chunk < waiting + chunk) :
    strandedBytes chunk (waiting - FrameReader.readsPerCall * chunk) =
      strandedBytes chunk waiting := by
  by_cases full : FrameReader.readsPerCall * chunk ≤ waiting
  · simp only [strandedBytes, Nat.mod_eq_sub_mod full]
  · have last_eq : waiting % (FrameReader.readsPerCall * chunk) = waiting :=
      Nat.mod_eq_of_lt (by omega)
    have nothingLeft : waiting - FrameReader.readsPerCall * chunk = 0 := by omega
    rw [nothingLeft, strandedBytes_zero, strandedBytes, last_eq, if_neg (by omega)]

/-- A write to a closed channel fails. -/
theorem Channel.write_ne_ok {channel written : Channel} {bytes : Bytes}
    (closed : channel.closed = true) : channel.write .right bytes ≠ .ok written := by
  intro success
  rw [(Channel.of_write_eq_ok success).1] at closed
  cases closed

namespace Session

variable {session : Session} {chunk stranded : Nat} {consumed : Bytes}

/-- A session whose channel is closed, and whose calls will strand so many of the bytes
that wait. Once bytes are stranded, the host has what came before them. -/
structure Closing (session : Session) (chunk stranded : Nat) : Prop where
  closed : session.link.channel.closed = true
  consistent : ∃ consumed, session.Consistent chunk consumed
  progress :
    session.link.reader.queue = [] ∧ strandedBytes chunk session.pending.length = stranded ∨
      session.pending = [] ∧ session.received =
        messagesIn (session.written.take (session.written.length - stranded))

/-- What the host has consumed is what was written before the bytes that wait. -/
theorem Consistent.consumed_eq (consistent : session.Consistent chunk consumed) :
    session.written.take (session.written.length - session.pending.length) = consumed := by
  rw [consistent.written_eq, List.length_append, Nat.add_sub_cancel, List.take_left]

/-- Nothing can be written to a closed channel. -/
theorem step_write_of_closed (closed : session.link.channel.closed = true) (bytes : Bytes) :
    session.step (.write bytes) = session := by
  rcases session.step_write bytes with same | ⟨channel, write, _⟩
  · exact same
  · exact absurd write (Channel.write_ne_ok closed)

/-- Nothing can be sent over a closed channel. -/
theorem step_send_of_closed (closed : session.link.channel.closed = true) (message : Message) :
    session.step (.send message) = session := by
  rcases session.step_send message with same | ⟨channel, _, write, _⟩
  · exact same
  · exact absurd write (Channel.write_ne_ok closed)

/-- Receiving never writes. -/
@[simp] theorem written_step_receive (session : Session) :
    (session.step .receive).written = session.written := by
  simp only [step]
  split <;> rfl

/-- Closing a channel strands what the next call to run dry will have read. -/
theorem Prompt.closing (prompt : session.Prompt) (consistent : session.Consistent chunk consumed) :
    (session.step .close).Closing chunk (strandedBytes chunk session.pending.length) where
  closed := rfl
  consistent := ⟨consumed, consistent.of_left_eq rfl⟩
  progress := .inl ⟨prompt.queue_eq, rfl⟩

/-- A call that finds the channel closed strands what it reads. -/
theorem Closing.receive_of_findsClosed (closing : session.Closing chunk stranded)
    (findsClosed : session.link.FindsClosed) :
    (session.step .receive).Closing chunk stranded := by
  obtain ⟨closed, ⟨consumed, consistent⟩, progress⟩ := closing
  have runsDry := (consistent.findsClosed_iff.mp findsClosed).2
  have nothingLeft : session.link.channelAfterCall.pending .left = [] := by
    rw [Link.channelAfterCall, Channel.pending_discard, consistent.bytesPerCall_eq]
    exact List.drop_eq_nil_of_le (Nat.le_of_add_right_le runsDry)
  have received_eq : session.received =
      messagesIn (session.written.take (session.written.length - stranded)) := by
    -- The bytes of this call are stranded, unless an earlier call has emptied the channel.
    rcases progress with ⟨queue_eq, waiting⟩ | ⟨_, complete⟩
    · rw [strandedBytes_of_le consistent.chunk_pos runsDry] at waiting
      rw [← waiting, consistent.consumed_eq, ← consistent.messages_eq, queue_eq, List.append_nil]
    · exact complete
  have after := consistent.receive
  rw [consistent.step_receive_of_findsClosed findsClosed] at after ⊢
  exact {
    closed := (Channel.closed_discard _).trans closed
    consistent := ⟨_, after⟩
    progress := .inr ⟨nothingLeft, received_eq⟩ }

/-- A call that does not find the channel closed leaves the stranding to later calls. -/
theorem Closing.receive_of_not_findsClosed (closing : session.Closing chunk stranded)
    (stillOpen : ¬ session.link.FindsClosed) :
    (session.step .receive).Closing chunk stranded := by
  obtain ⟨closed, ⟨consumed, consistent⟩, progress⟩ := closing
  have enough : FrameReader.readsPerCall * chunk < session.pending.length + chunk := by
    refine Nat.not_le.mp fun short => ?_
    exact stillOpen (consistent.findsClosed_iff.mpr ⟨closed, short⟩)
  have waiting : strandedBytes chunk session.pending.length = stranded := by
    rcases progress with ⟨_, waiting⟩ | ⟨empty, _⟩
    · exact waiting
    · rw [empty, List.length_nil, Nat.zero_add] at enough
      exact absurd enough (Nat.not_lt.mpr (Nat.le_mul_of_pos_left chunk (by decide)))
  have left_eq : (session.link.channelAfterCall.pending .left).length =
      session.pending.length - FrameReader.readsPerCall * chunk := by
    rw [Link.channelAfterCall, Channel.pending_discard, List.length_drop,
      consistent.bytesPerCall_eq]
    rfl
  have after := consistent.receive
  rw [consistent.step_receive_of_not_findsClosed stillOpen] at after ⊢
  refine {
    closed := (Channel.closed_discard _).trans closed
    consistent := ⟨_, after⟩
    progress := .inl ⟨rfl, ?_⟩ }
  rw [← waiting, ← strandedBytes_sub_of_lt enough, ← left_eq]
  rfl

/-- Once the channel is closed, no step changes what was written or what will be
stranded. -/
theorem Closing.step (closing : session.Closing chunk stranded) (step : LinkStep) :
    (session.step step).written = session.written ∧
      (session.step step).Closing chunk stranded := by
  have closed := closing.closed
  cases step with
  | send message =>
    rw [step_send_of_closed closed]
    exact ⟨rfl, closing⟩
  | write bytes =>
    rw [step_write_of_closed closed]
    exact ⟨rfl, closing⟩
  | failWrites fail =>
    obtain ⟨_, ⟨consumed, consistent⟩, progress⟩ := closing
    exact ⟨rfl, closed, ⟨consumed, consistent.of_left_eq rfl⟩, progress⟩
  | receive =>
    refine ⟨written_step_receive session, ?_⟩
    by_cases findsClosed : session.link.FindsClosed
    · exact closing.receive_of_findsClosed findsClosed
    · exact closing.receive_of_not_findsClosed findsClosed
  | close =>
    obtain ⟨_, ⟨consumed, consistent⟩, progress⟩ := closing
    exact ⟨rfl, rfl, ⟨consumed, consistent.of_left_eq rfl⟩, progress⟩

/-- Once the channel is closed, no run changes what was written or what is stranded at
its end. -/
theorem Closing.run (closing : session.Closing chunk stranded) (steps : List LinkStep) :
    (session.run steps).written = session.written ∧
      (session.run steps).Closing chunk stranded := by
  have preserved : ∀ (other : Session) step, True →
      (other.written = session.written ∧ other.Closing chunk stranded) →
      (other.step step).written = session.written ∧
        (other.step step).Closing chunk stranded := by
    rintro other step - ⟨same, closing⟩
    obtain ⟨same', closing'⟩ := closing.step step
    exact ⟨same'.trans same, closing'⟩
  exact run_preserves preserved ⟨rfl, closing⟩ (fun _ _ => trivial)

/-- When no byte waits any more, the host has the messages in all that was written before
the stranded bytes. -/
theorem Closing.received_eq (closing : session.Closing chunk stranded)
    (nothingWaits : session.pending = []) :
    session.received =
      messagesIn (session.written.take (session.written.length - stranded)) := by
  obtain ⟨_, ⟨consumed, consistent⟩, ⟨queue_eq, waiting⟩ | ⟨_, complete⟩⟩ := closing
  · rw [nothingWaits, List.length_nil, strandedBytes_zero] at waiting
    have everything := consistent.consumed_eq
    rw [nothingWaits, List.length_nil] at everything
    rw [← waiting, everything, ← consistent.messages_eq, queue_eq, List.append_nil]
  · exact complete

/-- The channel is closed at some point of a run. When no byte waits any more, the host has
the messages in what was written, up to the bytes that the failing call has read. It has
the messages in all that was written exactly when those last bytes complete none. -/
theorem received_after_close (hostChunk deviceChunk : Nat) (before after : List LinkStep)
    (notClose : ∀ step ∈ before, step ≠ .close) :
    let atClose := (start hostChunk deviceChunk).run before
    let session := (start hostChunk deviceChunk).run (before ++ .close :: after)
    let stranded := strandedBytes (max hostChunk 1) atClose.pending.length
    let early := session.written.take (session.written.length - stranded)
    let late := session.written.drop (session.written.length - stranded)
    session.written = atClose.written ∧
      (session.pending = [] →
        session.received = messagesIn early ∧
          (session.received = messagesIn session.written ↔
            ((Receiver.new.feed early).1.feed late).2 = [])) := by
  intro atClose session stranded early late
  obtain ⟨⟨consumed, consistent⟩, prompt⟩ : (∃ consumed, atClose.Consistent _ consumed) ∧
      atClose.Prompt := prompt_run hostChunk deviceChunk notClose
  have session_eq : session = (atClose.step .close).run after := by
    rw [← run_cons, ← run_append]
  obtain ⟨written_eq, closing⟩ : (session.written = (atClose.step .close).written) ∧
      session.Closing (max hostChunk 1) stranded := by
    rw [session_eq]
    exact (prompt.closing consistent).run after
  refine ⟨written_eq, fun nothingWaits => ?_⟩
  have received_eq : session.received = messagesIn early := closing.received_eq nothingWaits
  have written_split : messagesIn session.written =
      messagesIn early ++ ((Receiver.new.feed early).1.feed late).2 := by
    rw [← messagesIn_append, List.take_append_drop]
  refine ⟨received_eq, ?_⟩
  rw [received_eq, written_split, List.self_eq_append_right]

/-- Of two reports, the first is received in time, and the second is stranded. -/
theorem received_after_close_second_report :
    let report := (Message.ofReply .statusReport).addMotorPosition ⟨1, 2, 3⟩
    let before := [.send report, .receive, .send report]
    let session := (start 4096 4096).run (before ++ [.close, .receive])
    (∀ step ∈ before, step ≠ .close) ∧ session.pending = [] ∧ session.received = [report] := by
  intro report before session
  have notClose : ∀ step ∈ before, step ≠ .close := by decide +kernel
  have nothingWaits : session.pending = [] := by decide +kernel
  have early_eq : session.written.take (session.written.length - strandedBytes (max 4096 1)
      ((start 4096 4096).run before).pending.length) = Frame.wrap report.serialize := by
    decide +kernel
  have received_eq :=
    ((received_after_close 4096 4096 before [.receive] notClose).2 nothingWaits).1
  rw [early_eq, messagesIn_wrap (Message.canonical_positionReport _) (by decide)] at received_eq
  exact ⟨notClose, nothingWaits, received_eq⟩

/-- A report that waits when the channel is closed is lost: the call that reads it fails, and
so does every later one. -/
theorem report_lost_at_close :
    let report := (Message.ofReply .statusReport).addMotorPosition ⟨1, 2, 3⟩
    let session := (start 4096 4096).run
      [.write (Frame.wrap report.serialize), .close, .receive, .receive]
    session.pending = [] ∧ session.received = [] ∧ messagesIn session.written = [report] := by
  intro report session
  have written_eq : session.written = Frame.wrap report.serialize := by decide +kernel
  refine ⟨by decide +kernel, by decide +kernel, ?_⟩
  rw [written_eq]
  exact messagesIn_wrap (Message.canonical_positionReport _) (by decide)

end Session

end OpticalLink
