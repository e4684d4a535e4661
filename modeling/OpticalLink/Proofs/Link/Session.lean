import OpticalLink.Proofs.Link.Writing

/-!
# Sessions between a device and its host

A session is a run of steps of a device that writes and a host that receives, with
everything that was written and handed out so far. `Session.consistent_run` is the
invariant of all sessions: the host has read a prefix of the written bytes, and what it
has handed out or still holds back are the messages in that prefix.
-/

namespace OpticalLink

/-- What a device and its host do with the channel between them. -/
inductive LinkStep where
  /-- The device sends a message as one frame. -/
  | send (message : Message)
  /-- The device writes bytes of any kind. -/
  | write (bytes : Bytes)
  /-- The writes of the device fail or succeed from now on. -/
  | failWrites (fail : Bool)
  /-- The host receives. -/
  | receive
  /-- The channel is closed at either end. -/
  | close
deriving DecidableEq, Repr

/-- The link of a host, and what has passed over it so far. -/
structure Session where
  link : Link
  /-- The messages whose sending succeeded. -/
  sent : List Message
  /-- The bytes of all writes of the device that succeeded. -/
  written : Bytes
  /-- The messages that receiving handed out. -/
  received : List Message
  /-- How receiving failed. -/
  failures : List FrameError

namespace Session

/-- A session over a new channel. -/
def start (hostChunk deviceChunk : Nat) : Session :=
  ⟨.new (.new hostChunk deviceChunk), [], [], [], []⟩

/-- The bytes that the host has not read. -/
def pending (session : Session) : Bytes := session.link.channel.pending .left

/-- The session after a write of the device that succeeded. -/
def afterWrite (session : Session) (channel : Channel) (bytes : Bytes) : Session :=
  { session with
    link := { session.link with channel }
    written := session.written ++ bytes }

/-- The session after one step. -/
def step (session : Session) : LinkStep → Session
  | .send message =>
    match session.link.channel.sendFrame .right Frame.maxLength message with
    | .ok channel =>
      { session.afterWrite channel (Frame.wrap message.serialize) with
        sent := session.sent ++ [message] }
    | .error _ => session
  | .write bytes =>
    match session.link.channel.write .right bytes with
    | .ok channel => session.afterWrite channel bytes
    | .error _ => session
  | .failWrites fail =>
    { session with
      link := { session.link with channel := session.link.channel.setFailWrites .right fail } }
  | .receive =>
    match session.link.receive with
    | (.ok messages, link) => { session with link, received := session.received ++ messages }
    | (.error error, link) => { session with link, failures := session.failures ++ [error] }
  | .close => { session with link := { session.link with channel := session.link.channel.close } }

/-- The session after some steps. -/
def run (session : Session) (steps : List LinkStep) : Session := steps.foldl step session

@[simp] theorem run_nil (session : Session) : session.run [] = session := rfl

@[simp] theorem run_cons (session : Session) (first : LinkStep) (rest : List LinkStep) :
    session.run (first :: rest) = (session.step first).run rest := rfl

theorem run_append (session : Session) (first second : List LinkStep) :
    session.run (first ++ second) = (session.run first).run second :=
  List.foldl_append

/-- What every allowed step preserves holds after every run of allowed steps. -/
theorem run_preserves {property : Session → Prop} {allowed : LinkStep → Prop}
    (preserved : ∀ session step, allowed step → property session → property (session.step step))
    {session : Session} (holds : property session) {steps : List LinkStep}
    (all : ∀ step ∈ steps, allowed step) : property (session.run steps) := by
  induction steps generalizing session with
  | nil => exact holds
  | cons step rest inductionHypothesis =>
    rw [run_cons]
    exact inductionHypothesis
      (preserved session step (all step List.mem_cons_self) holds)
      (fun other member => all other (List.mem_cons_of_mem step member))

end Session

/-! ## Writes of the device -/

/-- Another error type changes nothing about a success. -/
theorem mapError_eq_ok_iff {ε ε' α : Type} {result : Except ε α} {convert : ε → ε'}
    {value : α} : result.mapError convert = .ok value ↔ result = .ok value := by
  cases result with
  | error error =>
    constructor
    · intro impossible
      cases impossible
    · intro impossible
      cases impossible
  | ok other =>
    constructor
    · rintro ⟨rfl⟩
      rfl
    · rintro ⟨rfl⟩
      rfl

/-- A write that succeeds adds its bytes to those that wait at the other end. -/
theorem Channel.of_write_eq_ok {channel written : Channel} {bytes : Bytes}
    (success : channel.write .right bytes = .ok written) :
    channel.closed = false ∧
      written = { channel with
        left := { channel.left with inbound := channel.left.inbound ++ bytes } } := by
  simp only [write] at success
  split at success
  next => cases success
  next stillOpen =>
  split at success
  next => cases success
  next =>
  cases success
  exact ⟨Bool.eq_false_iff.mpr stillOpen, rfl⟩

/-- Sending writes the message, frames what was written, and writes the frame. -/
theorem Channel.sendFrame_eq (channel : Channel) (side : Side) (capacity : Nat)
    (message : Message) :
    channel.sendFrame side capacity message =
      if message.serializedSize > Frame.maxLength then
        .error (.message (.bufferTooSmall message.serializedSize Frame.maxLength))
      else
        match Frame.encode message.serialize capacity with
        | .error error => .error error
        | .ok frame => (channel.write side frame).mapError .transport := by
  by_cases long : message.serializedSize > Frame.maxLength
  · have tooLong : Frame.maxLength < message.serialize.length := message.length_serialize ▸ long
    rw [sendFrame, FrameWriter.send, FrameWriter.sendBy_of_tooLong tooLong, if_pos long,
      message.length_serialize]
  · rw [if_neg long]
    cases framed : Frame.encode message.serialize capacity with
    | error error =>
      have short : message.serialize.length ≤ Frame.maxLength :=
        message.length_serialize ▸ Nat.not_lt.mp long
      have refused : Frame.ofMessage message (FrameWriter.withCapacity capacity).capacity =
          .error error := framed
      rw [sendFrame, FrameWriter.send, FrameWriter.sendBy_of_refused short refused]
    | ok frame =>
      have sent := @FrameWriter.send_of_framed (.withCapacity capacity) message channel side frame
        framed
      have written := channel.write_eq side frame
      rw [sendFrame, sent]
      by_cases closed : channel.closed = true
      · rw [if_pos closed] at written ⊢
        simp only [written]
        rfl
      · rw [if_neg closed] at written ⊢
        by_cases failing : (channel.endAt side).failWrites = true
        · rw [if_pos failing] at written ⊢
          simp only [written]
          rfl
        · rw [if_neg failing] at written ⊢
          simp only [written]
          rfl

/-- A message that is sent fits a frame, and sending it is writing its frame. -/
theorem Channel.of_sendFrame_eq_ok {channel written : Channel} {side : Side}
    {message : Message}
    (success : channel.sendFrame side Frame.maxLength message = .ok written) :
    message.serialize.length ≤ Frame.maxLength ∧
      channel.write side (Frame.wrap message.serialize) = .ok written := by
  rw [sendFrame_eq] at success
  split at success
  next => cases success
  next =>
  split at success
  next => cases success
  next frame encoded =>
  obtain ⟨-, rfl⟩ := Frame.encode_eq_ok_iff.mp encoded
  exact ⟨Frame.length_le_of_encode_eq_ok encoded, mapError_eq_ok_iff.mp success⟩

/-! ## The invariant of all sessions -/

namespace Session

/-- The host has read the bytes `consumed` of those that were written, in chunks of a
size that never changes. The messages in them were handed out or wait in the queue. -/
structure Consistent (session : Session) (chunk : Nat) (consumed : Bytes) : Prop where
  chunk_pos : 0 < chunk
  chunk_eq : session.link.channel.left.chunkSize = chunk
  written_eq : session.written = consumed ++ session.pending
  receiver_eq : session.link.reader.receiver = (Receiver.new.feed consumed).1
  messages_eq : session.received ++ session.link.reader.queue = messagesIn consumed

variable {chunk : Nat} {consumed : Bytes} {session : Session}

/-- A new session is consistent. -/
theorem consistent_start (hostChunk deviceChunk : Nat) :
    (start hostChunk deviceChunk).Consistent (max hostChunk 1) [] where
  chunk_pos := Nat.lt_of_lt_of_le Nat.one_pos (Nat.le_max_right hostChunk 1)
  chunk_eq := rfl
  written_eq := rfl
  receiver_eq := rfl
  messages_eq := rfl

/-- A write that succeeds keeps a session consistent. -/
theorem Consistent.afterWrite (consistent : session.Consistent chunk consumed)
    {channel : Channel} {bytes : Bytes}
    (success : session.link.channel.write .right bytes = .ok channel) :
    (session.afterWrite channel bytes).Consistent chunk consumed := by
  obtain ⟨_, rfl⟩ := Channel.of_write_eq_ok success
  exact {
    chunk_pos := consistent.chunk_pos
    chunk_eq := consistent.chunk_eq
    written_eq := by
      change session.written ++ bytes = consumed ++ (session.pending ++ bytes)
      rw [consistent.written_eq, List.append_assoc]
    receiver_eq := consistent.receiver_eq
    messages_eq := consistent.messages_eq }

/-- The bytes that the next call of `receive` reads. -/
def nextCall (session : Session) : Bytes := session.pending.take session.link.bytesPerCall

/-- After a call, the reader has taken in the bytes of the call. -/
theorem Consistent.readerAfterCall (consistent : session.Consistent chunk consumed) :
    session.link.readerAfterCall.receiver =
        (Receiver.new.feed (consumed ++ session.nextCall)).1 ∧
      session.received ++ session.link.readerAfterCall.queue =
        messagesIn (consumed ++ session.nextCall) := by
  have fed : session.link.readerAfterCall =
      ⟨(session.link.reader.receiver.feed session.nextCall).1,
        session.link.reader.queue ++ (session.link.reader.receiver.feed session.nextCall).2⟩ :=
    rfl
  rw [fed, Receiver.feed_append, messagesIn_append, ← consistent.messages_eq,
    consistent.receiver_eq, List.append_assoc]
  exact ⟨rfl, rfl⟩

/-- The bytes of a call are taken from the front of those that wait. -/
theorem nextCall_append_pending (session : Session) :
    session.nextCall ++ session.link.channelAfterCall.pending .left = session.pending := by
  rw [Link.channelAfterCall, Channel.pending_discard]
  exact List.take_append_drop _ _

/-- What one call reads at most. -/
theorem Consistent.bytesPerCall_eq (consistent : session.Consistent chunk consumed) :
    session.link.bytesPerCall = FrameReader.readsPerCall * chunk := by
  rw [Link.bytesPerCall, consistent.chunk_eq]

/-- A call finds the channel closed if at most so many chunks wait that one of its reads
finds none. -/
theorem Consistent.findsClosed_iff (consistent : session.Consistent chunk consumed) :
    session.link.FindsClosed ↔ session.link.channel.closed = true ∧
      session.pending.length + chunk ≤ FrameReader.readsPerCall * chunk := by
  rw [Link.FindsClosed, consistent.bytesPerCall_eq, consistent.chunk_eq]
  rfl

/-- A call that does not find the channel closed hands out what waits in the queue
afterwards. -/
theorem Consistent.step_receive_of_not_findsClosed (consistent : session.Consistent chunk consumed)
    (stillOpen : ¬ session.link.FindsClosed) :
    session.step .receive =
      { session with
        link := { session.link with
          reader := { session.link.readerAfterCall with queue := [] }
          channel := session.link.channelAfterCall }
        received := session.received ++ session.link.readerAfterCall.queue } := by
  have positive : 0 < session.link.channel.left.chunkSize := by
    rw [consistent.chunk_eq]
    exact consistent.chunk_pos
  simp only [step, Link.receive_of_not_findsClosed positive stillOpen]

/-- A call that finds the channel closed hands out nothing. -/
theorem Consistent.step_receive_of_findsClosed (consistent : session.Consistent chunk consumed)
    (findsClosed : session.link.FindsClosed) :
    session.step .receive =
      { session with
        link := { session.link with
          reader := session.link.readerAfterCall
          channel := session.link.channelAfterCall }
        failures := session.failures ++ [.transport .closed] } := by
  have positive : 0 < session.link.channel.left.chunkSize := by
    rw [consistent.chunk_eq]
    exact consistent.chunk_pos
  simp only [step, Link.receive_of_findsClosed positive findsClosed]

/-- Receiving keeps a session consistent, also when it fails. -/
theorem Consistent.receive (consistent : session.Consistent chunk consumed) :
    (session.step .receive).Consistent chunk (consumed ++ session.nextCall) := by
  obtain ⟨receiver_eq, messages_eq⟩ := consistent.readerAfterCall
  have written_eq : session.written =
      (consumed ++ session.nextCall) ++ session.link.channelAfterCall.pending .left := by
    rw [List.append_assoc, nextCall_append_pending, consistent.written_eq]
  have chunk_eq : session.link.channelAfterCall.left.chunkSize = chunk := consistent.chunk_eq
  by_cases findsClosed : session.link.FindsClosed
  · rw [consistent.step_receive_of_findsClosed findsClosed]
    exact ⟨consistent.chunk_pos, chunk_eq, written_eq, receiver_eq, messages_eq⟩
  · rw [consistent.step_receive_of_not_findsClosed findsClosed]
    refine ⟨consistent.chunk_pos, chunk_eq, written_eq, receiver_eq, ?_⟩
    rw [List.append_nil]
    exact messages_eq

/-- A step of the device that does not write keeps a session consistent. -/
theorem Consistent.of_left_eq (consistent : session.Consistent chunk consumed)
    {channel : Channel} (same : channel.left = session.link.channel.left) :
    { session with link := { session.link with channel } }.Consistent chunk consumed where
  chunk_pos := consistent.chunk_pos
  chunk_eq := by rw [← consistent.chunk_eq, ← same]
  written_eq := by
    have pending_eq : channel.pending .left = session.pending := congrArg ChannelEnd.inbound same
    change session.written = consumed ++ channel.pending .left
    rw [pending_eq, consistent.written_eq]
  receiver_eq := consistent.receiver_eq
  messages_eq := consistent.messages_eq

/-- How a write of the device goes: it changes nothing, or the bytes wait at the host. -/
theorem step_write (session : Session) (bytes : Bytes) :
    session.step (.write bytes) = session ∨
      ∃ channel, session.link.channel.write .right bytes = .ok channel ∧
        session.step (.write bytes) = session.afterWrite channel bytes := by
  cases result : session.link.channel.write .right bytes with
  | error error => exact .inl (by simp only [step, result])
  | ok channel => exact .inr ⟨channel, rfl, by simp only [step, result]⟩

/-- How sending goes: it changes nothing, or the frame of a message that fits a frame
waits at the host. -/
theorem step_send (session : Session) (message : Message) :
    session.step (.send message) = session ∨
      ∃ channel, message.serialize.length ≤ Frame.maxLength ∧
        session.link.channel.write .right (Frame.wrap message.serialize) = .ok channel ∧
        session.step (.send message) =
          { session.afterWrite channel (Frame.wrap message.serialize) with
            sent := session.sent ++ [message] } := by
  cases result : session.link.channel.sendFrame .right Frame.maxLength message with
  | error error => exact .inl (by simp only [step, result])
  | ok channel =>
    obtain ⟨fits, write⟩ := Channel.of_sendFrame_eq_ok result
    exact .inr ⟨channel, fits, write, by simp only [step, result]⟩

/-- Every step keeps a session consistent. -/
theorem Consistent.step (consistent : session.Consistent chunk consumed) (step : LinkStep) :
    ∃ more, (session.step step).Consistent chunk (consumed ++ more) := by
  cases step with
  | send message =>
    refine ⟨[], ?_⟩
    rw [List.append_nil]
    rcases session.step_send message with same | ⟨channel, _, write, same⟩
    · rw [same]
      exact consistent
    · obtain ⟨chunk_pos, chunk_eq, written_eq, receiver_eq, messages_eq⟩ :=
        consistent.afterWrite write
      rw [same]
      exact ⟨chunk_pos, chunk_eq, written_eq, receiver_eq, messages_eq⟩
  | write bytes =>
    refine ⟨[], ?_⟩
    rw [List.append_nil]
    rcases session.step_write bytes with same | ⟨channel, write, same⟩
    · rw [same]
      exact consistent
    · rw [same]
      exact consistent.afterWrite write
  | failWrites fail =>
    refine ⟨[], ?_⟩
    rw [List.append_nil]
    exact consistent.of_left_eq rfl
  | receive => exact ⟨session.nextCall, consistent.receive⟩
  | close =>
    refine ⟨[], ?_⟩
    rw [List.append_nil]
    exact consistent.of_left_eq rfl

/-- Every session is consistent. -/
theorem consistent_run (hostChunk deviceChunk : Nat) (steps : List LinkStep) :
    ∃ consumed,
      ((start hostChunk deviceChunk).run steps).Consistent (max hostChunk 1) consumed := by
  have preserved : ∀ session step, True →
      (∃ consumed, Consistent session (max hostChunk 1) consumed) →
      ∃ consumed, Consistent (session.step step) (max hostChunk 1) consumed := by
    rintro session step - ⟨consumed, consistent⟩
    obtain ⟨more, consistent⟩ := consistent.step step
    exact ⟨consumed ++ more, consistent⟩
  exact run_preserves preserved ⟨[], consistent_start hostChunk deviceChunk⟩
    (fun _ _ => trivial)

/-! ## Open channels -/

/-- While the channel is open, no call fails and no message is held back. -/
structure Prompt (session : Session) : Prop where
  stillOpen : session.link.channel.closed = false
  queue_eq : session.link.reader.queue = []
  failures_eq : session.failures = []

/-- An open channel is not found closed. -/
theorem Prompt.not_findsClosed (prompt : session.Prompt) : ¬ session.link.FindsClosed := by
  rintro ⟨closed, _⟩
  rw [prompt.stillOpen] at closed
  cases closed

/-- A write leaves an open channel open. -/
theorem Prompt.afterWrite (prompt : session.Prompt) {channel : Channel} {bytes : Bytes}
    (success : session.link.channel.write .right bytes = .ok channel) :
    (session.afterWrite channel bytes).Prompt := by
  obtain ⟨_, rfl⟩ := Channel.of_write_eq_ok success
  exact ⟨prompt.stillOpen, prompt.queue_eq, prompt.failures_eq⟩

/-- A session stays prompt until the channel is closed. -/
theorem Prompt.step (prompt : session.Prompt) (consistent : session.Consistent chunk consumed)
    {step : LinkStep} (notClose : step ≠ .close) : (session.step step).Prompt := by
  cases step with
  | send message =>
    rcases session.step_send message with same | ⟨channel, _, write, same⟩
    · rw [same]
      exact prompt
    · obtain ⟨stillOpen, queue_eq, failures_eq⟩ := prompt.afterWrite write
      rw [same]
      exact ⟨stillOpen, queue_eq, failures_eq⟩
  | write bytes =>
    rcases session.step_write bytes with same | ⟨channel, write, same⟩
    · rw [same]
      exact prompt
    · rw [same]
      exact prompt.afterWrite write
  | failWrites fail => exact ⟨prompt.stillOpen, prompt.queue_eq, prompt.failures_eq⟩
  | receive =>
    rw [consistent.step_receive_of_not_findsClosed prompt.not_findsClosed]
    exact ⟨prompt.stillOpen, rfl, prompt.failures_eq⟩
  | close => exact absurd rfl notClose

/-- A session is consistent and prompt until the channel is closed. -/
theorem prompt_run (hostChunk deviceChunk : Nat) {steps : List LinkStep}
    (notClose : ∀ step ∈ steps, step ≠ .close) :
    (∃ consumed,
      ((start hostChunk deviceChunk).run steps).Consistent (max hostChunk 1) consumed) ∧
      ((start hostChunk deviceChunk).run steps).Prompt := by
  have preserved : ∀ session step, step ≠ .close →
      ((∃ consumed, Consistent session (max hostChunk 1) consumed) ∧ session.Prompt) →
      (∃ consumed, Consistent (session.step step) (max hostChunk 1) consumed) ∧
        (session.step step).Prompt := by
    rintro session step notClose ⟨⟨consumed, consistent⟩, prompt⟩
    obtain ⟨more, after⟩ := consistent.step step
    exact ⟨⟨consumed ++ more, after⟩, prompt.step consistent notClose⟩
  exact run_preserves preserved
    ⟨⟨[], consistent_start hostChunk deviceChunk⟩, rfl, rfl, rfl⟩ notClose

end Session

end OpticalLink
