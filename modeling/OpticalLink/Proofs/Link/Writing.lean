import OpticalLink.Proofs.Channel.Flow
import OpticalLink.Proofs.Message.Writing

/-!
# Sending with used buffers

A writer fills two buffers for each message and keeps what it filled them with, however far it
came. They are emptied before the next message, so a writer sends like a new one with its capacity,
whatever it has sent before or failed to send. `FrameWriter.send_like_new` proves this together with
the results of a send: it accepts what `Frame.ofMessage` accepts, although it looks at the size of
the message before it looks at the size of the frame.
-/

namespace OpticalLink

/-- A message that is not framed is too large for a frame. -/
theorem Frame.exists_of_ofMessage_eq_error {message : Message} {capacity : Nat}
    {error : FrameError} (refused : ofMessage message capacity = .error error) :
    ∃ size limit, error = .tooLarge size limit := by
  rcases Nat.lt_or_ge (min capacity maxLength) (wrappedSize message.serialize) with exceeds | fits
  · rw [ofMessage, encode_of_exceeds exceeds] at refused
    cases refused
    exact ⟨_, _, rfl⟩
  · rw [ofMessage, encode_of_fits fits] at refused
    cases refused

/-- How a write is answered, and where its bytes arrive. -/
theorem Channel.write_eq (channel : Channel) (side : Side) (bytes : Bytes) :
    channel.write side bytes =
      if channel.closed then .error .closed
      else if (channel.endAt side).failWrites then .error (.io simulatedWriteFault)
      else .ok (channel.arrive side bytes) := rfl

namespace FrameWriter

variable {writer : FrameWriter} {message : Message}

/-! ## The stages of a send -/

section

variable {T : Type} {write : T → Bytes → Except TransportError Unit × T} {transport : T}

/-- A message that is too long to be written is not framed. -/
theorem sendBy_of_tooLong (long : Frame.maxLength < message.serialize.length) :
    writer.sendBy write transport message =
      (.error (.message (.bufferTooSmall message.serialize.length Frame.maxLength)),
        ⟨[], [], writer.capacity⟩, transport) := by
  rw [message.length_serialize] at long ⊢
  simp only [sendBy, Message.appendTo_of_exceeds long]

/-- A message that is written but does not fit a frame stays in the first buffer. -/
theorem sendBy_of_refused (short : message.serialize.length ≤ Frame.maxLength) {error : FrameError}
    (refused : Frame.ofMessage message writer.capacity = .error error) :
    writer.sendBy write transport message =
      (.error error, ⟨message.serialize, [], writer.capacity⟩, transport) := by
  have appended : Frame.appendTo message.serialize [] writer.capacity = (.error error, []) := by
    rw [Frame.appendTo, ← Frame.ofMessage, refused]
  rw [message.length_serialize] at short
  simp only [sendBy, Message.appendTo_of_fits short, List.nil_append, appended]

/-- A message that fits a frame is written as that frame. -/
theorem sendBy_of_framed {frame : Bytes}
    (framed : Frame.ofMessage message writer.capacity = .ok frame) :
    writer.sendBy write transport message =
      ((write transport frame).1.mapError .transport,
        ⟨message.serialize, frame, writer.capacity⟩, (write transport frame).2) := by
  have short := Frame.length_le_of_encode_eq_ok framed
  have appended : Frame.appendTo message.serialize [] writer.capacity = (.ok (), frame) := by
    rw [Frame.appendTo, ← Frame.ofMessage, framed]
    rfl
  rw [message.length_serialize] at short
  simp only [sendBy, Message.appendTo_of_fits short, List.nil_append, appended]

/-- A send leaves the capacity. -/
theorem capacity_sendBy (writer : FrameWriter) (transport : T) (message : Message) :
    (writer.sendBy write transport message).2.1.capacity = writer.capacity := by
  rcases Nat.lt_or_ge Frame.maxLength message.serialize.length with long | short
  · rw [sendBy_of_tooLong long]
  · cases framed : Frame.ofMessage message writer.capacity with
    | error error => rw [sendBy_of_refused short framed]
    | ok frame => rw [sendBy_of_framed framed]

/-- Only its capacity decides how a writer sends. -/
theorem sendBy_congr {first second : FrameWriter} (same : first.capacity = second.capacity)
    (transport : T) (message : Message) :
    first.sendBy write transport message = second.sendBy write transport message := by
  simp only [sendBy, same]

end

variable {channel : Channel} {side : Side}

/-- A message that fits a frame is sent as that frame, as far as the channel lets it pass. -/
theorem send_of_framed {frame : Bytes}
    (framed : Frame.ofMessage message writer.capacity = .ok frame) :
    writer.send channel side message =
      if channel.closed then
        (.error (.transport .closed), ⟨message.serialize, frame, writer.capacity⟩, channel)
      else if (channel.endAt side).failWrites then
        (.error (.transport (.io Channel.simulatedWriteFault)),
          ⟨message.serialize, frame, writer.capacity⟩, channel)
      else
        (.ok (), ⟨message.serialize, frame, writer.capacity⟩, channel.arrive side frame) := by
  have written := channel.write_eq side frame
  rw [send, sendBy_of_framed framed, Channel.put]
  by_cases closed : channel.closed = true
  · rw [if_pos closed] at written ⊢
    rw [written]
    rfl
  · rw [if_neg closed] at written ⊢
    by_cases failing : (channel.endAt side).failWrites = true
    · rw [if_pos failing] at written ⊢
      rw [written]
      rfl
    · rw [if_neg failing] at written ⊢
      rw [written]
      rfl

/-- A message that is not framed is refused, and nothing arrives. -/
theorem results_of_refused {error : FrameError}
    (refused : Frame.ofMessage message writer.capacity = .error error) :
    (writer.send channel side message).2.2 = channel ∧
    (Frame.maxLength < message.serialize.length → (writer.send channel side message).1 =
      .error (.message (.bufferTooSmall message.serialize.length Frame.maxLength))) ∧
    (message.serialize.length ≤ Frame.maxLength →
      (writer.send channel side message).1 = .error error) := by
  rcases Nat.lt_or_ge Frame.maxLength message.serialize.length with long | short
  · rw [send, sendBy_of_tooLong long]
    exact ⟨rfl, fun _ => rfl, fun short => absurd long (Nat.not_lt.mpr short)⟩
  · rw [send, sendBy_of_refused short refused]
    exact ⟨rfl, fun long => absurd long (Nat.not_lt.mpr short), fun _ => rfl⟩

/-- A message that is not framed is not sent. -/
theorem send_ne_ok_of_refused {error : FrameError}
    (refused : Frame.ofMessage message writer.capacity = .error error) :
    (writer.send channel side message).1 ≠ .ok () := by
  obtain ⟨_, tooLong, tooLarge⟩ := @results_of_refused writer message channel side error refused
  rcases Nat.lt_or_ge Frame.maxLength message.serialize.length with long | short
  · simp [tooLong long]
  · simp [tooLarge short]

/-- Through an open channel that is not made to fail, a frame arrives. -/
theorem results_of_open {frame : Bytes}
    (framed : Frame.ofMessage message writer.capacity = .ok frame)
    (stillOpen : channel.closed = false) (writable : (channel.endAt side).failWrites = false) :
    (writer.send channel side message).1 = .ok () ∧
      (writer.send channel side message).2.2 = channel.arrive side frame := by
  rw [send_of_framed framed, stillOpen, writable]
  exact ⟨rfl, rfl⟩

/-- Through another channel nothing arrives, and the channel is what fails. -/
theorem results_of_broken {frame : Bytes}
    (framed : Frame.ofMessage message writer.capacity = .ok frame)
    (broken : channel.closed = true ∨ (channel.endAt side).failWrites = true) :
    (∃ error, (writer.send channel side message).1 = .error (.transport error)) ∧
      (writer.send channel side message).2.2 = channel := by
  rw [send_of_framed framed]
  by_cases closed : channel.closed = true
  · rw [if_pos closed]
    exact ⟨⟨_, rfl⟩, rfl⟩
  · rw [if_neg closed, if_pos (broken.resolve_left closed)]
    exact ⟨⟨_, rfl⟩, rfl⟩

/-! ## Writers with a history -/

/-- A writer after some sends, whatever became of them. -/
def sendAll (writer : FrameWriter) (history : List (Channel × Side × Message)) : FrameWriter :=
  history.foldl (fun writer sent => (writer.send sent.1 sent.2.1 sent.2.2).2.1) writer

/-- A history leaves the capacity. -/
theorem capacity_sendAll (writer : FrameWriter) (history : List (Channel × Side × Message)) :
    (writer.sendAll history).capacity = writer.capacity := by
  induction history generalizing writer with
  | nil => rfl
  | cons sent history inductionHypothesis =>
    rw [sendAll, List.foldl_cons, ← sendAll, inductionHypothesis, send, capacity_sendBy]

/-- Whatever a writer has sent before, it sends a message exactly if the message can be framed, and
then the frame is all that arrives at the other end. A message that cannot be framed is refused with
the same sizes, or as too long to be written where it is, and then nothing arrives, nor does it
through a closed or failing channel. From there on the writer sends like a new one. -/
theorem send_like_new (capacity : Nat) (history : List (Channel × Side × Message))
    (channel : Channel) (side : Side) (message : Message) :
    let writer := (withCapacity capacity).sendAll history
    let sent := writer.send channel side message
    let framed := Frame.ofMessage message capacity
    (channel.closed = false → (channel.endAt side).failWrites = false →
      (sent.1 = .ok () ↔ ∃ frame, framed = .ok frame) ∧
      ∀ frame, framed = .ok frame → sent.2.2 = channel.arrive side frame ∧
        sent.2.2.pending side.other = channel.pending side.other ++ frame) ∧
    (∀ error, framed = .error error →
      sent.2.2 = channel ∧ (∃ size limit, error = .tooLarge size limit) ∧
      (Frame.maxLength < message.serialize.length →
        sent.1 = .error
          (.message (.bufferTooSmall message.serialize.length Frame.maxLength))) ∧
      (message.serialize.length ≤ Frame.maxLength → sent.1 = .error error)) ∧
    (channel.closed = true ∨ (channel.endAt side).failWrites = true →
      sent.2.2 = channel ∧
      ∀ frame, framed = .ok frame → ∃ error, sent.1 = .error (.transport error)) ∧
    ∀ next nextSide nextMessage, sent.2.1.send next nextSide nextMessage =
      (withCapacity capacity).send next nextSide nextMessage := by
  intro writer sent framed
  have capacity_eq : writer.capacity = capacity := capacity_sendAll _ history
  have framed_eq : Frame.ofMessage message writer.capacity = framed := by rw [capacity_eq]
  refine ⟨fun stillOpen writable => ⟨⟨fun success => ?_, ?_⟩, fun frame accepted => ?_⟩,
    fun error refused => ?_, fun broken => ⟨?_, fun frame accepted => ?_⟩,
    fun next nextSide nextMessage => ?_⟩
  · cases result : framed with
    | ok frame => exact ⟨frame, rfl⟩
    | error error => exact absurd success (send_ne_ok_of_refused (framed_eq.trans result))
  · rintro ⟨frame, accepted⟩
    exact (results_of_open (framed_eq.trans accepted) stillOpen writable).1
  · have arrived : sent.2.2 = channel.arrive side frame :=
      (results_of_open (framed_eq.trans accepted) stillOpen writable).2
    refine ⟨arrived, ?_⟩
    rw [arrived, Channel.arrive, Channel.pending, Channel.endAt_setEnd_self]
  · obtain ⟨unchanged, tooLong, tooLarge⟩ := results_of_refused (framed_eq.trans refused)
    exact ⟨unchanged, Frame.exists_of_ofMessage_eq_error refused, tooLong, tooLarge⟩
  · cases result : framed with
    | ok frame => exact (results_of_broken (framed_eq.trans result) broken).2
    | error error => exact (results_of_refused (framed_eq.trans result)).1
  · exact (results_of_broken (framed_eq.trans accepted) broken).1
  · exact sendBy_congr ((writer.capacity_sendBy channel message).trans capacity_eq) _ _

/-- A writer of small frames sends a reply whole after it has met a closed channel and a message
that was too large for it. -/
theorem send_like_new_after_failures :
    let history : List (Channel × Side × Message) :=
      [(Channel.pair.close, .left, .ofReply .errorReport),
        (.pair, .right, (Message.ofReply .errorReport).addErrorReport 1)]
    let sent := ((withCapacity 16).sendAll history).send .pair .left (.ofReply .statusReport)
    sent.1 = .ok () ∧
      sent.2.2.pending .right = [0xF1, 2, 0, 1, 1, 3, 0, 4, 0, 0, 0, 4, 0xF2] := by
  intro history sent
  obtain ⟨opened, _⟩ := send_like_new 16 history .pair .left (.ofReply .statusReport)
  obtain ⟨accepted, arrived⟩ := opened rfl rfl
  have framed : Frame.ofMessage (.ofReply .statusReport) 16 =
      .ok [0xF1, 2, 0, 1, 1, 3, 0, 4, 0, 0, 0, 4, 0xF2] := rfl
  exact ⟨accepted.mpr ⟨_, framed⟩, (arrived _ framed).2⟩

end FrameWriter

end OpticalLink
