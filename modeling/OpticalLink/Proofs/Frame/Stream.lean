import OpticalLink.Frame.Receiver
import OpticalLink.Proofs.Message.Language

/-!
# Streams of frames

What a receiver makes of a stream follows from the payloads that its decoder finds there
(`Receiver.feed_eq`), so a stream may be cut anywhere. A frame is found again between
other frames, and the frames of canonical messages give exactly those messages.
-/

namespace OpticalLink

namespace FrameDecoder

/-- Nothing comes of an empty piece. -/
@[simp] theorem feed_nil (decoder : FrameDecoder) : decoder.feed [] = (decoder, []) := rfl

/-- A piece of one byte is a step. -/
theorem feed_singleton (decoder : FrameDecoder) (byte : UInt8) :
    decoder.feed [byte] = ((decoder.step byte).1, (decoder.step byte).2.toList) := by
  simp only [feed, List.foldl_cons, List.foldl_nil, feedStep]
  split
  next next stepped => rw [stepped]; rfl
  next next payload stepped => rw [stepped]; rfl

/-- A piece is its first byte and the rest of it. -/
theorem feed_cons (decoder : FrameDecoder) (byte : UInt8) (rest : Bytes) :
    decoder.feed (byte :: rest) =
      (((decoder.step byte).1.feed rest).1,
        (decoder.step byte).2.toList ++ ((decoder.step byte).1.feed rest).2) := by
  have cut := feed_append decoder [byte] rest
  rwa [feed_singleton] at cut

variable {limit oversized : Nat} {collected : Array UInt8}

/-- Inside a frame, a payload byte is collected however it is sent. -/
theorem feed_escape {byte : UInt8} (fits : collected.size + 1 ≤ limit) :
    feed ⟨limit, .inside collected, oversized⟩ (Frame.escape byte) =
      (⟨limit, .inside (collected.push byte), oversized⟩, []) := by
  have room : ¬ collected.size + 1 > limit := Nat.not_lt.mpr fits
  by_cases marker : Frame.isMarker byte
  · have escaped : Frame.escape byte = [Frame.escapeMarker, byte] := by
      simp [Frame.escape, marker]
    simp [escaped, feed_cons, step, append, room]
  · have plain : Frame.escape byte = [byte] := by simp [Frame.escape, marker]
    simp only [Frame.isMarker, Bool.or_eq_true, beq_iff_eq, not_or] at marker
    simp [plain, feed_cons, step, append, room, marker]

/-- Inside a frame, a payload is collected whole if there is room for it. -/
theorem feed_escapeAll {payload : Bytes} (fits : collected.size + payload.length ≤ limit) :
    feed ⟨limit, .inside collected, oversized⟩ (Frame.escapeAll payload) =
      (⟨limit, .inside (collected ++ payload.toArray), oversized⟩, []) := by
  induction payload generalizing collected with
  | nil => simp [Frame.escapeAll]
  | cons byte rest inductionHypothesis =>
    rw [List.length_cons] at fits
    have room : (collected.push byte).size + rest.length ≤ limit := by
      rw [Array.size_push]
      omega
    have others := inductionHypothesis room
    rw [Frame.escapeAll] at others ⊢
    rw [List.flatMap_cons, feed_append, feed_escape (by omega), others]
    simp

/-- Between frames, a frame gives its payload and leads back between frames. -/
theorem feed_wrap {payload : Bytes} (nonempty : payload ≠ []) (fits : payload.length ≤ limit) :
    feed ⟨limit, .idle, oversized⟩ (Frame.wrap payload) =
      (⟨limit, .idle, oversized⟩, [payload]) := by
  have collecting : feed ⟨limit, .inside #[], oversized⟩ (Frame.escapeAll payload) =
      (⟨limit, .inside payload.toArray, oversized⟩, []) := by
    have whole : feed ⟨limit, .inside #[], oversized⟩ (Frame.escapeAll payload) =
        (⟨limit, .inside (#[] ++ payload.toArray), oversized⟩, []) :=
      feed_escapeAll (by simpa using fits)
    simpa using whole
  have opens : step ⟨limit, .idle, oversized⟩ Frame.startMarker =
      (⟨limit, .inside #[], oversized⟩, none) := rfl
  have closes : step ⟨limit, .inside payload.toArray, oversized⟩ Frame.endMarker =
      (⟨limit, .idle, oversized⟩, some payload) := by
    have different : Frame.endMarker ≠ Frame.escapeMarker := by decide
    simp [step, different, nonempty]
  rw [Frame.wrap, List.cons_append, feed_cons, opens, feed_append, collecting, feed_singleton,
    closes]
  rfl

end FrameDecoder

/-- The messages among some payloads, in their order. -/
def messagesAmong (payloads : List Bytes) : List Message :=
  payloads.filterMap fun payload => (Message.parse payload).toOption

/-- The number of payloads that are no message. -/
def refusedAmong (payloads : List Bytes) : Nat :=
  payloads.countP fun payload => (Message.parse payload).toOption.isNone

namespace Receiver

/-- Messages found earlier stand before those found later. -/
theorem foldl_feedStep (receiver : Receiver) (messages : Array Message) (bytes : Bytes) :
    bytes.foldl feedStep (receiver, messages) =
      ((bytes.foldl feedStep (receiver, #[])).1,
        messages ++ (bytes.foldl feedStep (receiver, #[])).2) := by
  induction bytes generalizing receiver messages with
  | nil => simp
  | cons byte rest inductionHypothesis =>
    simp only [List.foldl_cons, feedStep]
    split
    next next stepped => rw [inductionHypothesis]
    next next message stepped =>
      rw [inductionHypothesis, inductionHypothesis next (#[].push message)]
      simp

/-- A piece is its first byte and the rest of it. -/
theorem feed_cons (receiver : Receiver) (byte : UInt8) (rest : Bytes) :
    receiver.feed (byte :: rest) =
      (((receiver.step byte).1.feed rest).1,
        (receiver.step byte).2.toList ++ ((receiver.step byte).1.feed rest).2) := by
  simp only [feed, List.foldl_cons, feedStep]
  split
  next next stepped => simp [stepped]
  next next message stepped =>
    rw [stepped, foldl_feedStep]
    simp

/-- A byte counts for the payload that it completes, if it completes one. -/
theorem step_eq (receiver : Receiver) (byte : UInt8) :
    receiver.step byte =
      (⟨(receiver.decoder.step byte).1,
          receiver.delivered + (messagesAmong (receiver.decoder.step byte).2.toList).length,
          receiver.rejected + refusedAmong (receiver.decoder.step byte).2.toList⟩,
        (receiver.decoder.step byte).2.bind fun payload =>
          (Message.parse payload).toOption) := by
  obtain ⟨decoder, delivered, rejected⟩ := receiver
  simp only [step]
  split
  next next stepped => simp [stepped, messagesAmong, refusedAmong]
  next next payload stepped =>
    split
    next message accepted =>
      simp [stepped, messagesAmong, refusedAmong, accepted, Except.toOption]
    next error refused =>
      simp [stepped, messagesAmong, refusedAmong, refused, Except.toOption]

/-- A receiver hands on the messages among the payloads that its decoder finds, counts
them, and counts the payloads that are none. -/
theorem feed_eq (receiver : Receiver) (bytes : Bytes) :
    receiver.feed bytes =
      (⟨(receiver.decoder.feed bytes).1,
          receiver.delivered + (messagesAmong (receiver.decoder.feed bytes).2).length,
          receiver.rejected + refusedAmong (receiver.decoder.feed bytes).2⟩,
        messagesAmong (receiver.decoder.feed bytes).2) := by
  induction bytes generalizing receiver with
  | nil => rfl
  | cons byte rest inductionHypothesis =>
    have first : messagesAmong (receiver.decoder.step byte).2.toList =
        ((receiver.decoder.step byte).2.bind fun payload =>
          (Message.parse payload).toOption).toList := by
      cases (receiver.decoder.step byte).2 with
      | none => rfl
      | some payload =>
        cases accepted : Message.parse payload <;>
          simp [messagesAmong, accepted, Except.toOption]
    rw [feed_cons, FrameDecoder.feed_cons, step_eq, inductionHypothesis]
    simp only [messagesAmong, refusedAmong, List.filterMap_append, List.length_append,
      List.countP_append, Prod.mk.injEq, Receiver.mk.injEq, true_and] at first ⊢
    rw [first]
    exact ⟨⟨by omega, by omega⟩, rfl⟩

/-- A stream may be cut anywhere. -/
theorem feed_append (receiver : Receiver) (first second : Bytes) :
    receiver.feed (first ++ second) =
      (((receiver.feed first).1.feed second).1,
        (receiver.feed first).2 ++ ((receiver.feed first).1.feed second).2) := by
  simp only [feed_eq, FrameDecoder.feed_append, messagesAmong, refusedAmong,
    List.filterMap_append, List.length_append, List.countP_append, Nat.add_assoc]

/-- Between frames, the frame of a canonical message gives that message. -/
theorem feed_frame {limit oversized delivered rejected : Nat} {message : Message}
    (canonical : message.Canonical) (fits : message.serialize.length ≤ limit) :
    feed ⟨⟨limit, .idle, oversized⟩, delivered, rejected⟩ (Frame.wrap message.serialize) =
      (⟨⟨limit, .idle, oversized⟩, delivered + 1, rejected⟩, [message]) := by
  have accepted : Message.parse message.serialize = .ok message :=
    Message.parse_eq_ok_iff.mpr ⟨canonical, List.prefix_rfl⟩
  rw [feed_eq, FrameDecoder.feed_wrap message.serialize_ne_nil fits]
  simp [messagesAmong, refusedAmong, accepted, Except.toOption]

end Receiver

/-- The messages that a new receiver finds in a stream. -/
def messagesIn (stream : Bytes) : List Message := (Receiver.new.feed stream).2

/-- The messages in a stream come before those in what follows it. -/
theorem messagesIn_append (first second : Bytes) :
    messagesIn (first ++ second) =
      messagesIn first ++ ((Receiver.new.feed first).1.feed second).2 := by
  rw [messagesIn, Receiver.feed_append, messagesIn]

/-- The frame of a canonical message is a stream with that message. -/
theorem messagesIn_wrap {message : Message} (canonical : message.Canonical)
    (fits : message.serialize.length ≤ Frame.maxLength) :
    messagesIn (Frame.wrap message.serialize) = [message] :=
  congrArg Prod.snd (Receiver.feed_frame canonical fits)

/-- The frames of some messages, one behind the other. -/
def framesOf (messages : List Message) : Bytes :=
  messages.flatMap fun message => Frame.wrap message.serialize

/-- The frames of canonical messages give those messages and nothing else, each counted
as delivered. -/
theorem feed_framesOf {messages : List Message}
    (canonical : ∀ message ∈ messages, message.Canonical)
    (fits : ∀ message ∈ messages, message.serialize.length ≤ Frame.maxLength) :
    Receiver.new.feed (framesOf messages) = (⟨.new, messages.length, 0⟩, messages) := by
  suffices counted : ∀ delivered, Receiver.feed ⟨.new, delivered, 0⟩ (framesOf messages) =
      (⟨.new, delivered + messages.length, 0⟩, messages) by
    simpa [Receiver.new, Receiver.withLimit, FrameDecoder.new] using counted 0
  intro delivered
  induction messages generalizing delivered with
  | nil => rfl
  | cons message rest inductionHypothesis =>
    have others := inductionHypothesis
      (fun other member => canonical other (List.mem_cons_of_mem message member))
      (fun other member => fits other (List.mem_cons_of_mem message member)) (delivered + 1)
    have first : Receiver.feed ⟨.new, delivered, 0⟩ (Frame.wrap message.serialize) =
        (⟨.new, delivered + 1, 0⟩, [message]) :=
      Receiver.feed_frame (canonical message List.mem_cons_self) (fits message List.mem_cons_self)
    rw [framesOf] at others ⊢
    rw [List.flatMap_cons, Receiver.feed_append, first, others, List.length_cons,
      List.singleton_append, Nat.add_assoc, Nat.add_comm 1]

end OpticalLink
