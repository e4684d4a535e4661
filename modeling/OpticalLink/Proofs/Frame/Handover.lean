import OpticalLink.Proofs.Frame.Tokens
import OpticalLink.Proofs.Link.Reading

/-!
# What a reader hands on

The messages that a reader puts into its queue, what it counts and what it reports for each
buffer come from different places: the bytes, the payloads and the counters. They agree on every
stream, and none of them depends on how the stream is cut
(`FrameReader.queue_of_verified_payloads`).
-/

namespace OpticalLink

open FrameDecoder (Push)

/-- Each payload is a message or is refused. -/
theorem length_messagesAmong_add_refusedAmong (payloads : List Bytes) :
    (messagesAmong payloads).length + refusedAmong payloads = payloads.length := by
  induction payloads with
  | nil => rfl
  | cons payload rest inductionHypothesis =>
    cases parsed : (Message.parse payload).toOption with
    | none =>
      have same : messagesAmong (payload :: rest) = messagesAmong rest :=
        List.filterMap_cons_none parsed
      have more : refusedAmong (payload :: rest) = refusedAmong rest + 1 :=
        List.countP_cons_of_pos (by rw [parsed]; rfl)
      rw [same, more, List.length_cons, ← Nat.add_assoc, inductionHypothesis]
    | some message =>
      have more : messagesAmong (payload :: rest) = message :: messagesAmong rest :=
        List.filterMap_cons_some parsed
      have same : refusedAmong (payload :: rest) = refusedAmong rest :=
        List.countP_cons_of_neg (by rw [parsed]; nofun)
      rw [more, same, List.length_cons, List.length_cons, Nat.add_right_comm, inductionHypothesis]

namespace FrameReader

/-- A reader behind a decoder that may be anywhere in a stream. -/
def behind (decoder : FrameDecoder) : FrameReader := ⟨⟨decoder, 0, 0⟩, []⟩

/-- The reader after one byte. -/
def acceptByte (reader : FrameReader) (byte : UInt8) : FrameReader :=
  ⟨(reader.receiver.step byte).1, reader.queue ++ (reader.receiver.step byte).2.toList⟩

/-- The reader after what arrives at once. -/
def push (reader : FrameReader) : Push → FrameReader
  | .single byte => reader.acceptByte byte
  | .buffer bytes => (reader.accept bytes).1

/-- The reader after some pushes. -/
def pushAll (reader : FrameReader) (pushes : List Push) : FrameReader :=
  pushes.foldl push reader

/-- A byte of its own is a buffer of one byte. -/
theorem push_eq_accept (reader : FrameReader) (arrival : Push) :
    reader.push arrival = (reader.accept arrival.bytes).1 := by
  cases arrival with
  | single byte =>
    rw [accept_eq, Push.bytes, Receiver.feed_cons]
    simp [push, acceptByte, Receiver.feed]
  | buffer bytes => rfl

/-- However its bytes arrive, a stream is a stream. -/
theorem pushAll_eq_accept (reader : FrameReader) (pushes : List Push) :
    reader.pushAll pushes = (reader.accept (pushes.flatMap Push.bytes)).1 := by
  induction pushes generalizing reader with
  | nil => rw [List.flatMap_nil, accept_nil]; rfl
  | cons arrival rest inductionHypothesis =>
    rw [pushAll, List.foldl_cons, ← pushAll, inductionHypothesis, push_eq_accept,
      List.flatMap_cons, accept_append]

/-- However a stream is cut into bytes and buffers, a reader hands on the messages among the
payloads that the decoder finds in the whole stream, in their order, and nothing else. It counts
them, the payloads that are no message, and the frames that the decoder drops; and the next buffer
reports the messages that it adds. -/
theorem queue_of_verified_payloads (decoder : FrameDecoder) (pushes : List Push) :
    let stream := pushes.flatMap Push.bytes
    let found := decoder.feed stream
    let reader := (behind decoder).pushAll pushes
    reader = ((behind decoder).accept stream).1 ∧
      reader.queue = messagesAmong found.2 ∧
      reader.receiver.stats =
        { delivered := (messagesAmong found.2).length
          oversized := found.1.oversized
          rejected := refusedAmong found.2 } ∧
      reader.receiver.delivered + reader.receiver.rejected = found.2.length ∧
      ∀ bytes, ∃ added, added = messagesAmong (found.1.feed bytes).2 ∧
        (reader.accept bytes).1.queue = reader.queue ++ added ∧
        (reader.accept bytes).2 = added.length := by
  intro stream found reader
  have taken : reader = ((behind decoder).accept stream).1 := pushAll_eq_accept _ _
  have reader_eq : reader =
      ⟨⟨found.1, (messagesAmong found.2).length, refusedAmong found.2⟩, messagesAmong found.2⟩ := by
    rw [taken, accept_eq, Receiver.feed_eq]
    simp [behind, found]
  refine ⟨taken, ?_, ?_, ?_, fun bytes => ⟨_, rfl, ?_, ?_⟩⟩
  · rw [reader_eq]
  · rw [reader_eq]
    rfl
  · rw [reader_eq]
    exact length_messagesAmong_add_refusedAmong found.2
  · rw [accept_eq, reader_eq, Receiver.feed_eq]
  · rw [accept_eq, reader_eq, Receiver.feed_eq]

end FrameReader

end OpticalLink
