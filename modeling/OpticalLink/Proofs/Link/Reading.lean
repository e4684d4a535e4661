import OpticalLink.Link
import OpticalLink.Proofs.Frame.Stream

/-!
# Reading at one end of a channel

One call reads a bounded number of chunks. `FrameReader.readChunks_eq` says that this is
the same as taking in a bounded prefix of the waiting bytes at once, and that the call
fails exactly when the channel is closed and runs dry before the last read of the call.
-/

namespace OpticalLink

namespace Channel

variable {channel : Channel} {side : Side}

@[simp] theorem endAt_setEnd_self (replacement : ChannelEnd) :
    (channel.setEnd side replacement).endAt side = replacement := by
  cases side <;> rfl

@[simp] theorem closed_setEnd (replacement : ChannelEnd) :
    (channel.setEnd side replacement).closed = channel.closed := by
  cases side <;> rfl

@[simp] theorem setEnd_setEnd (first second : ChannelEnd) :
    (channel.setEnd side first).setEnd side second = channel.setEnd side second := by
  cases side <;> rfl

@[simp] theorem setEnd_endAt : channel.setEnd side (channel.endAt side) = channel := by
  cases side <;> rfl

/-- The channel after some bytes were read at an end. -/
def discard (channel : Channel) (side : Side) (count : Nat) : Channel :=
  channel.setEnd side
    { channel.endAt side with inbound := (channel.pending side).drop count }

@[simp] theorem pending_discard (count : Nat) :
    (channel.discard side count).pending side = (channel.pending side).drop count := by
  simp [discard, pending]

@[simp] theorem chunkSize_discard (count : Nat) :
    ((channel.discard side count).endAt side).chunkSize = (channel.endAt side).chunkSize := by
  simp [discard]

@[simp] theorem closed_discard (count : Nat) :
    (channel.discard side count).closed = channel.closed := by
  simp [discard]

/-- Bytes that are read in turn are read. -/
@[simp] theorem discard_discard (first second : Nat) :
    (channel.discard side first).discard side second = channel.discard side (first + second) := by
  simp [discard, pending, List.drop_drop]

/-- Nothing is read where nothing waits. -/
theorem discard_of_pending_eq_nil (empty : channel.pending side = []) (count : Nat) :
    channel.discard side count = channel := by
  have unchanged : (channel.endAt side) =
      { channel.endAt side with inbound := (channel.pending side).drop count } := by
    rw [empty, List.drop_nil, ← empty]
    rfl
  rw [discard, ← unchanged, setEnd_endAt]

@[simp] theorem discard_zero : channel.discard side 0 = channel :=
  setEnd_endAt

/-- Where nothing waits, a read reports the closing, or else nothing. -/
theorem read_of_pending_eq_nil (empty : channel.pending side = []) :
    channel.read side = (if channel.closed then .error .closed else .ok none, channel) := by
  have nothing : (channel.endAt side).inbound.isEmpty = true := List.isEmpty_iff.mpr empty
  simp only [read, nothing, if_true]

/-- Where bytes wait, a read returns the next chunk of them. -/
theorem read_of_pending_ne_nil (waiting : channel.pending side ≠ []) :
    channel.read side =
      (.ok (some ((channel.pending side).take (channel.endAt side).chunkSize)),
        channel.discard side (channel.endAt side).chunkSize) := by
  have something : (channel.endAt side).inbound.isEmpty = false :=
    List.isEmpty_eq_false_iff.mpr waiting
  simp only [read, something, Bool.false_eq_true, if_false]
  rfl

end Channel

namespace FrameReader

/-- What a receiver counts more after a piece are the messages in the piece. -/
theorem accept_eq (reader : FrameReader) (piece : Bytes) :
    reader.accept piece =
      (⟨(reader.receiver.feed piece).1, reader.queue ++ (reader.receiver.feed piece).2⟩,
        (reader.receiver.feed piece).2.length) := by
  simp only [accept, Receiver.feed_eq, Nat.add_sub_cancel_left]

/-- An empty piece changes nothing. -/
@[simp] theorem accept_nil (reader : FrameReader) : reader.accept [] = (reader, 0) := by
  obtain ⟨receiver, queue⟩ := reader
  simp [accept, Receiver.feed]

/-- Pieces that are taken in one after the other are taken in together. -/
theorem accept_append (reader : FrameReader) (first second : Bytes) :
    reader.accept (first ++ second) =
      (((reader.accept first).1.accept second).1,
        (reader.accept first).2 + ((reader.accept first).1.accept second).2) := by
  simp [accept_eq, Receiver.feed_append, List.append_assoc]

/-- A call takes in a prefix of the waiting bytes at once. It fails exactly when the
channel is closed and the reads of the call do not all find something to return. -/
theorem readChunks_eq {side : Side} {channel : Channel}
    (positive : 0 < (channel.endAt side).chunkSize) (reads delivered : Nat)
    (reader : FrameReader) :
    readChunks (Channel.read · side) reads delivered reader channel =
      (if channel.closed = true ∧ (channel.pending side).length +
            (channel.endAt side).chunkSize ≤ reads * (channel.endAt side).chunkSize then
          .error (.transport .closed)
        else
          .ok (delivered + (reader.accept ((channel.pending side).take
            (reads * (channel.endAt side).chunkSize))).2),
        (reader.accept ((channel.pending side).take
          (reads * (channel.endAt side).chunkSize))).1,
        channel.discard side (reads * (channel.endAt side).chunkSize)) := by
  induction reads generalizing delivered reader channel with
  | zero =>
    have never : ¬ (channel.closed = true ∧ (channel.pending side).length +
        (channel.endAt side).chunkSize ≤ 0 * (channel.endAt side).chunkSize) := by
      rintro ⟨_, short⟩
      omega
    rw [if_neg never]
    simp [readChunks]
  | succ reads inductionHypothesis =>
    by_cases empty : channel.pending side = []
    · have enough : (channel.endAt side).chunkSize ≤
          (reads + 1) * (channel.endAt side).chunkSize :=
        Nat.le_mul_of_pos_left _ (Nat.succ_pos reads)
      rw [readChunks, Channel.read_of_pending_eq_nil empty,
        Channel.discard_of_pending_eq_nil empty, empty, List.take_nil, accept_nil,
        List.length_nil, Nat.add_zero, Nat.zero_add]
      cases closed : channel.closed <;> simp [enough]
    · have positive' : 0 <
          ((channel.discard side (channel.endAt side).chunkSize).endAt side).chunkSize := by
        rwa [Channel.chunkSize_discard]
      have waiting : 0 < (channel.pending side).length := List.length_pos_iff.mpr empty
      have split : (reads + 1) * (channel.endAt side).chunkSize =
          (channel.endAt side).chunkSize + reads * (channel.endAt side).chunkSize := by
        rw [Nat.succ_mul, Nat.add_comm]
      -- The last chunk may be short, so the two sides differ when no read is left.
      have runsDry : (channel.pending side).length - (channel.endAt side).chunkSize +
            (channel.endAt side).chunkSize ≤ reads * (channel.endAt side).chunkSize ↔
          (channel.pending side).length + (channel.endAt side).chunkSize ≤
            (channel.endAt side).chunkSize + reads * (channel.endAt side).chunkSize := by
        cases reads with
        | zero => omega
        | succ reads =>
          rw [Nat.succ_mul]
          omega
      rw [readChunks, Channel.read_of_pending_ne_nil empty]
      simp only [inductionHypothesis positive', Channel.closed_discard,
        Channel.pending_discard, Channel.chunkSize_discard, Channel.discard_discard,
        List.length_drop, runsDry, split, List.take_add, accept_append, Nat.add_assoc]

end FrameReader

namespace Link

/-- What one call of `receive` reads: so many bytes, or all that wait. -/
def bytesPerCall (link : Link) : Nat :=
  FrameReader.readsPerCall * link.channel.left.chunkSize

/-- The reader after the bytes of one call. -/
def readerAfterCall (link : Link) : FrameReader :=
  (link.reader.accept ((link.channel.pending .left).take link.bytesPerCall)).1

/-- The channel after the bytes of one call. -/
def channelAfterCall (link : Link) : Channel := link.channel.discard .left link.bytesPerCall

/-- Whether a call finds the channel closed: it is, and it runs dry during the call. -/
def FindsClosed (link : Link) : Prop :=
  link.channel.closed = true ∧
    (link.channel.pending .left).length + link.channel.left.chunkSize ≤ link.bytesPerCall

instance (link : Link) : Decidable link.FindsClosed :=
  inferInstanceAs (Decidable (_ ∧ _))

/-- How one call reads. -/
theorem readAvailable_eq {link : Link} (positive : 0 < link.channel.left.chunkSize) :
    link.reader.readAvailable link.channel =
      (if link.FindsClosed then .error (.transport .closed)
        else .ok (0 + (link.reader.accept
          ((link.channel.pending .left).take link.bytesPerCall)).2),
        link.readerAfterCall, link.channelAfterCall) :=
  @FrameReader.readChunks_eq .left link.channel positive FrameReader.readsPerCall 0 link.reader

/-- A call that does not find the channel closed hands out all messages so far. -/
theorem receive_of_not_findsClosed {link : Link} (positive : 0 < link.channel.left.chunkSize)
    (stillOpen : ¬ link.FindsClosed) :
    link.receive =
      (.ok link.readerAfterCall.queue,
        { link with
          reader := { link.readerAfterCall with queue := [] }
          channel := link.channelAfterCall }) := by
  simp only [receive, readAvailable_eq positive, if_neg stillOpen, FrameReader.drain]

/-- A call that finds the channel closed fails. What it has read is kept, and the
messages in it wait in the queue. -/
theorem receive_of_findsClosed {link : Link} (positive : 0 < link.channel.left.chunkSize)
    (findsClosed : link.FindsClosed) :
    link.receive =
      (.error (.transport .closed),
        { link with reader := link.readerAfterCall, channel := link.channelAfterCall }) := by
  simp only [receive, readAvailable_eq positive, if_pos findsClosed]

end Link

end OpticalLink
