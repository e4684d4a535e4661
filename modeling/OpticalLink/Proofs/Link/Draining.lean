import OpticalLink.Proofs.Link.Reading
import Mathlib.Algebra.GroupWithZero.Nat

/-!
# Draining a channel

One call of `FrameReader.readFrom` takes in a bounded prefix of what waits, as if it came in one
piece. It may fail all the same, and then nothing of that prefix is lost: only the count is not
told. `FrameReader.readFrom_bulk` states the bounds of the prefix and of the failure.

From there on the chunks play no part. A course of calls, with the chunk size changed in between or
not, has taken in one piece of the waiting bytes (`readThrough_prefix`). Where the piece is all of
them, the reader is the same whatever the chunk sizes were.
-/

namespace OpticalLink

namespace Channel

variable {channel : Channel} {side : Side}

@[simp] theorem pending_setChunkSize (chunkSize : Nat) :
    (channel.setChunkSize side chunkSize).pending side = channel.pending side := by
  simp [setChunkSize, pending]

@[simp] theorem closed_setChunkSize (chunkSize : Nat) :
    (channel.setChunkSize side chunkSize).closed = channel.closed :=
  closed_setEnd _

/-- A chunk size of zero counts as one. -/
theorem chunkSize_setChunkSize_pos (chunkSize : Nat) :
    0 < ((channel.setChunkSize side chunkSize).endAt side).chunkSize := by
  rw [setChunkSize, endAt_setEnd_self]
  exact Nat.lt_of_lt_of_le Nat.zero_lt_one (Nat.le_max_right _ _)

/-- Reading more than waits reads all that waits. -/
theorem discard_min (count : Nat) :
    channel.discard side (min (channel.pending side).length count) =
      channel.discard side count := by
  rw [discard, discard, Nat.min_comm, ← List.drop_eq_drop_min]

end Channel

/-- What is done in a course of reading. -/
inductive ReadStep where
  /-- One call. -/
  | call
  /-- A change of the most bytes that one read returns. -/
  | resize (chunkSize : Nat)
deriving DecidableEq, Repr

namespace FrameReader

variable {channel : Channel} {side : Side}

/-- One call in terms of the bytes that it takes in. -/
theorem readFrom_eq_accept (reader : FrameReader)
    (positive : 0 < (channel.endAt side).chunkSize) :
    reader.readFrom channel side =
      (if channel.closed = true ∧
            (channel.pending side).length ≤ 15 * (channel.endAt side).chunkSize then
          .error (.transport .closed)
        else
          .ok (reader.accept
            ((channel.pending side).take (16 * (channel.endAt side).chunkSize))).2,
        (reader.accept ((channel.pending side).take (16 * (channel.endAt side).chunkSize))).1,
        channel.discard side (16 * (channel.endAt side).chunkSize)) := by
  have runsDry : (channel.pending side).length + (channel.endAt side).chunkSize ≤
      16 * (channel.endAt side).chunkSize ↔
        (channel.pending side).length ≤ 15 * (channel.endAt side).chunkSize := by
    omega
  rw [readFrom, readChunks_eq positive]
  simp only [readsPerCall, runsDry, Nat.zero_add]

/-! ## Courses of calls -/

/-- The answers to the calls of a course, with the reader and the channel after it. -/
def readThrough (side : Side) :
    List ReadStep → FrameReader → Channel → List (Except FrameError Nat) × FrameReader × Channel
  | [], reader, channel => ([], reader, channel)
  | .call :: steps, reader, channel =>
    let (answer, reader, channel) := reader.readFrom channel side
    let (answers, reader, channel) := readThrough side steps reader channel
    (answer :: answers, reader, channel)
  | .resize chunkSize :: steps, reader, channel =>
    readThrough side steps reader (channel.setChunkSize side chunkSize)

/-- A course has taken in the first bytes that waited, in one piece. While the channel is open,
every call succeeds, and the counts add up to the messages in the piece. -/
theorem readThrough_prefix (steps : List ReadStep) (reader : FrameReader) (channel : Channel)
    (positive : 0 < (channel.endAt side).chunkSize) :
    ∃ count,
      (readThrough side steps reader channel).2.2.pending side =
        (channel.pending side).drop count ∧
      (readThrough side steps reader channel).2.1 =
        (reader.accept ((channel.pending side).take count)).1 ∧
      (channel.closed = false → ∃ counts : List Nat,
        (readThrough side steps reader channel).1 = counts.map .ok ∧
        counts.sum = (reader.accept ((channel.pending side).take count)).2) := by
  induction steps generalizing reader channel with
  | nil => exact ⟨0, rfl, by simp [readThrough], fun _ => ⟨[], rfl, by simp⟩⟩
  | cons step steps inductionHypothesis =>
    cases step with
    | call =>
      obtain ⟨size, size_eq⟩ : ∃ size, 16 * (channel.endAt side).chunkSize = size := ⟨_, rfl⟩
      obtain ⟨count, rest, taken, answered⟩ := inductionHypothesis
        (reader.accept ((channel.pending side).take size)).1 (channel.discard side size)
        (by rwa [Channel.chunkSize_discard])
      rw [Channel.pending_discard] at rest taken answered
      rw [Channel.closed_discard] at answered
      refine ⟨size + count, ?_, ?_, fun stillOpen => ?_⟩
      · simp only [readThrough, readFrom_eq_accept reader positive, size_eq, rest, List.drop_drop]
      · simp only [readThrough, readFrom_eq_accept reader positive, size_eq, taken, List.take_add,
          accept_append]
      · obtain ⟨counts, answers_eq, sum_eq⟩ := answered stillOpen
        refine ⟨(reader.accept ((channel.pending side).take size)).2 :: counts, ?_, ?_⟩
        · simp only [readThrough, readFrom_eq_accept reader positive, size_eq, answers_eq, stillOpen,
            Bool.false_eq_true, false_and, if_false, List.map_cons]
        · rw [List.sum_cons, sum_eq, List.take_add, accept_append]
    | resize chunkSize =>
      obtain ⟨count, rest, taken, answered⟩ := inductionHypothesis reader
        (channel.setChunkSize side chunkSize) (Channel.chunkSize_setChunkSize_pos chunkSize)
      rw [Channel.pending_setChunkSize] at rest taken answered
      rw [Channel.closed_setChunkSize] at answered
      exact ⟨count, rest, taken, answered⟩

/-- Calls one after the other take out as much as their chunks hold together. -/
theorem pending_readThrough_replicate (calls : Nat) (reader : FrameReader) (channel : Channel)
    (positive : 0 < (channel.endAt side).chunkSize) :
    (readThrough side (List.replicate calls .call) reader channel).2.2.pending side =
      (channel.pending side).drop (calls * (16 * (channel.endAt side).chunkSize)) := by
  induction calls generalizing reader channel with
  | zero => simp [readThrough]
  | succ calls inductionHypothesis =>
    rw [List.replicate_succ]
    simp only [readThrough, readFrom_eq_accept reader positive]
    rw [inductionHypothesis _ _ (by rwa [Channel.chunkSize_discard]), Channel.pending_discard,
      Channel.chunkSize_discard, List.drop_drop, Nat.add_mul, Nat.one_mul, Nat.add_comm]

/-- A course that leaves nothing has taken in all that waited, in one piece. -/
theorem readThrough_of_drained (steps : List ReadStep) (reader : FrameReader) (channel : Channel)
    (positive : 0 < (channel.endAt side).chunkSize)
    (drained : (readThrough side steps reader channel).2.2.pending side = []) :
    (readThrough side steps reader channel).2.1 =
      (reader.accept (channel.pending side)).1 ∧
    (channel.closed = false → ∃ counts : List Nat,
      (readThrough side steps reader channel).1 = counts.map .ok ∧
      counts.sum = (reader.accept (channel.pending side)).2) := by
  obtain ⟨count, rest, taken, answered⟩ := readThrough_prefix steps reader channel positive
  have all : (channel.pending side).take count = channel.pending side :=
    List.take_of_length_le (List.drop_eq_nil_iff.mp (rest.symm.trans drained))
  rw [all] at taken answered
  exact ⟨taken, answered⟩

/-- One call takes the first bytes that wait, up to sixteen chunks, out of the channel, and changes
the reader as the same bytes in one piece do. It fails exactly where the channel is closed and has
no more than fifteen chunks left, and else tells the number of messages in those bytes. Enough calls
leave nothing; and a course that leaves nothing has changed the reader as all that waited in one
piece does. While the channel is open its counts add up to the messages in that piece. So the chunk
sizes play no part in it. -/
theorem readFrom_bulk (reader : FrameReader) (channel : Channel) (side : Side)
    (positive : 0 < (channel.endAt side).chunkSize) :
    let waiting := channel.pending side
    let size := (channel.endAt side).chunkSize
    let taken := waiting.take (min waiting.length (16 * size))
    let after := reader.readFrom channel side
    (after.2.2 = channel.discard side taken.length ∧
      after.2.2.pending side = waiting.drop (min waiting.length (16 * size)) ∧
      after.2.1 = (reader.accept taken).1 ∧
      (after.1 = .error (.transport .closed) ↔
        channel.closed = true ∧ waiting.length ≤ 15 * size) ∧
      (¬ (channel.closed = true ∧ waiting.length ≤ 15 * size) →
        after.1 = .ok (reader.accept taken).2 ∧
        (reader.accept taken).2 = (reader.receiver.feed taken).2.length)) ∧
    (∀ calls, (readThrough side (List.replicate calls .call) reader channel).2.2.pending side =
      waiting.drop (calls * (16 * size))) ∧
    ∀ steps, (readThrough side steps reader channel).2.2.pending side = [] →
      (readThrough side steps reader channel).2.1 = (reader.accept waiting).1 ∧
      (channel.closed = false → ∃ counts : List Nat,
        (readThrough side steps reader channel).1 = counts.map .ok ∧
        counts.sum = (reader.accept waiting).2) := by
  intro waiting size taken after
  have taken_eq : taken = waiting.take (16 * size) := by
    rw [List.take_eq_take_min, Nat.min_comm]
  have length_eq : taken.length = min waiting.length (16 * size) := by
    rw [List.length_take, Nat.min_assoc, Nat.min_comm (16 * size), ← Nat.min_assoc, Nat.min_self]
  have after_eq : after = _ := readFrom_eq_accept reader positive
  have discard_eq : after.2.2 = channel.discard side taken.length := by
    rw [after_eq, length_eq, Channel.discard_min]
  refine ⟨⟨discard_eq, ?_, ?_, ?_, fun answered => ⟨?_, ?_⟩⟩,
    fun calls => pending_readThrough_replicate calls reader channel positive,
    fun steps => readThrough_of_drained steps reader channel positive⟩
  · rw [discard_eq, Channel.pending_discard, length_eq]
  · rw [after_eq, taken_eq]
  · rw [after_eq]
    refine ⟨fun failed => ?_, fun runsDry => if_pos runsDry⟩
    refine Decidable.byContradiction fun answered => ?_
    rw [if_neg answered] at failed
    cases failed
  · rw [after_eq, taken_eq, if_neg answered]
  · rw [accept_eq]

/-- A closed channel in which the frame of a report waits, with one byte to a chunk. -/
def closingReport : Channel where
  left := ⟨Frame.wrap (Message.ofReply .statusReport).serialize, 1, false⟩
  right := .new 1
  closed := true

/-- A call may fail and take in a whole report all the same. -/
theorem readFrom_bulk_closingReport :
    (new.readFrom closingReport .left).1 = .error (.transport .closed) ∧
      (new.readFrom closingReport .left).2.1.queue = [Message.ofReply .statusReport] ∧
      (readThrough .left [.resize 2, .call] new closingReport).2.1 =
        (new.readFrom closingReport .left).2.1 := by
  obtain ⟨⟨_, _, reader_eq, closed_iff, _⟩, _, drained⟩ :=
    readFrom_bulk new closingReport .left (by decide)
  have all : (closingReport.pending .left).take
      (min (closingReport.pending .left).length (16 * (closingReport.endAt .left).chunkSize)) =
        Frame.wrap (Message.ofReply .statusReport).serialize := by
    decide
  rw [all] at reader_eq
  refine ⟨closed_iff.mpr ⟨rfl, by decide⟩, ?_, ?_⟩
  · rw [reader_eq, accept_eq]
    exact messagesIn_wrap (Message.canonical_ofReply .statusReport) (by decide)
  · rw [reader_eq]
    exact (drained _ (by decide +kernel)).1

end FrameReader

end OpticalLink
