import OpticalLink.Frame.Buffered
import OpticalLink.Proofs.Frame.Recovery

/-!
# Frames through one buffer

What stands in the buffer between frames has no effect, so a decoder with one buffer does, byte
by byte, what one does that has no buffer there (`BufferedDecoder.Follows.feed`). Its count is the
number of dropped frames, taken in 64 bits; where sums are checked, the program goes on as long
as that number has room (`BufferedDecoder.Follows`). From a new decoder, the buffer is empty
between frames (`BufferedDecoder.feed_withLimit`). A decoder in any state at all gets back in step
with one frame (`BufferedDecoder.feed_after_lost_frame`).
-/

namespace OpticalLink

/-- There is room for the sum of a count and a number, or the sum may wrap around. -/
def Overflow.Permits (overflow : Overflow) (count : UInt64) (number : Nat) : Prop :=
  overflow = .wraps ∨ count.toNat + number < UInt64.size

theorem Overflow.wraps_permits (count : UInt64) (number : Nat) :
    Overflow.wraps.Permits count number :=
  .inl rfl

/-- A permitted sum goes on as if it had all the room. -/
theorem Overflow.next?_eq {overflow : Overflow} {start : UInt64} {number : Nat}
    (permits : overflow.Permits start (number + 1)) :
    overflow.next? (start + UInt64.ofNat number) = some (start + UInt64.ofNat (number + 1)) := by
  have raised : start + UInt64.ofNat number + 1 = start + UInt64.ofNat (number + 1) := by
    rw [UInt64.ofNat_add, UInt64.add_assoc]
    rfl
  cases overflow with
  | wraps => rw [next?, raised]
  | stops =>
    have room : start.toNat + (number + 1) < UInt64.size :=
      permits.resolve_left Overflow.noConfusion
    have fits : (start + UInt64.ofNat number).toNat + 1 < UInt64.size := by
      rw [UInt64.toNat_add, UInt64.toNat_ofNat']
      simp only [UInt64.size] at room ⊢
      omega
    rw [next?, if_pos fits, raised]

namespace FrameDecoder

/-- A frame that a byte drops is counted. -/
theorem oversized_le_step (decoder : FrameDecoder) (byte : UInt8) :
    decoder.oversized ≤ (decoder.step byte).1.oversized := by
  have appended (collected : Array UInt8) : decoder.oversized ≤
      (append decoder.limit decoder.oversized collected byte).oversized := by
    unfold append
    split <;> simp
  obtain ⟨limit, phase, oversized⟩ := decoder
  cases phase with
  | idle =>
    rw [step]
    split
    next => exact Nat.le_refl _
    next => split <;> exact Nat.le_refl _
  | idleEscaped => exact Nat.le_refl _
  | inside collected =>
    rw [step]
    split
    next => exact Nat.le_refl _
    next =>
      split
      next => exact Nat.le_refl _
      next => exact appended collected
  | insideEscaped collected => exact appended collected

/-- Frames that were dropped stay counted. -/
theorem oversized_le_feed (decoder : FrameDecoder) (bytes : Bytes) :
    decoder.oversized ≤ (decoder.feed bytes).1.oversized := by
  induction bytes generalizing decoder with
  | nil => exact Nat.le_refl _
  | cons byte rest inductionHypothesis =>
    rw [feed_cons]
    exact Nat.le_trans (decoder.oversized_le_step byte) (inductionHypothesis _)

end FrameDecoder

namespace BufferedDecoder

/-- Where a decoder stands, without what its buffer holds between frames. -/
def phase (decoder : BufferedDecoder) : DecoderPhase :=
  match decoder.state with
  | .waitStart => .idle
  | .waitStartEscape => .idleEscaped
  | .inFrame => .inside decoder.buffer
  | .afterEscape => .insideEscaped decoder.buffer

/-- A decoder stands where another does, and has counted from `start` what that has counted. -/
structure Follows (start : UInt64) (decoder : BufferedDecoder) (other : FrameDecoder) : Prop where
  limit_eq : other.limit = decoder.limit
  phase_eq : other.phase = decoder.phase
  oversized_eq : decoder.oversized = start + UInt64.ofNat other.oversized

/-- A decoder stands where the one does that has its phase and begins to count. -/
theorem follows_self (decoder : BufferedDecoder) :
    Follows decoder.oversized decoder ⟨decoder.limit, decoder.phase, 0⟩ :=
  ⟨rfl, rfl, by simp⟩

variable {overflow : Overflow} {start : UInt64} {decoder : BufferedDecoder} {other : FrameDecoder}

/-- In a frame, both decoders take a byte in, or both drop the frame. -/
theorem Follows.append (follows : Follows start decoder other) (inside : decoder.state = .inFrame)
    (byte : UInt8) :
    let after := FrameDecoder.append decoder.limit other.oversized decoder.buffer byte
    overflow.Permits start after.oversized →
      ∃ next, decoder.append overflow byte = some next ∧ Follows start next after := by
  intro after permits
  obtain ⟨state, buffer, limit, oversized⟩ := decoder
  obtain rfl : state = .inFrame := inside
  by_cases exceeds : buffer.size + 1 > limit
  · have dropped : after = ⟨limit, .idle, other.oversized + 1⟩ := if_pos exceeds
    have longer : (buffer.push byte).size > limit := by simpa using exceeds
    rw [dropped] at permits ⊢
    refine ⟨⟨.waitStart, #[], limit, _⟩, ?_, rfl, rfl, rfl⟩
    rw [BufferedDecoder.append, if_pos longer, follows.oversized_eq, Overflow.next?_eq permits,
      Option.map_some]
  · have taken : after = ⟨limit, .inside (buffer.push byte), other.oversized⟩ := if_neg exceeds
    have fits : ¬ (buffer.push byte).size > limit := by simpa using exceeds
    rw [taken]
    exact ⟨⟨.inFrame, buffer.push byte, limit, oversized⟩, if_neg fits, rfl, rfl,
      follows.oversized_eq⟩

/-- Both decoders do the same with a byte. -/
theorem Follows.step (follows : Follows start decoder other) (byte : UInt8)
    (permits : overflow.Permits start (other.step byte).1.oversized) :
    ∃ next, decoder.step overflow byte = some (next, (other.step byte).2) ∧
      Follows start next (other.step byte).1 := by
  obtain ⟨state, buffer, limit, oversized⟩ := decoder
  obtain ⟨otherLimit, otherPhase, number⟩ := other
  obtain rfl : otherLimit = limit := follows.limit_eq
  have counted : oversized = start + UInt64.ofNat number := follows.oversized_eq
  cases state with
  | waitStart =>
    obtain rfl : otherPhase = .idle := follows.phase_eq
    by_cases starts : byte = Frame.startMarker
    · have stepped : FrameDecoder.step ⟨otherLimit, .idle, number⟩ byte =
          (⟨otherLimit, .inside #[], number⟩, none) := if_pos starts
      rw [stepped]
      exact ⟨⟨.inFrame, #[], otherLimit, oversized⟩, if_pos starts, rfl, rfl, counted⟩
    · by_cases escapes : byte = Frame.escapeMarker
      · have stepped : FrameDecoder.step ⟨otherLimit, .idle, number⟩ byte =
            (⟨otherLimit, .idleEscaped, number⟩, none) := (if_neg starts).trans (if_pos escapes)
        rw [stepped]
        exact ⟨⟨.waitStartEscape, buffer, otherLimit, oversized⟩,
          (if_neg starts).trans (if_pos escapes), rfl, rfl, counted⟩
      · have stepped : FrameDecoder.step ⟨otherLimit, .idle, number⟩ byte =
            (⟨otherLimit, .idle, number⟩, none) := (if_neg starts).trans (if_neg escapes)
        rw [stepped]
        exact ⟨⟨.waitStart, buffer, otherLimit, oversized⟩,
          (if_neg starts).trans (if_neg escapes), rfl, rfl, counted⟩
  | waitStartEscape =>
    obtain rfl : otherPhase = .idleEscaped := follows.phase_eq
    exact ⟨⟨.waitStart, buffer, otherLimit, oversized⟩, rfl, rfl, rfl, counted⟩
  | inFrame =>
    obtain rfl : otherPhase = .inside buffer := follows.phase_eq
    by_cases escapes : byte = Frame.escapeMarker
    · have stepped : FrameDecoder.step ⟨otherLimit, .inside buffer, number⟩ byte =
          (⟨otherLimit, .insideEscaped buffer, number⟩, none) := if_pos escapes
      rw [stepped]
      exact ⟨⟨.afterEscape, buffer, otherLimit, oversized⟩, if_pos escapes, rfl, rfl, counted⟩
    · by_cases ends : byte = Frame.endMarker
      · have stepped : FrameDecoder.step ⟨otherLimit, .inside buffer, number⟩ byte =
            (⟨otherLimit, .idle, number⟩, if buffer.isEmpty then none else some buffer.toList) :=
          (if_neg escapes).trans (if_pos ends)
        rw [stepped]
        refine ⟨⟨.waitStart, if buffer.isEmpty then buffer else #[], otherLimit, oversized⟩, ?_,
          rfl, rfl, counted⟩
        refine ((if_neg escapes).trans (if_pos ends)).trans ?_
        split <;> rfl
      · have stepped : FrameDecoder.step ⟨otherLimit, .inside buffer, number⟩ byte =
            (FrameDecoder.append otherLimit number buffer byte, none) :=
          (if_neg escapes).trans (if_neg ends)
        rw [stepped] at permits ⊢
        obtain ⟨next, appended, followed⟩ := follows.append rfl byte permits
        refine ⟨next, ?_, followed⟩
        refine ((if_neg escapes).trans (if_neg ends)).trans ?_
        rw [appended, Option.map_some]
  | afterEscape =>
    obtain rfl : otherPhase = .insideEscaped buffer := follows.phase_eq
    have unescaped : Follows start ⟨.inFrame, buffer, otherLimit, oversized⟩
        ⟨otherLimit, .inside buffer, number⟩ := ⟨rfl, rfl, counted⟩
    obtain ⟨next, appended, followed⟩ := unescaped.append rfl byte permits
    exact ⟨next, by simp [BufferedDecoder.step, FrameDecoder.step, appended], followed⟩

/-- A stream is fed byte by byte. -/
theorem feed_cons {byte : UInt8} {next : BufferedDecoder} {payload? : Option Bytes}
    (stepped : decoder.step overflow byte = some (next, payload?)) (rest : Bytes) :
    decoder.feed overflow (byte :: rest) =
      (next.feed overflow rest).map fun (last, payloads) => (last, payload?.toList ++ payloads) := by
  rw [BufferedDecoder.feed, stepped, Option.map_eq_bind]
  rfl

/-- Both decoders do the same with a stream. -/
theorem Follows.feed (follows : Follows start decoder other) (bytes : Bytes)
    (permits : overflow.Permits start (other.feed bytes).1.oversized) :
    ∃ last, decoder.feed overflow bytes = some (last, (other.feed bytes).2) ∧
      Follows start last (other.feed bytes).1 := by
  induction bytes generalizing decoder other with
  | nil => exact ⟨decoder, rfl, follows⟩
  | cons byte rest inductionHypothesis =>
    rw [FrameDecoder.feed_cons] at permits ⊢
    have counted := (other.step byte).1.oversized_le_feed rest
    have permitsStep : overflow.Permits start (other.step byte).1.oversized :=
      permits.imp_right (Nat.lt_of_le_of_lt (Nat.add_le_add_left counted _))
    obtain ⟨next, stepped, followsNext⟩ := follows.step byte permitsStep
    obtain ⟨last, fed, followsLast⟩ := inductionHypothesis followsNext permits
    exact ⟨last, by rw [feed_cons stepped, fed, Option.map_some], followsLast⟩

/-! ## Where sums are checked -/

/-- A checked sum, if it is taken, is the sum. -/
theorem next?_wraps {count sum : UInt64} (taken : overflow.next? count = some sum) :
    Overflow.wraps.next? count = some sum := by
  cases overflow with
  | wraps => exact taken
  | stops =>
    rw [Overflow.next?] at taken
    split at taken
    next => exact taken
    next => cases taken

theorem append_wraps {byte : UInt8} {next : BufferedDecoder}
    (appended : decoder.append overflow byte = some next) :
    decoder.append .wraps byte = some next := by
  rw [append] at appended ⊢
  split at appended
  next exceeds =>
    obtain ⟨count, raised, rfl⟩ := Option.map_eq_some_iff.mp appended
    rw [if_pos exceeds, next?_wraps raised, Option.map_some]
  next fits => rwa [if_neg fits]

theorem step_wraps {byte : UInt8} {result : BufferedDecoder × Option Bytes}
    (stepped : decoder.step overflow byte = some result) :
    decoder.step .wraps byte = some result := by
  have taken {inside : BufferedDecoder}
      (appended : (inside.append overflow byte).map (·, none) = some result) :
      (inside.append .wraps byte).map (·, none) = some result := by
    obtain ⟨next, appended, same⟩ := Option.map_eq_some_iff.mp appended
    rw [append_wraps appended, Option.map_some, same]
  obtain ⟨state, buffer, limit, oversized⟩ := decoder
  cases state with
  | waitStart | waitStartEscape => exact stepped
  | inFrame =>
    simp only [BufferedDecoder.step] at stepped ⊢
    by_cases escapes : byte = Frame.escapeMarker
    · rwa [if_pos escapes] at stepped ⊢
    · rw [if_neg escapes] at stepped ⊢
      by_cases ends : byte = Frame.endMarker
      · rwa [if_pos ends] at stepped ⊢
      · rw [if_neg ends] at stepped ⊢
        exact taken stepped
  | afterEscape => exact taken stepped

/-- If a program that checks its sums gets through a stream, it does what one does that does not. -/
theorem feed_wraps {bytes : Bytes} {result : BufferedDecoder × List Bytes}
    (fed : decoder.feed overflow bytes = some result) :
    decoder.feed .wraps bytes = some result := by
  induction bytes generalizing decoder result with
  | nil => exact fed
  | cons byte rest inductionHypothesis =>
    obtain ⟨⟨next, payload?⟩, stepped, fed⟩ := Option.bind_eq_some_iff.mp fed
    obtain ⟨⟨last, payloads⟩, fedRest, same⟩ := Option.bind_eq_some_iff.mp fed
    rw [feed_cons (step_wraps stepped), inductionHypothesis fedRest, Option.map_some]
    exact same

/-- It gets through if its count has room for all the frames that are dropped. -/
theorem Follows.feed_stops (follows : Follows start decoder other) {bytes : Bytes}
    (room : start.toNat + (other.feed bytes).1.oversized < UInt64.size)
    {result : BufferedDecoder × List Bytes} (fed : decoder.feed .wraps bytes = some result) :
    decoder.feed .stops bytes = some result := by
  have permits : Overflow.stops.Permits start (other.feed bytes).1.oversized := .inr room
  obtain ⟨last, checked, -⟩ := follows.feed bytes permits
  rw [checked, ← feed_wraps checked, fed]

/-! ## From a new decoder -/

/-- Between frames, the buffer is empty. -/
def Clean (decoder : BufferedDecoder) : Prop :=
  decoder.isIdle = true → decoder.buffer = #[]

/-- A byte that is taken in or drops the frame leaves nothing in the buffer between frames. -/
theorem clean_of_append {next : BufferedDecoder} (inside : decoder.state = .inFrame) {byte : UInt8}
    (appended : decoder.append overflow byte = some next) : next.Clean := by
  rw [append] at appended
  split at appended
  next =>
    obtain ⟨count, -, rfl⟩ := Option.map_eq_some_iff.mp appended
    exact fun _ => rfl
  next =>
    cases appended
    intro idle
    simp [isIdle, inside] at idle

/-- A decoder leaves nothing in the buffer when it closes or drops a frame. -/
theorem Clean.step {next : BufferedDecoder} {payload? : Option Bytes} (clean : decoder.Clean)
    {byte : UInt8} (stepped : decoder.step overflow byte = some (next, payload?)) : next.Clean := by
  obtain ⟨state, buffer, limit, oversized⟩ := decoder
  cases state with
  | waitStart =>
    have empty : buffer = #[] := clean rfl
    subst empty
    simp only [BufferedDecoder.step] at stepped
    split at stepped
    next => cases stepped; exact fun _ => rfl
    next => split at stepped <;> cases stepped <;> exact fun _ => rfl
  | waitStartEscape =>
    have empty : buffer = #[] := clean rfl
    cases stepped
    exact fun _ => empty
  | inFrame =>
    simp only [BufferedDecoder.step] at stepped
    split at stepped
    next => cases stepped; exact Bool.noConfusion
    next =>
      split at stepped
      next =>
        split at stepped
        next empty => cases stepped; exact fun _ => Array.isEmpty_iff.mp empty
        next => cases stepped; exact fun _ => rfl
      next =>
        obtain ⟨after, appended, same⟩ := Option.map_eq_some_iff.mp stepped
        cases same
        exact clean_of_append rfl appended
  | afterEscape =>
    obtain ⟨after, appended, same⟩ := Option.map_eq_some_iff.mp stepped
    cases same
    exact clean_of_append rfl appended

/-- A decoder leaves nothing in the buffer between frames. -/
theorem Clean.feed {last : BufferedDecoder} {bytes : Bytes} {payloads : List Bytes}
    (clean : decoder.Clean) (fed : decoder.feed overflow bytes = some (last, payloads)) :
    last.Clean := by
  induction bytes generalizing decoder payloads with
  | nil => cases fed; exact clean
  | cons byte rest inductionHypothesis =>
    obtain ⟨⟨next, payload?⟩, stepped, fed⟩ := Option.bind_eq_some_iff.mp fed
    obtain ⟨⟨next', payloads'⟩, fedRest, same⟩ := Option.bind_eq_some_iff.mp fed
    cases same
    exact inductionHypothesis (clean.step stepped) fedRest

/-- A clean decoder holds what it has collected of the frame that is under way. -/
theorem Follows.buffer_eq (follows : Follows start decoder other) (clean : decoder.Clean) :
    decoder.buffer = other.buffered := by
  obtain ⟨state, buffer, limit, oversized⟩ := decoder
  rw [FrameDecoder.buffered, follows.phase_eq]
  cases state with
  | waitStart | waitStartEscape => exact clean rfl
  | inFrame | afterEscape => rfl

/-- A decoder is between frames when the one that it follows is. -/
theorem Follows.isIdle_eq (follows : Follows start decoder other) :
    decoder.isIdle = other.isIdle := by
  obtain ⟨state, buffer, limit, oversized⟩ := decoder
  rw [FrameDecoder.isIdle, follows.phase_eq]
  cases state <;> rfl

/-- A decoder waits for a start marker when the one that it follows does. -/
theorem Follows.state_eq (follows : Follows start decoder other) (idle : other.phase = .idle) :
    decoder.state = .waitStart := by
  obtain ⟨state, buffer, limit, oversized⟩ := decoder
  have phase_eq := follows.phase_eq
  rw [idle] at phase_eq
  cases state with
  | waitStart => rfl
  | waitStartEscape | inFrame | afterEscape => cases phase_eq

/-- A new decoder with one buffer gives the payloads that one gives without a buffer between
frames, stands where that stands and holds the same bytes. Its count is the number of frames
dropped, in 64 bits. -/
theorem feed_withLimit (limit : Nat) (bytes : Bytes) :
    let found := (FrameDecoder.withLimit limit).feed bytes
    ∃ last, (withLimit limit).feed .wraps bytes = some (last, found.2) ∧
      last.isIdle = found.1.isIdle ∧ last.buffer = found.1.buffered ∧
      last.oversized = UInt64.ofNat found.1.oversized ∧
      (found.1.oversized < UInt64.size →
        (withLimit limit).feed .stops bytes = some (last, found.2)) := by
  intro found
  have clean : (withLimit limit).Clean := fun _ => rfl
  have follows : Follows 0 (withLimit limit) (FrameDecoder.withLimit limit) := ⟨rfl, rfl, rfl⟩
  obtain ⟨last, fed, followsLast⟩ := follows.feed bytes (Overflow.wraps_permits _ _)
  refine ⟨last, fed, followsLast.isIdle_eq, followsLast.buffer_eq (clean.feed fed), ?_,
    fun room => follows.feed_stops ?_ fed⟩
  · rw [followsLast.oversized_eq, UInt64.zero_add]
  · rwa [UInt64.toNat_zero, Nat.zero_add]

/-! ## Getting back in step -/

/-- A decoder in any state whatever gets back in step with one frame: with any bytes in its buffer
and any count. That frame gives a payload or adds one to the count, or neither, and all frames
behind it that are within the limit are found. Where sums are checked, the program stops at no
other count than the largest. -/
theorem feed_after_lost_frame (decoder : BufferedDecoder) (lost : Frame.Encoded)
    (later : List Frame.Encoded)
    (within : ∀ encoded ∈ later,
      1 ≤ encoded.payload.length ∧ encoded.payload.length ≤ decoder.limit) :
    ∃ after emitted last,
      decoder.feed .wraps lost.bytes = some (after, emitted) ∧ after.state = .waitStart ∧
      (after.oversized = decoder.oversized ∧ emitted.length ≤ 1 ∨
        after.oversized = decoder.oversized + 1 ∧ emitted = []) ∧
      after.feed .wraps (later.flatMap Frame.Encoded.bytes) =
        some (last, later.map Frame.Encoded.payload) ∧
      last.state = .waitStart ∧ last.oversized = after.oversized ∧
      (decoder.oversized.toNat + 1 < UInt64.size →
        decoder.feed .stops lost.bytes = some (after, emitted)) ∧
      after.feed .stops (later.flatMap Frame.Encoded.bytes) =
        some (last, later.map Frame.Encoded.payload) := by
  have follows := follows_self decoder
  obtain ⟨dropped, emitted, closed, atMostOne⟩ :=
    FrameDecoder.feed_wrap_any ⟨decoder.limit, decoder.phase, 0⟩ lost.payload
  rw [← lost.bytes_eq, Nat.zero_add] at closed
  obtain ⟨after, fed, followsAfter⟩ := follows.feed lost.bytes (Overflow.wraps_permits _ _)
  rw [closed] at fed followsAfter
  -- Behind the lost frame, the decoder begins to count again where it stands.
  have waits : Follows after.oversized after ⟨decoder.limit, .idle, 0⟩ :=
    ⟨followsAfter.limit_eq, followsAfter.phase_eq, (follows_self after).oversized_eq⟩
  have accepted : FrameDecoder.feed ⟨decoder.limit, .idle, 0⟩
      (later.flatMap Frame.Encoded.bytes) =
        (⟨decoder.limit, .idle, 0⟩, later.map Frame.Encoded.payload) :=
    FrameDecoder.feed_accepted within
  obtain ⟨last, fedLater, followsLast⟩ :=
    waits.feed (later.flatMap Frame.Encoded.bytes) (Overflow.wraps_permits _ _)
  rw [accepted] at fedLater followsLast
  have counted := followsAfter.oversized_eq
  have few : dropped ≤ 1 := by omega
  refine ⟨after, emitted, last, fed, followsAfter.state_eq rfl, ?_, fedLater,
    followsLast.state_eq rfl, followsLast.oversized_eq.trans (follows_self after).oversized_eq.symm,
    fun room => follows.feed_stops ?_ fed, waits.feed_stops ?_ fedLater⟩
  · obtain rfl | rfl : dropped = 0 ∨ dropped = 1 := by omega
    · exact .inl ⟨by simpa using counted, by simpa using atMostOne⟩
    · exact .inr ⟨counted, List.length_eq_zero_iff.mp (by omega)⟩
  · rw [closed]
    exact Nat.lt_of_le_of_lt (Nat.add_le_add_left few _) room
  · rw [accepted]
    exact after.oversized.toNat_lt

/-- A decoder that has collected all it may, and has just seen an escape marker, takes the start
of a frame for one byte too many. It drops what it had and finds the two frames behind. -/
theorem feed_after_lost_frame_swallowed_start :
    let decoder : BufferedDecoder := ⟨.afterEscape, #[1, 2, 3], 3, 4⟩
    let lost : Frame.Encoded := ⟨[0xF1, 9], [0xF1, 0xF3, 0xF1, 9, 0xF2], 64, rfl⟩
    let later : List Frame.Encoded := [⟨[5], [0xF1, 5, 0xF2], 3, rfl⟩,
      ⟨[0xF2, 0xF3, 7], [0xF1, 0xF3, 0xF2, 0xF3, 0xF3, 7, 0xF2], 64, rfl⟩]
    let after : BufferedDecoder := ⟨.waitStart, #[], 3, 5⟩
    (∀ encoded ∈ later, 1 ≤ encoded.payload.length ∧ encoded.payload.length ≤ decoder.limit) ∧
      decoder.feed .wraps lost.bytes = some (after, []) ∧
      decoder.feed .stops lost.bytes = some (after, []) ∧
      ∃ last, after.feed .wraps (later.flatMap Frame.Encoded.bytes) =
          some (last, [[5], [0xF2, 0xF3, 7]]) ∧
        last.state = .waitStart ∧ last.oversized = 5 := by
  intro decoder lost later after
  have within : ∀ encoded ∈ later,
      1 ≤ encoded.payload.length ∧ encoded.payload.length ≤ decoder.limit := by
    decide
  have dropped : decoder.feed .wraps lost.bytes = some (after, []) := by decide
  obtain ⟨_, _, last, fed, _, _, found, waiting, kept, checked, _⟩ :=
    feed_after_lost_frame decoder lost later within
  obtain ⟨rfl, rfl⟩ := Prod.mk.inj (Option.some.inj (dropped.symm.trans fed))
  exact ⟨within, dropped, checked (by decide), last, found, waiting, kept⟩

/-- The largest count wraps around to zero, or stops the program. -/
example :
    let decoder : BufferedDecoder := ⟨.inFrame, #[1, 2, 3], 3, 18446744073709551615⟩
    decoder.feed .wraps [4] = some (⟨.waitStart, #[], 3, 0⟩, []) ∧
      decoder.feed .stops [4] = none := by
  decide

end BufferedDecoder

end OpticalLink
