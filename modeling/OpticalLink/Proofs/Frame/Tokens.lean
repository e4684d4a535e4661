import OpticalLink.Proofs.Frame.Stream

/-!
# Frames among tokens

A stream can be read in two passes. The first joins every escape marker to the byte behind
it (`Frame.tokenize`), the second looks for frames among the tokens (`Frame.scan`). The
decoder reads in one pass, byte by byte, and may be stopped and resumed anywhere. It finds
the same payloads, drops the same frames and stands between frames at the same places
(`FrameDecoder.feed_eq_scan`), however its bytes arrive (`FrameDecoder.pushAll_eq_scan`).
-/

namespace OpticalLink

namespace Frame

/-- What a stream is made of. -/
inductive Token where
  /-- A byte without an escape marker before it. -/
  | raw (byte : UInt8)
  /-- A byte behind an escape marker. -/
  | literal (byte : UInt8)
deriving DecidableEq, Repr

namespace Token

/-- The byte that a token adds to a frame. -/
def byte : Token → UInt8
  | .raw byte => byte
  | .literal byte => byte

/-- A token as it stands in a stream. -/
def wire : Token → Bytes
  | .raw byte => [byte]
  | .literal byte => [escapeMarker, byte]

end Token

/-- The tokens of a stream. An escape marker at its very end is none. -/
def tokenize : Bytes → List Token
  | [] => []
  | [byte] => if byte = escapeMarker then [] else [.raw byte]
  | byte :: next :: rest =>
    if byte = escapeMarker then .literal next :: tokenize rest
    else .raw byte :: tokenize (next :: rest)

/-- Whether a stream ends in an escape marker that has no byte behind it. -/
def endsEscaped : Bytes → Bool
  | [] => false
  | [byte] => byte == escapeMarker
  | byte :: next :: rest =>
    if byte = escapeMarker then endsEscaped rest else endsEscaped (next :: rest)

/-- An escape marker is never a token of its own. -/
theorem ne_escape_of_mem_tokenize {token : Token} {bytes : Bytes}
    (member : token ∈ tokenize bytes) : token ≠ .raw escapeMarker := by
  fun_induction tokenize bytes with
  | case1 => cases member
  | case2 => cases member
  | case3 byte plain =>
    rw [List.mem_singleton.mp member]
    simpa using plain
  | case4 next rest inductionHypothesis =>
    rcases List.mem_cons.mp member with rfl | member
    · exact Token.noConfusion
    · exact inductionHypothesis member
  | case5 byte next rest plain inductionHypothesis =>
    rcases List.mem_cons.mp member with rfl | member
    · simpa using plain
    · exact inductionHypothesis member

/-- The tokens of a stream, with the lone escape marker at its end, are the whole stream. -/
theorem flatMap_wire_tokenize (bytes : Bytes) :
    (tokenize bytes).flatMap Token.wire ++ (if endsEscaped bytes then [escapeMarker] else []) =
      bytes := by
  fun_induction tokenize bytes with
  | case1 => rfl
  | case2 => simp [endsEscaped]
  | case3 byte plain => simp [endsEscaped, plain, Token.wire]
  | case4 next rest inductionHypothesis =>
    simp [endsEscaped, Token.wire, inductionHypothesis]
  | case5 byte next rest plain inductionHypothesis =>
    simp [endsEscaped, plain, Token.wire, inductionHypothesis]

/-- What is found among some tokens. -/
structure Scan where
  /-- The contents of the frames that are closed and not empty. -/
  payloads : List Bytes
  /-- The number of frames that exceed the limit. -/
  oversized : Nat
  /-- The content so far of a frame that is still open. -/
  frame : Option Bytes
deriving DecidableEq, Repr

namespace Scan

/-- A closed frame stands before what is found. An empty one is passed over. -/
def emit (collected : Bytes) (found : Scan) : Scan :=
  if collected = [] then found else { found with payloads := collected :: found.payloads }

/-- A frame that exceeds the limit stands before what is found. -/
def drop (found : Scan) : Scan := { found with oversized := found.oversized + 1 }

/-- What is found in one part and then in the next. -/
def followedBy (first second : Scan) : Scan :=
  ⟨first.payloads ++ second.payloads, first.oversized + second.oversized, second.frame⟩

@[simp] theorem frame_emit (collected : Bytes) (found : Scan) :
    (found.emit collected).frame = found.frame := by
  unfold emit
  split <;> rfl

@[simp] theorem frame_drop (found : Scan) : found.drop.frame = found.frame := rfl

@[simp] theorem emit_followedBy (collected : Bytes) (first second : Scan) :
    (first.emit collected).followedBy second = (first.followedBy second).emit collected := by
  unfold emit
  split <;> rfl

@[simp] theorem drop_followedBy (first second : Scan) :
    first.drop.followedBy second = (first.followedBy second).drop := by
  simp only [drop, followedBy, Nat.add_right_comm]

end Scan

/-- The frames among some tokens, from the content of a frame that is open before them. Outside
a frame everything is discarded up to a start marker. Inside, an end marker closes the frame,
and every other token adds its byte, unless the frame would exceed the limit. -/
def scan (limit : Nat) : Option Bytes → List Token → Scan
  | frame, [] => ⟨[], 0, frame⟩
  | none, token :: rest =>
    if token = .raw startMarker then scan limit (some []) rest else scan limit none rest
  | some collected, token :: rest =>
    if token = .raw endMarker then (scan limit none rest).emit collected
    else if (collected ++ [token.byte]).length > limit then (scan limit none rest).drop
    else scan limit (some (collected ++ [token.byte])) rest

variable {limit : Nat} {frame : Option Bytes}

@[simp] theorem scan_nil : scan limit frame [] = ⟨[], 0, frame⟩ := by
  cases frame <;> rfl

/-- Tokens may be cut anywhere. -/
theorem scan_append (frame : Option Bytes) (first second : List Token) :
    scan limit frame (first ++ second) =
      (scan limit frame first).followedBy
        (scan limit (scan limit frame first).frame second) := by
  fun_induction scan limit frame first with
  | case1 frame => simp [Scan.followedBy]
  | case2 rest inductionHypothesis =>
    rw [List.cons_append, scan, if_pos rfl, inductionHypothesis]
  | case3 token rest other inductionHypothesis =>
    rw [List.cons_append, scan, if_neg other, inductionHypothesis]
  | case4 collected rest inductionHypothesis =>
    rw [List.cons_append, scan, if_pos rfl, inductionHypothesis, Scan.frame_emit,
      Scan.emit_followedBy]
  | case5 collected token rest other exceeds inductionHypothesis =>
    rw [List.cons_append, scan, if_neg other, if_pos exceeds, inductionHypothesis,
      Scan.frame_drop, Scan.drop_followedBy]
  | case6 collected token rest other fits inductionHypothesis =>
    rw [List.cons_append, scan, if_neg other, if_neg fits, inductionHypothesis]

/-- The size of the content of an open frame. -/
def openSize (frame : Option Bytes) : Nat := (frame.getD []).length

/-- Every payload has a byte and is within the limit, and so is the content of a frame that
is still open. -/
theorem scan_within (within : openSize frame ≤ limit) (tokens : List Token) :
    (∀ payload ∈ (scan limit frame tokens).payloads,
        1 ≤ payload.length ∧ payload.length ≤ limit) ∧
      openSize (scan limit frame tokens).frame ≤ limit := by
  fun_induction scan limit frame tokens with
  | case1 frame => exact ⟨by simp, within⟩
  | case2 rest inductionHypothesis => exact inductionHypothesis (Nat.zero_le limit)
  | case3 token rest other inductionHypothesis => exact inductionHypothesis (Nat.zero_le limit)
  | case4 collected rest inductionHypothesis =>
    obtain ⟨payloads, stillOpen⟩ := inductionHypothesis (Nat.zero_le limit)
    refine ⟨?_, by rwa [Scan.frame_emit]⟩
    intro payload member
    by_cases empty : collected = []
    · rw [Scan.emit, if_pos empty] at member
      exact payloads payload member
    · rw [Scan.emit, if_neg empty] at member
      rcases List.mem_cons.mp member with rfl | member
      · exact ⟨List.length_pos_iff.mpr empty, within⟩
      · exact payloads payload member
  | case5 collected token rest other exceeds inductionHypothesis =>
    exact inductionHypothesis (Nat.zero_le limit)
  | case6 collected token rest other fits inductionHypothesis =>
    exact inductionHypothesis (Nat.not_lt.mp fits)

end Frame

/-- The phase with some content of an open frame, behind an escape marker or not. -/
def DecoderPhase.ofFrame : Option Bytes → Bool → DecoderPhase
  | none, false => .idle
  | none, true => .idleEscaped
  | some collected, false => .inside collected.toArray
  | some collected, true => .insideEscaped collected.toArray

/-- Every phase is given by the content of an open frame and an escape marker. -/
theorem DecoderPhase.exists_eq_ofFrame (phase : DecoderPhase) :
    ∃ frame escaped, phase = ofFrame frame escaped := by
  cases phase with
  | idle => exact ⟨none, false, rfl⟩
  | idleEscaped => exact ⟨none, true, rfl⟩
  | inside collected => exact ⟨some collected.toList, false, rfl⟩
  | insideEscaped collected => exact ⟨some collected.toList, true, rfl⟩

namespace FrameDecoder

open OpticalLink.Frame (Token tokenize endsEscaped scan escapeMarker)

variable (limit oversized : Nat) (frame : Option Bytes)

/-- Behind an escape marker, a decoder goes on as if the marker came now. -/
theorem feed_escapeMarker_cons (rest : Bytes) :
    feed ⟨limit, .ofFrame frame false, oversized⟩ (escapeMarker :: rest) =
      feed ⟨limit, .ofFrame frame true, oversized⟩ rest := by
  have marked : step ⟨limit, .ofFrame frame false, oversized⟩ escapeMarker =
      (⟨limit, .ofFrame frame true, oversized⟩, none) := by
    cases frame <;> rfl
  rw [feed_cons, marked]
  rfl

/-- Inside a frame, a byte that is taken in adds to the content or drops the frame. -/
theorem append_eq_scan (collected : Bytes) {token : Token}
    (content : token ≠ .raw Frame.endMarker) :
    let found := scan limit (some collected) [token]
    append limit oversized collected.toArray token.byte =
        ⟨limit, .ofFrame found.frame false, oversized + found.oversized⟩ ∧
      found.payloads = [] := by
  intro found
  by_cases exceeds : collected.length + 1 > limit
  · have found_eq : found = ⟨[], 1, none⟩ := by
      simp [found, scan, content, exceeds, Frame.Scan.drop]
    rw [found_eq]
    simp [append, exceeds, DecoderPhase.ofFrame]
  · have found_eq : found = ⟨[], 0, some (collected ++ [token.byte])⟩ := by
      simp [found, scan, content, exceeds]
    rw [found_eq]
    simp [append, exceeds, DecoderPhase.ofFrame]

/-- Inside a frame, an end marker closes it. -/
theorem feed_endMarker (collected : Bytes) :
    let found := scan limit (some collected) [.raw Frame.endMarker]
    feed ⟨limit, .ofFrame (some collected) false, oversized⟩ [Frame.endMarker] =
      (⟨limit, .ofFrame found.frame false, oversized + found.oversized⟩, found.payloads) := by
  intro found
  have plain : Frame.endMarker ≠ escapeMarker := by decide
  by_cases empty : collected = []
  · simp [found, scan, feed_singleton, step, DecoderPhase.ofFrame, plain, empty, Frame.Scan.emit]
  · simp [found, scan, feed_singleton, step, DecoderPhase.ofFrame, plain, empty, Frame.Scan.emit]

/-- A token makes of an open frame what the scan makes of it. -/
theorem feed_token {token : Token} (readable : token ≠ .raw escapeMarker) :
    let found := scan limit frame [token]
    feed ⟨limit, .ofFrame frame false, oversized⟩ token.wire =
      (⟨limit, .ofFrame found.frame false, oversized + found.oversized⟩, found.payloads) := by
  intro found
  cases frame with
  | none =>
    cases token with
    | raw byte =>
      have plain : byte ≠ escapeMarker := by simpa using readable
      by_cases starts : byte = Frame.startMarker
      · simp [found, scan, Token.wire, feed_singleton, step, DecoderPhase.ofFrame, starts]
      · simp [found, scan, Token.wire, feed_singleton, step, DecoderPhase.ofFrame, starts, plain]
    | literal byte => rfl
  | some collected =>
    by_cases ends : token = .raw Frame.endMarker
    · subst ends
      exact feed_endMarker limit oversized collected
    · obtain ⟨taken, nothing⟩ := append_eq_scan limit oversized collected ends
      have fed : feed ⟨limit, .ofFrame (some collected) false, oversized⟩ token.wire =
          (append limit oversized collected.toArray token.byte, []) := by
        cases token with
        | raw byte =>
          have plain : byte ≠ escapeMarker := by simpa using readable
          have other : byte ≠ Frame.endMarker := by simpa using ends
          simp [Token.wire, Token.byte, feed_singleton, step, DecoderPhase.ofFrame, plain, other]
        | literal byte => rfl
      rw [fed, taken, nothing]

/-- Tokens make of an open frame what the scan makes of them. -/
theorem feed_tokens {tokens : List Token} (readable : ∀ token ∈ tokens, token ≠ .raw escapeMarker) :
    let found := scan limit frame tokens
    feed ⟨limit, .ofFrame frame false, oversized⟩ (tokens.flatMap Token.wire) =
      (⟨limit, .ofFrame found.frame false, oversized + found.oversized⟩, found.payloads) := by
  induction tokens generalizing frame oversized with
  | nil => simp
  | cons token rest inductionHypothesis =>
    have first := feed_token limit oversized frame (readable token List.mem_cons_self)
    have others : ∀ other ∈ rest, other ≠ .raw escapeMarker :=
      fun other member => readable other (List.mem_cons_of_mem token member)
    have split : scan limit frame (token :: rest) = _ := Frame.scan_append frame [token] rest
    rw [List.flatMap_cons, feed_append, first, inductionHypothesis _ _ others, split]
    simp only [Frame.Scan.followedBy, Nat.add_assoc]

/-- A stream makes of an open frame what the scan makes of its tokens. -/
theorem feed_eq_scan (bytes : Bytes) :
    let found := scan limit frame (tokenize bytes)
    feed ⟨limit, .ofFrame frame false, oversized⟩ bytes =
      (⟨limit, .ofFrame found.frame (endsEscaped bytes), oversized + found.oversized⟩,
        found.payloads) := by
  intro found
  have readable : ∀ token ∈ tokenize bytes, token ≠ .raw escapeMarker :=
    fun token member => Frame.ne_escape_of_mem_tokenize member
  have tokens := feed_tokens limit oversized frame readable
  have whole := Frame.flatMap_wire_tokenize bytes
  by_cases escaped : endsEscaped bytes = true
  · rw [if_pos escaped] at whole
    rw [← whole, feed_append, tokens, feed_escapeMarker_cons, whole, escaped]
    simp [found]
  · rw [if_neg escaped, List.append_nil] at whole
    rw [whole] at tokens
    rw [tokens, Bool.eq_false_iff.mpr escaped]

/-- What the decoder has collected of the frame that is under way. -/
def buffered (decoder : FrameDecoder) : Array UInt8 :=
  match decoder.phase with
  | .idle | .idleEscaped => #[]
  | .inside collected | .insideEscaped collected => collected

/-- What arrives at a decoder at once. -/
inductive Push where
  | single (byte : UInt8)
  | buffer (bytes : Bytes)
deriving DecidableEq, Repr

/-- The bytes of a push. -/
def Push.bytes : Push → Bytes
  | .single byte => [byte]
  | .buffer bytes => bytes

/-- The decoder after a push, with the payloads completed in it. -/
def push (decoder : FrameDecoder) : Push → FrameDecoder × List Bytes
  | .single byte => ((decoder.step byte).1, (decoder.step byte).2.toList)
  | .buffer bytes => decoder.feed bytes

/-- The decoder after some pushes, with the payloads completed in them. -/
def pushAll (decoder : FrameDecoder) : List Push → FrameDecoder × List Bytes
  | [] => (decoder, [])
  | arrival :: rest =>
    (((decoder.push arrival).1.pushAll rest).1,
      (decoder.push arrival).2 ++ ((decoder.push arrival).1.pushAll rest).2)

/-- However its bytes arrive, a stream is a stream. -/
theorem pushAll_eq_feed (decoder : FrameDecoder) (pushes : List Push) :
    decoder.pushAll pushes = decoder.feed (pushes.flatMap Push.bytes) := by
  induction pushes generalizing decoder with
  | nil => rfl
  | cons arrival rest inductionHypothesis =>
    have first : decoder.push arrival = decoder.feed arrival.bytes := by
      cases arrival with
      | single byte => exact (feed_singleton decoder byte).symm
      | buffer bytes => rfl
    rw [pushAll, first, inductionHypothesis, List.flatMap_cons, feed_append]

/-- A decoder is between frames exactly when no frame is open. -/
theorem isIdle_ofFrame (escaped : Bool) :
    isIdle ⟨limit, .ofFrame frame escaped, oversized⟩ = frame.isNone := by
  cases frame <;> cases escaped <;> rfl

/-- A decoder holds the content of the frame that is open. -/
theorem size_buffered_ofFrame (escaped : Bool) :
    (buffered ⟨limit, .ofFrame frame escaped, oversized⟩).size = Frame.openSize frame := by
  cases frame <;> cases escaped <;> rfl

/-- A new decoder finds the frames among the tokens of its stream, however the stream arrives.
No payload is empty or exceeds the limit, nor does the decoder ever hold more than that. -/
theorem pushAll_eq_scan (limit : Nat) (pushes : List Push) :
    let found := scan limit none (tokenize (pushes.flatMap Push.bytes))
    let result := (withLimit limit).pushAll pushes
    result.2 = found.payloads ∧ result.1.oversized = found.oversized ∧
      result.1.isIdle = found.frame.isNone ∧
      (∀ payload ∈ result.2, 1 ≤ payload.length ∧ payload.length ≤ limit) ∧
      result.1.buffered.size ≤ limit := by
  intro found result
  have result_eq : result = (⟨limit, .ofFrame found.frame
      (endsEscaped (pushes.flatMap Push.bytes)), 0 + found.oversized⟩, found.payloads) :=
    (pushAll_eq_feed _ pushes).trans (feed_eq_scan limit 0 none _)
  have nothingOpen : Frame.openSize none ≤ limit := Nat.zero_le limit
  obtain ⟨payloads, size⟩ :=
    Frame.scan_within nothingOpen (tokenize (pushes.flatMap Push.bytes))
  rw [result_eq]
  refine ⟨rfl, Nat.zero_add _, isIdle_ofFrame _ _ _ _, payloads, ?_⟩
  rwa [size_buffered_ofFrame]

/-- An escape marker and its byte arrive apart, twice. The first pair ends a frame that holds
both outer markers; the second is one byte too many and drops the frame. -/
theorem pushAll_eq_scan_parted_escapes :
    let pushes : List Push := [.buffer [0xF3, 0xF1, 0x10, 0xF1, 0xF1, 0xF3], .single 0xF2,
      .buffer [0xF2, 0xF1, 1, 2, 0xF3], .single 0xF1, .buffer [7, 0xF2, 0xF1, 0xF2]]
    let result := (withLimit 2).pushAll pushes
    result.2 = [[0xF1, 0xF2]] ∧ result.1.oversized = 1 ∧ result.1.isIdle = true ∧
      (1 ≤ [0xF1, 0xF2].length ∧ [0xF1, 0xF2].length ≤ 2) := by
  intro pushes result
  have found_eq : scan 2 none (tokenize (pushes.flatMap Push.bytes)) =
      ⟨[[0xF1, 0xF2]], 1, none⟩ := by
    decide
  obtain ⟨payloads, dropped, idle, within, _⟩ := pushAll_eq_scan 2 pushes
  rw [found_eq] at payloads dropped idle
  have member : [0xF1, 0xF2] ∈ result.2 := by
    rw [payloads]
    exact List.mem_singleton.mpr rfl
  exact ⟨payloads, dropped, idle, within _ member⟩

end FrameDecoder

end OpticalLink
