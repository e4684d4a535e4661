import OpticalLink.Console.Program
import OpticalLink.Proofs.Console.HexText
import OpticalLink.Proofs.Console.Reports
import OpticalLink.Proofs.Link.Requests

/-!
# Encoding and decoding on the command line

Decoding looks for messages either in the bytes themselves or in the frames among them, and the code
that it ends with depends on what it found and on the counters. `Console.Decodes` is a whole use of
the command: what is found in a text, what is shown of it in each format, and the code.

`Console.decodes_encoded` says that decoding undoes encoding, however the printed frame is written
down, and `Console.decodes_payload_iff_decodes_frame` that a payload fares in a frame as it does by
itself.
-/

namespace OpticalLink.Console

/-! ## Decoding -/

/-- Decoding a text in one of its ways finds messages, prints them with the counters, and ends with
a code, whether the text is an argument or comes in from outside. -/
structure Decodes (payload : Bool) (text : String) (messages : List Message) (stats : FrameStats)
    (code : Nat) : Prop where
  found : (do decodeBytes payload (← hexInput text)) = .ok (messages, stats)
  outcome : ∀ (surroundings : Surroundings) (common : CommonOptions) (hex : Option String),
    decodeText surroundings.input hex = .ok text →
      ∃ report complaint, perform surroundings ⟨common, .decode ⟨hex, payload⟩⟩ =
          ⟨code, Bytes.ofText report, complaint⟩ ∧
        ShowsMessages messages stats (common.format.getD defaultFormat) report

section

variable {payload : Bool} {text : String} {bytes : Bytes} {messages : List Message}
  {stats : FrameStats}

/-- What is found in some bytes is printed for every text that writes them, and settles the code. -/
theorem decodes_of_decodeBytes (writes : WritesHex text bytes)
    (found : decodeBytes payload bytes = .ok (messages, stats)) :
    Decodes payload text messages stats
      ((decodeFailure? messages stats).elim ExitCode.success Failure.code) where
  found := by
    rw [hexInput_of_writesHex writes]
    exact found
  outcome surroundings common hex given := by
    have shows := showsMessages_decodedReport messages stats (common.format.getD defaultFormat)
    simp only [perform, decode, given, hexInput_of_writesHex writes, bind, Except.bind, found]
    cases decodeFailure? messages stats with
    | none => exact ⟨_, none, rfl, shows⟩
    | some failure => exact ⟨_, some failure.message, rfl, shows⟩

/-- Decoding that finds a message ends well. -/
theorem decodes_of_found (writes : WritesHex text bytes)
    (found : decodeBytes payload bytes = .ok (messages, stats)) (some : messages ≠ []) :
    Decodes payload text messages stats 0 := by
  have decodes := decodes_of_decodeBytes writes found
  have well : decodeFailure? messages stats = none := by simp [decodeFailure?, some]
  rw [well] at decodes
  exact decodes

/-- What a text decodes to is what is found in the bytes that it writes. -/
theorem decodes_iff (writes : WritesHex text bytes) (some : messages ≠ []) :
    Decodes payload text messages stats 0 ↔ decodeBytes payload bytes = .ok (messages, stats) := by
  constructor
  · intro decodes
    have found := decodes.found
    rw [hexInput_of_writesHex writes] at found
    exact found
  · intro found
    exact decodes_of_found writes found some

/-- Decoding that finds frames, but no message, fails. -/
theorem decodes_of_rejected (writes : WritesHex text bytes)
    (found : decodeBytes payload bytes = .ok ([], stats)) (rejected : 0 < stats.rejected) :
    Decodes payload text [] stats 60 := by
  have decodes := decodes_of_decodeBytes writes found
  rw [decodeFailure?, if_pos ⟨rfl, .inl rejected⟩] at decodes
  exact decodes

/-- Decoding that fails before anything is found prints nothing. -/
theorem perform_decode_of_error (writes : WritesHex text bytes) {failure : Failure}
    (fails : decodeBytes payload bytes = .error failure) (surroundings : Surroundings)
    (common : CommonOptions) {hex : Option String}
    (given : decodeText surroundings.input hex = .ok text) :
    perform surroundings ⟨common, .decode ⟨hex, payload⟩⟩ = .failed [] failure := by
  simp only [perform, decode, given, hexInput_of_writesHex writes, bind, Except.bind, fails]

end

/-- The counters after one payload that is no message, and nothing else. -/
def oneRejected : FrameStats where
  delivered := 0
  oversized := 0
  rejected := 1

section

variable {payload : Bytes} {message : Message}

/-- A message is found in its bytes. -/
theorem decodeBytes_of_parse (accepted : Message.parse payload = .ok message) :
    decodeBytes true payload = .ok ([message], payloadStats) := by
  simp only [decodeBytes, accepted, if_true]

/-- In other bytes, none is found. -/
theorem decodeBytes_of_parse_error {error : MessageError}
    (refused : Message.parse payload = .error error) :
    decodeBytes true payload = .error ⟨60, "invalid payload: " ++ error.text⟩ := by
  simp only [decodeBytes, refused, if_true]
  rfl

/-- In a frame, the messages are found that its payload is. -/
theorem decodeBytes_wrap (nonempty : payload ≠ []) (fits : payload.length ≤ Frame.maxLength) :
    decodeBytes false (Frame.wrap payload) = .ok (messagesAmong [payload], {
      delivered := (messagesAmong [payload]).length
      oversized := 0
      rejected := refusedAmong [payload] }) := by
  have fed : (FrameDecoder.withLimit Frame.maxLength).feed (Frame.wrap payload) =
      (.withLimit Frame.maxLength, [payload]) :=
    FrameDecoder.feed_wrap nonempty fits
  simp only [decodeBytes, Receiver.feed_eq, Receiver.withLimit, fed, Receiver.stats,
    Bool.false_eq_true, if_false, Nat.zero_add]
  rfl

/-- A message is found in its frame. -/
theorem decodeBytes_wrap_of_parse (nonempty : payload ≠ [])
    (fits : payload.length ≤ Frame.maxLength) (accepted : Message.parse payload = .ok message) :
    decodeBytes false (Frame.wrap payload) = .ok ([message], payloadStats) := by
  rw [decodeBytes_wrap nonempty fits]
  simp [messagesAmong, refusedAmong, accepted, Except.toOption, payloadStats]

/-- In a frame around other bytes, none is found, and the frame is counted. -/
theorem decodeBytes_wrap_of_parse_error (nonempty : payload ≠ [])
    (fits : payload.length ≤ Frame.maxLength) {error : MessageError}
    (refused : Message.parse payload = .error error) :
    decodeBytes false (Frame.wrap payload) = .ok ([], oneRejected) := by
  rw [decodeBytes_wrap nonempty fits]
  simp [messagesAmong, refusedAmong, refused, Except.toOption, oneRejected]

end

/-! ## Requests -/

/-- A position as it stands on the command line. -/
def arguments (position : Position) : List Int32 := [position.x, position.y, position.z]

section

variable {command : Command} {position : Option (List Int32)} {power : Option UInt16}
  {message : Message}

end

/-- A message in some bytes is found in them and in the frame around them alike, with the same
counters. If there is none, both ways of decoding fail with the same code: the one prints nothing,
and the other prints that there was one frame and no message. -/
theorem decodes_payload_iff_decodes_frame {payload frame : Bytes} (nonempty : payload ≠ [])
    (framed : Frame.encode payload Frame.maxLength = .ok frame) {bare wrapped : String}
    (bareWrites : WritesHex bare payload) (wrappedWrites : WritesHex wrapped frame) :
    (∀ message stats, Decodes true bare [message] stats 0 ↔
      Message.parse payload = .ok message ∧
        stats = { delivered := 1, oversized := 0, rejected := 0 }) ∧
    (∀ message stats, Decodes true bare [message] stats 0 ↔
      Decodes false wrapped [message] stats 0) ∧
    ((¬ ∃ message stats, Decodes true bare [message] stats 0) →
      (∀ (surroundings : Surroundings) (common : CommonOptions) (hex : Option String),
        decodeText surroundings.input hex = .ok bare →
        ∃ complaint, perform surroundings ⟨common, .decode ⟨hex, true⟩⟩ = ⟨60, [], complaint⟩) ∧
      Decodes false wrapped [] { delivered := 0, oversized := 0, rejected := 1 } 60) := by
  have fits := Frame.length_le_of_encode_eq_ok framed
  obtain ⟨-, rfl⟩ := Frame.encode_eq_ok_iff.mp framed
  have bare_iff (message : Message) (stats : FrameStats) :
      Decodes true bare [message] stats 0 ↔
        decodeBytes true payload = .ok ([message], stats) :=
    decodes_iff bareWrites (List.cons_ne_nil _ _)
  have wrapped_iff (message : Message) (stats : FrameStats) :
      Decodes false wrapped [message] stats 0 ↔
        decodeBytes false (Frame.wrap payload) = .ok ([message], stats) :=
    decodes_iff wrappedWrites (List.cons_ne_nil _ _)
  simp only [bare_iff, wrapped_iff]
  -- Both ways come down to reading the same payload.
  cases parsed : Message.parse payload with
  | ok accepted =>
    have direct := decodeBytes_of_parse parsed
    have inFrame := decodeBytes_wrap_of_parse nonempty fits parsed
    rw [direct, inFrame]
    refine ⟨fun message stats => ?_, fun _ _ => Iff.rfl, fun none => ?_⟩
    · simp [payloadStats, eq_comm]
    · exact absurd ⟨accepted, payloadStats, rfl⟩ none
  | error refused =>
    have direct := decodeBytes_of_parse_error parsed
    have inFrame := decodeBytes_wrap_of_parse_error nonempty fits parsed
    rw [direct, inFrame]
    refine ⟨fun _ _ => ?_, fun _ _ => ?_, fun _ => ⟨fun surroundings common hex given => ?_, ?_⟩⟩
    · exact iff_of_false nofun nofun
    · exact iff_of_false nofun (by simp)
    · exact ⟨_, perform_decode_of_error bareWrites direct surroundings common given⟩
    · exact decodes_of_rejected wrappedWrites inFrame Nat.zero_lt_one

/-- A message is found in a payload that has three markers behind the message, and in the frame
around that payload. In one marker by itself, and in the frame around it, there is none. -/
theorem decodes_payload_iff_decodes_frame_markers :
    let accepted := (Message.ofCommand .homing).serialize ++ [0xF1, 0xF2, 0xF3]
    let refused : Bytes := [0xF2]
    let stats : FrameStats := { delivered := 1, oversized := 0, rejected := 0 }
    Frame.encode accepted Frame.maxLength = .ok (Frame.wrap accepted) ∧
      Decodes true (Hex.encode accepted) [.ofCommand .homing] stats 0 ∧
      Decodes false (Hex.encode (Frame.wrap accepted)) [.ofCommand .homing] stats 0 ∧
      Frame.encode refused Frame.maxLength = .ok (Frame.wrap refused) ∧
      (∀ (surroundings : Surroundings) (common : CommonOptions), ∃ complaint,
        perform surroundings ⟨common, .decode ⟨some (Hex.encode refused), true⟩⟩ =
          ⟨60, [], complaint⟩) ∧
      Decodes false (Hex.encode (Frame.wrap refused)) []
        { delivered := 0, oversized := 0, rejected := 1 } 60 := by
  intro accepted refused stats
  have acceptedFramed : Frame.encode accepted Frame.maxLength = .ok (Frame.wrap accepted) := by
    decide
  have refusedFramed : Frame.encode refused Frame.maxLength = .ok (Frame.wrap refused) := by
    decide
  obtain ⟨found_iff, same_iff, -⟩ := decodes_payload_iff_decodes_frame (by decide) acceptedFramed
    (writesHex_encode _) (writesHex_encode _)
  obtain ⟨refused_iff, -, fails⟩ := decodes_payload_iff_decodes_frame (by decide) refusedFramed
    (writesHex_encode _) (writesHex_encode _)
  have canonical : (Message.ofCommand .homing).Canonical :=
    Message.canonical_request .homing none none
  have found : Decodes true (Hex.encode accepted) [.ofCommand .homing] stats 0 :=
    (found_iff _ _).mpr ⟨Message.parse_serialize_append canonical _, rfl⟩
  have missing : ¬ ∃ message stats, Decodes true (Hex.encode refused) [message] stats 0 := by
    rintro ⟨message, stats, decodes⟩
    obtain ⟨parsed, -⟩ := (refused_iff message stats).mp decodes
    have short := (Message.parse_eq_ok_iff.mp parsed).2.length_le
    have checksum : checksumFieldSize = 7 := rfl
    have single : refused.length = 1 := rfl
    rw [message.length_serialize, Message.serializedSize] at short
    omega
  obtain ⟨bareFails, frameFails⟩ := fails missing
  exact ⟨acceptedFramed, found, (same_iff _ _).mp found, refusedFramed,
    fun surroundings common => bareFails surroundings common _ rfl, frameFails⟩

end OpticalLink.Console
