import OpticalLink.Proofs.Frame.Recovery

/-!
# Frames in buffers

The size of a frame is known before the frame is written: it follows from the payload bytes that
look like a marker. `Frame.appendTo_of_payload` says that a buffer takes in exactly so many bytes,
or none, and that what then stands between the outer markers is read in one way only. Token by token
it is the payload, and nothing in it can be taken for an outer marker.
-/

namespace OpticalLink.Frame

variable {payload buffer : Bytes} {capacity : Nat}

/-! ## Reading tokens back -/

/-- A token at the front of a stream is read whole, whatever follows it. -/
theorem tokenize_wire_append {token : Token} (readable : token ≠ .raw escapeMarker)
    (rest : Bytes) : tokenize (token.wire ++ rest) = token :: tokenize rest := by
  cases token with
  | raw byte =>
    have plain : byte ≠ escapeMarker := by simpa using readable
    cases rest <;> simp [Token.wire, tokenize, plain]
  | literal byte => simp [Token.wire, tokenize]

/-- Behind a token, a stream ends as what follows the token does. -/
theorem endsEscaped_wire_append {token : Token} (readable : token ≠ .raw escapeMarker)
    (rest : Bytes) : endsEscaped (token.wire ++ rest) = endsEscaped rest := by
  cases token with
  | raw byte =>
    have plain : byte ≠ escapeMarker := by simpa using readable
    cases rest <;> simp [Token.wire, endsEscaped, plain]
  | literal byte => simp [Token.wire, endsEscaped]

/-- Tokens are read back from a stream that is made of them, and nothing is left over. -/
theorem tokenize_flatMap_wire {tokens : List Token}
    (readable : ∀ token ∈ tokens, token ≠ .raw escapeMarker) :
    tokenize (tokens.flatMap Token.wire) = tokens ∧
      endsEscaped (tokens.flatMap Token.wire) = false := by
  induction tokens with
  | nil => exact ⟨rfl, rfl⟩
  | cons token rest inductionHypothesis =>
    have first := readable token List.mem_cons_self
    obtain ⟨read, complete⟩ := inductionHypothesis fun other member =>
      readable other (List.mem_cons_of_mem token member)
    rw [List.flatMap_cons, tokenize_wire_append first, endsEscaped_wire_append first, read]
    exact ⟨rfl, complete⟩

/-- An escaped payload is read back as the tokens of its bytes. -/
theorem tokenize_escapeAll (payload : Bytes) :
    tokenize (escapeAll payload) = payload.map Token.ofByte ∧
      endsEscaped (escapeAll payload) = false := by
  rw [escapeAll_eq]
  refine tokenize_flatMap_wire fun token member => ?_
  obtain ⟨byte, -, rfl⟩ := List.mem_map.mp member
  exact Token.ofByte_ne_raw rfl

/-! ## Sizes -/

/-- The bytes that are escaped are the three markers. -/
theorem wrappedSize_eq (payload : Bytes) :
    wrappedSize payload =
      payload.length + payload.countP (fun byte => byte ∈ [0xF1, 0xF2, 0xF3]) + 2 := by
  have marks : isMarker = fun byte => decide (byte ∈ [0xF1, 0xF2, 0xF3]) := by
    funext byte
    rw [Bool.eq_iff_iff]
    simp [isMarker, startMarker, endMarker, escapeMarker, or_assoc]
  rw [wrappedSize, marks]

/-- A frame within both limits is appended. -/
theorem appendTo_of_fits (fits : wrappedSize payload ≤ min capacity maxLength) :
    appendTo payload buffer capacity = (.ok (), buffer ++ wrap payload) := by
  rw [appendTo, encode_of_fits fits]

/-- A frame that exceeds a limit leaves the buffer as it is. -/
theorem appendTo_of_exceeds (exceeds : min capacity maxLength < wrappedSize payload) :
    appendTo payload buffer capacity =
      (.error (.tooLarge (wrappedSize payload) (min capacity maxLength)), buffer) := by
  rw [appendTo, encode_of_exceeds exceeds]

/-- A payload is framed exactly if its bytes, one more for each that looks like a marker, and the
two outer markers are within the capacity and the largest size of a frame. Then a buffer takes in
just as many bytes, from a start marker to an end marker. What stands between them has no such
marker without an escape marker before it, no escape marker without a byte behind it, and is read as
the payload. Otherwise the error names the size and the limit, and the buffer stays as it is. -/
theorem appendTo_of_payload (payload buffer : Bytes) (capacity : Nat) :
    let size := payload.length + payload.countP (fun byte => byte ∈ [0xF1, 0xF2, 0xF3]) + 2
    let limit := min capacity 131070
    let appended := appendTo payload buffer capacity
    (appended.1 = .ok () ↔ size ≤ limit) ∧
    (size ≤ limit → ∃ body, appended.2 = buffer ++ (startMarker :: body ++ [endMarker]) ∧
      (startMarker :: body ++ [endMarker]).length = size ∧
      (∀ token ∈ tokenize body, token ≠ .raw startMarker ∧ token ≠ .raw endMarker) ∧
      endsEscaped body = false ∧
      (tokenize body).map Token.byte = payload) ∧
    (limit < size → appended = (.error (.tooLarge size limit), buffer)) := by
  intro size limit appended
  have size_eq : size = wrappedSize payload := (wrappedSize_eq payload).symm
  have refused (exceeds : limit < size) :
      appended = (.error (.tooLarge size limit), buffer) := by
    rw [size_eq] at exceeds ⊢
    exact appendTo_of_exceeds exceeds
  have written (fits : size ≤ limit) : appended = (.ok (), buffer ++ wrap payload) :=
    appendTo_of_fits (size_eq ▸ fits)
  refine ⟨⟨fun success => Nat.not_lt.mp fun exceeds => ?_, fun fits => ?_⟩, fun fits => ?_, refused⟩
  · rw [refused exceeds] at success
    cases success
  · rw [written fits]
  · obtain ⟨tokens, complete⟩ := tokenize_escapeAll payload
    refine ⟨escapeAll payload, congrArg Prod.snd (written fits), ?_, fun token member => ?_,
      complete, ?_⟩
    · rw [size_eq]
      exact length_wrap payload
    · rw [tokens] at member
      obtain ⟨byte, -, rfl⟩ := List.mem_map.mp member
      exact Token.content_ofByte byte
    · rw [tokens, List.map_map]
      simp [Function.comp_def]

/-- A payload of all three markers and a plain byte takes nine bytes. There is room for them in nine
bytes, but not in eight. -/
theorem appendTo_of_payload_of_markers :
    let payload : Bytes := [0xF1, 0x41, 0xF3, 0xF2]
    (appendTo payload [0xF3] 9).1 = .ok () ∧
      appendTo payload [0xF3] 8 = (.error (.tooLarge 9 8), [0xF3]) := by
  intro payload
  obtain ⟨accepted, -⟩ := appendTo_of_payload payload [0xF3] 9
  obtain ⟨-, -, refused⟩ := appendTo_of_payload payload [0xF3] 8
  exact ⟨accepted.mpr (by decide), refused (by decide)⟩

end OpticalLink.Frame
