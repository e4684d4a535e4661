import Mathlib.Data.List.Forall2
import OpticalLink.Console.HexInput

/-!
# Texts that write bytes

A byte string has many texts as hexadecimal input: its digits may be in lower or upper case, blanks
may stand anywhere, and the mark `0x` may stand in front, itself with blanks in it.
`Console.WritesHex` are all these texts, and `Console.hexInput_of_writesHex` says that each of them
is read as the bytes.
-/

namespace OpticalLink

/-! ## Blanks anywhere -/

/-- Characters with blanks put in anywhere among them. -/
inductive Text.Spaced : List Char → List Char → Prop where
  | nil : Spaced [] []
  | keep (character : Char) {characters spaced : List Char} (rest : Spaced characters spaced) :
      Spaced (character :: characters) (character :: spaced)
  | blank {blank : Char} (is : isBlank blank = true) {characters spaced : List Char}
      (rest : Spaced characters spaced) : Spaced characters (blank :: spaced)

/-- Without the blanks, the characters are left as they were. -/
theorem Text.Spaced.withoutBlanks_eq {characters spaced : List Char}
    (blanks : Spaced characters spaced)
    (solid : ∀ character ∈ characters, isBlank character = false) :
    withoutBlanks spaced = characters := by
  induction blanks with
  | nil => rfl
  | keep character _ inductionHypothesis =>
    obtain ⟨first, others⟩ := List.forall_mem_cons.mp solid
    rw [withoutBlanks, List.filter_cons_of_pos (by rw [first]; rfl), ← withoutBlanks,
      inductionHypothesis others]
  | blank is _ inductionHypothesis =>
    rw [withoutBlanks, List.filter_cons_of_neg (by rw [is]; exact nofun), ← withoutBlanks,
      inductionHypothesis solid]

/-- Characters without any blank put in. -/
theorem Text.Spaced.refl (characters : List Char) : Spaced characters characters := by
  induction characters with
  | nil => exact .nil
  | cons character _ inductionHypothesis => exact .keep character inductionHypothesis

/-- All characters are those that are not blank, with the blanks put in. -/
theorem Text.spaced_withoutBlanks (characters : List Char) :
    Spaced (withoutBlanks characters) characters := by
  induction characters with
  | nil => exact .nil
  | cons character _ inductionHypothesis =>
    by_cases is : isBlank character = true
    · rw [withoutBlanks, List.filter_cons_of_neg (by rw [is]; exact nofun)]
      exact .blank is inductionHypothesis
    · rw [withoutBlanks, List.filter_cons_of_pos (by simpa using is)]
      exact .keep character inductionHypothesis

/-! ## Digits of either case -/

namespace Hex

/-- A digit as it is printed, or in upper case. -/
def SameDigit (printed character : Char) : Prop := character = printed ∨ character = printed.toUpper

instance (printed character : Char) : Decidable (SameDigit printed character) :=
  inferInstanceAs (Decidable (_ ∨ _))

/-- The digits of a byte string, each in lower or upper case. -/
def Spells (digits : List Char) (bytes : Bytes) : Prop :=
  List.Forall₂ SameDigit (encode bytes).toList digits

instance (digits : List Char) (bytes : Bytes) : Decidable (Spells digits bytes) :=
  decidable_of_iff ((encode bytes).toList.length = digits.length ∧
      ((encode bytes).toList.zip digits).all (fun pair => SameDigit pair.1 pair.2) = true) (by
    simp only [Spells, List.forall₂_iff_zip, List.all_eq_true, Prod.forall, decide_eq_true_eq])

/-- Printed digits spell what they are printed for. -/
theorem spells_encode (bytes : Bytes) : Spells (encode bytes).toList bytes :=
  List.forall₂_same.mpr fun _ _ => .inl rfl

/-- A character that is read as the digit of some value, and that cannot be taken for a blank or for
a part of a mark. -/
@[mk_iff]
structure Denotes (character : Char) (value : UInt8) : Prop where
  encoded : String.utf8EncodeChar character = [character.val.toUInt8]
  value_eq : digitValue? character.val.toUInt8 = some value
  isBlank_eq : Text.isBlank character = false
  ne_mark : character ≠ 'x'

instance (character : Char) (value : UInt8) : Decidable (Denotes character value) :=
  decidable_of_iff' _ (denotes_iff character value)

/-- Digits are read in both cases. -/
theorem denotes_digitChar {value : UInt8} (small : value.toNat < 16) {character : Char}
    (same : SameDigit (digitChar value) character) : Denotes character value := by
  -- There are sixteen values, and each has at most two digits.
  have table : ∀ number < 16, Denotes (digitChar (.ofNat number)) (.ofNat number) ∧
      Denotes (digitChar (.ofNat number)).toUpper (.ofNat number) := by
    decide
  obtain ⟨lower, upper⟩ := table value.toNat small
  rw [UInt8.ofNat_toNat] at lower upper
  rcases same with rfl | rfl
  · exact lower
  · exact upper

/-- A spelling has two digits for each byte, high half first. -/
theorem Spells.cons_cases {digits : List Char} {byte : UInt8} {bytes : Bytes}
    (spells : Spells digits (byte :: bytes)) :
    ∃ high low rest, digits = high :: low :: rest ∧ Denotes high (byte / 16) ∧
      Denotes low (byte % 16) ∧ Spells rest bytes := by
  have printed : (encode (byte :: bytes)).toList =
      digitChar (byte / 16) :: digitChar (byte % 16) :: (encode bytes).toList := by
    simp only [encode, List.flatMap_cons, Hex.digits, List.cons_append, List.nil_append,
      String.toList_ofList]
  rw [Spells, printed] at spells
  obtain ⟨high, _, sameHigh, behind, rfl⟩ := List.forall₂_cons_left_iff.mp spells
  obtain ⟨low, rest, sameLow, others, rfl⟩ := List.forall₂_cons_left_iff.mp behind
  have bound := byte.toNat_lt
  have highSmall : (byte / 16).toNat < 16 := by
    rw [UInt8.toNat_div]
    exact Nat.div_lt_of_lt_mul bound
  have lowSmall : (byte % 16).toNat < 16 := by
    rw [UInt8.toNat_mod]
    exact Nat.mod_lt _ (by decide)
  exact ⟨high, low, rest, rfl, denotes_digitChar highSmall sameHigh,
    denotes_digitChar lowSmall sameLow, others⟩

/-- Every character of a spelling is a digit. -/
theorem Spells.exists_denotes {digits : List Char} {bytes : Bytes} (spells : Spells digits bytes) :
    ∀ character ∈ digits, ∃ value, Denotes character value := by
  induction bytes generalizing digits with
  | nil =>
    cases spells
    exact nofun
  | cons byte bytes inductionHypothesis =>
    obtain ⟨high, low, rest, rfl, isHigh, isLow, others⟩ := spells.cons_cases
    exact List.forall_mem_cons.mpr ⟨⟨_, isHigh⟩,
      List.forall_mem_cons.mpr ⟨⟨_, isLow⟩, inductionHypothesis others⟩⟩

/-- A byte is put together from its halves. -/
theorem div_mul_add_mod (byte : UInt8) : byte / 16 * 16 + byte % 16 = byte := by
  apply UInt8.toNat_inj.mp
  have bound := byte.toNat_lt
  simp only [UInt8.toNat_add, UInt8.toNat_mul, UInt8.toNat_div, UInt8.toNat_mod, UInt8.reduceToNat]
  omega

/-- Pair by pair, a spelling is read as its bytes. -/
theorem decodePairs_of_spells {digits : List Char} {bytes : Bytes} (spells : Spells digits bytes)
    (collected : Array UInt8) (position : Nat) :
    decodePairs collected position (digits.flatMap String.utf8EncodeChar) =
      .ok (collected.toList ++ bytes) := by
  induction bytes generalizing digits collected position with
  | nil =>
    cases spells
    rw [List.append_nil]
    rfl
  | cons byte bytes inductionHypothesis =>
    obtain ⟨high, low, rest, rfl, isHigh, isLow, others⟩ := spells.cons_cases
    have read := inductionHypothesis others (collected.push byte) (position + 2)
    simp only [List.flatMap_cons, isHigh.encoded, isLow.encoded, List.cons_append,
      List.nil_append, decodePairs, isHigh.value_eq, isLow.value_eq, div_mul_add_mod]
    rw [read, Array.toList_push, List.append_assoc, List.singleton_append]

/-- A spelling has an even number of bytes. -/
theorem length_of_spells {digits : List Char} {bytes : Bytes} (spells : Spells digits bytes) :
    (digits.flatMap String.utf8EncodeChar).length = 2 * bytes.length := by
  induction bytes generalizing digits with
  | nil =>
    cases spells
    rfl
  | cons byte bytes inductionHypothesis =>
    obtain ⟨high, low, rest, rfl, isHigh, isLow, others⟩ := spells.cons_cases
    have length_eq := inductionHypothesis others
    simp only [List.flatMap_cons, isHigh.encoded, isLow.encoded, List.cons_append,
      List.nil_append, List.length_cons, length_eq]
    omega

/-- A spelling is read as the bytes that it spells. -/
theorem decode_of_spells {digits : List Char} {bytes : Bytes} (spells : Spells digits bytes) :
    decode (Bytes.ofText (String.ofList digits)) = .ok bytes := by
  have text_eq : Bytes.ofText (String.ofList digits) = digits.flatMap String.utf8EncodeChar := by
    simp [Bytes.ofText, List.utf8Encode]
  have even : (digits.flatMap String.utf8EncodeChar).length % 2 = 0 := by
    rw [length_of_spells spells]
    exact Nat.mul_mod_right 2 _
  rw [decode, text_eq, if_pos even, decodePairs_of_spells spells]
  rfl

end Hex

/-! ## Hexadecimal input -/

namespace Console

/-- The texts that write some bytes: their digits in any mix of letter case, with or without a mark
in front, and blanks anywhere. -/
def WritesHex (text : String) (bytes : Bytes) : Prop :=
  ∃ digits, Hex.Spells digits bytes ∧
    (Text.Spaced digits text.toList ∨ Text.Spaced ('0' :: 'x' :: digits) text.toList)

/-- What is printed for some bytes writes them. -/
theorem writesHex_encode (bytes : Bytes) : WritesHex (Hex.encode bytes) bytes :=
  ⟨_, Hex.spells_encode bytes, .inl (.refl _)⟩

/-- There is a mark in front, or nothing to take off. -/
theorem withoutMark_cases (characters : List Char) :
    characters = '0' :: 'x' :: withoutMark characters ∨ characters = withoutMark characters := by
  unfold withoutMark
  split
  · exact .inl rfl
  · exact .inr rfl

/-- Where there is no `x`, there is no mark. -/
theorem withoutMark_of_not_mem {characters : List Char} (missing : 'x' ∉ characters) :
    withoutMark characters = characters := by
  rcases withoutMark_cases characters with marked | same
  · rw [marked] at missing
    simp at missing
  · exact same.symm

/-- Without its blanks and its mark, a text is the digits of what it writes. -/
theorem writesHex_iff {text : String} {bytes : Bytes} :
    WritesHex text bytes ↔ Hex.Spells (withoutMark (Text.withoutBlanks text.toList)) bytes := by
  constructor
  · rintro ⟨digits, spells, spaced⟩
    -- Digits are neither blanks nor `x`, so nothing of them is taken for a blank or a mark.
    have solid : ∀ character ∈ digits, Text.isBlank character = false := by
      intro character member
      obtain ⟨value, denotes⟩ := spells.exists_denotes character member
      exact denotes.isBlank_eq
    have noMark : 'x' ∉ digits := by
      intro member
      obtain ⟨value, denotes⟩ := spells.exists_denotes 'x' member
      exact denotes.ne_mark rfl
    rcases spaced with plain | marked
    · rw [plain.withoutBlanks_eq solid, withoutMark_of_not_mem noMark]
      exact spells
    · have markSolid : ∀ character ∈ '0' :: 'x' :: digits, Text.isBlank character = false :=
        List.forall_mem_cons.mpr ⟨by decide, List.forall_mem_cons.mpr ⟨by decide, solid⟩⟩
      rw [marked.withoutBlanks_eq markSolid]
      exact spells
  · intro spells
    have spaced := Text.spaced_withoutBlanks text.toList
    refine ⟨_, spells, ?_⟩
    rcases withoutMark_cases (Text.withoutBlanks text.toList) with marked | plain
    · rw [marked] at spaced
      exact .inr spaced
    · rw [plain] at spaced
      exact .inl spaced

instance (text : String) (bytes : Bytes) : Decidable (WritesHex text bytes) :=
  decidable_of_iff' _ writesHex_iff

/-- A text is read as the bytes that it writes. -/
theorem hexInput_of_writesHex {text : String} {bytes : Bytes} (writes : WritesHex text bytes) :
    hexInput text = .ok bytes := by
  have spells := writesHex_iff.mp writes
  rw [hexInput, Hex.decode_of_spells spells]
  rfl

end Console

end OpticalLink
