import Mathlib.Algebra.Group.Nat.Defs
import Mathlib.Data.List.Basic
import OpticalLink.Console.Duration
import OpticalLink.Proofs.Text.Numerals

/-!
# Texts that are durations

A duration is written as a number with a unit behind it. `Console.Quantity` is the grammar of such
texts with the number and the unit that they write, and `Console.WritesDuration` keeps those whose
number is above zero and has 64 bits. Neither says how the unit is taken off, which is the delicate
part of the reading: the units end in the same character, and nothing at all is a unit too.
`Console.quantity_iff` says that the text is parted at the right place nevertheless, because a
numeral has none of the characters of units. `Console.duration_by_grammar` says which texts are
durations and that all others are failures of usage.
-/

namespace OpticalLink.Console

/-- What is written for a unit behind a number. Seconds may go without. -/
inductive TimeUnit.Suffix : TimeUnit → List Char → Prop where
  | milliseconds : Suffix .milliseconds ['m', 's']
  | seconds : Suffix .seconds ['s']
  | unmarked : Suffix .seconds []

/-- A text that writes so many of a unit. -/
def Quantity (characters : List Char) (count : Nat) (unit : TimeUnit) : Prop :=
  ∃ digits suffix, characters = digits ++ suffix ∧ Text.NaturalNumeral digits count ∧
    unit.Suffix suffix

/-- A text that writes a length of time: a quantity whose number is above zero and has 64 bits. -/
inductive WritesDuration : List Char → Interval → Prop where
  | milliseconds {characters : List Char} {count : Nat}
      (quantity : Quantity characters count .milliseconds) (positive : 1 ≤ count)
      (fits : count ≤ 2 ^ 64 - 1) : WritesDuration characters (count * 1000)
  | seconds {characters : List Char} {count : Nat}
      (quantity : Quantity characters count .seconds) (positive : 1 ≤ count)
      (fits : count ≤ 2 ^ 64 - 1) : WritesDuration characters (count * 1000000)

/-! ## Taking off the unit -/

/-- The characters of units. -/
theorem TimeUnit.Suffix.eq_m_or_eq_s {unit : TimeUnit} {suffix : List Char}
    (behind : unit.Suffix suffix) : ∀ character ∈ suffix, character = 'm' ∨ character = 's' := by
  cases behind <;> simp

/-- The unit is found behind anything that has none of its characters. -/
theorem splitUnit_append {digits suffix : List Char} {unit : TimeUnit}
    (plain : ∀ character ∈ digits, character ≠ 'm' ∧ character ≠ 's')
    (behind : unit.Suffix suffix) : splitUnit (digits ++ suffix) = (digits, unit) := by
  -- The character in front of the unit decides, if there is one.
  rcases List.eq_nil_or_concat' digits with rfl | ⟨front, last, rfl⟩
  · cases behind <;> rfl
  · obtain ⟨notM, notS⟩ := plain last (List.mem_append_right _ List.mem_cons_self)
    cases behind with
    | milliseconds => simp [splitUnit]
    | seconds => simp [splitUnit, notM]
    | unmarked => simp [splitUnit, notS]

/-- What is taken off is a unit. -/
theorem exists_suffix_of_splitUnit {characters digits : List Char} {unit : TimeUnit}
    (parted : splitUnit characters = (digits, unit)) :
    ∃ suffix, characters = digits ++ suffix ∧ unit.Suffix suffix := by
  unfold splitUnit at parted
  split at parted
  next rest backwards =>
    obtain ⟨rfl, rfl⟩ := Prod.mk.inj parted
    refine ⟨['m', 's'], ?_, .milliseconds⟩
    simpa using List.reverse_eq_iff.mp backwards
  next rest _ backwards =>
    obtain ⟨rfl, rfl⟩ := Prod.mk.inj parted
    refine ⟨['s'], ?_, .seconds⟩
    simpa using List.reverse_eq_iff.mp backwards
  next =>
    obtain ⟨rfl, rfl⟩ := Prod.mk.inj parted
    exact ⟨[], (List.append_nil _).symm, .unmarked⟩

/-- A numeral has no characters of units. -/
theorem ne_m_and_ne_s_of_numeral {digits : List Char} {count : Nat}
    (numeral : Text.NaturalNumeral digits count) :
    ∀ character ∈ digits, character ≠ 'm' ∧ character ≠ 's' := by
  intro character member
  constructor
  all_goals
    rintro rfl
    rcases numeral.isDigit_or_eq_plus _ member with is | is <;> revert is <;> decide

/-- The quantities are the texts that leave a numeral when the unit is taken off. -/
theorem quantity_iff {characters : List Char} {count : Nat} {unit : TimeUnit} :
    Quantity characters count unit ↔
      ∃ digits, splitUnit characters = (digits, unit) ∧ Text.natural? digits = some count := by
  constructor
  · rintro ⟨digits, suffix, rfl, numeral, behind⟩
    exact ⟨digits, splitUnit_append (ne_m_and_ne_s_of_numeral numeral) behind,
      Text.natural?_eq_some_iff.mpr numeral⟩
  · rintro ⟨digits, parted, read⟩
    obtain ⟨suffix, whole, behind⟩ := exists_suffix_of_splitUnit parted
    exact ⟨digits, suffix, whole, Text.natural?_eq_some_iff.mp read, behind⟩

/-! ## Properties of the grammar -/

namespace Quantity

variable {characters : List Char} {count : Nat} {unit : TimeUnit}

/-- A text writes one number of one unit. -/
theorem unique {other : Nat} {otherUnit : TimeUnit} (quantity : Quantity characters count unit)
    (also : Quantity characters other otherUnit) : count = other ∧ unit = otherUnit := by
  obtain ⟨digits, parted, read⟩ := quantity_iff.mp quantity
  obtain ⟨otherDigits, otherParted, otherRead⟩ := quantity_iff.mp also
  obtain ⟨rfl, sameUnit⟩ := Prod.mk.inj (parted.symm.trans otherParted)
  exact ⟨Option.some.inj (read.symm.trans otherRead), sameUnit⟩

/-- The characters of a quantity. -/
theorem alphabet (quantity : Quantity characters count unit) :
    ∀ character ∈ characters,
      character.isDigit = true ∨ character = '+' ∨ character = 'm' ∨ character = 's' := by
  obtain ⟨digits, suffix, rfl, numeral, behind⟩ := quantity
  intro character member
  rcases List.mem_append.mp member with inDigits | inSuffix
  · exact (numeral.isDigit_or_eq_plus character inDigits).imp_right .inl
  · exact .inr (.inr (behind.eq_m_or_eq_s character inSuffix))

/-- There are no blanks in a quantity. -/
theorem isBlank_eq_false (quantity : Quantity characters count unit) :
    ∀ character ∈ characters, Text.isBlank character = false := by
  intro character member
  rcases quantity.alphabet character member with is | rfl | rfl | rfl
  · exact Text.isBlank_of_isDigit is
  all_goals decide

/-- There is no minus in a quantity. -/
theorem minus_notMem (quantity : Quantity characters count unit) : '-' ∉ characters := by
  intro member
  have letters := quantity.alphabet _ member
  revert letters
  decide

/-- There is a digit in a quantity. -/
theorem exists_isDigit (quantity : Quantity characters count unit) :
    ∃ character ∈ characters, character.isDigit = true := by
  obtain ⟨digits, suffix, rfl, numeral, -⟩ := quantity
  obtain ⟨digit, member, is⟩ := numeral.exists_isDigit
  exact ⟨digit, List.mem_append_left _ member, is⟩

/-- A quantity is more than a unit. -/
theorem not_suffix (quantity : Quantity characters count unit) (bare : TimeUnit) :
    ¬ bare.Suffix characters := by
  intro behind
  obtain ⟨digit, member, is⟩ := quantity.exists_isDigit
  rcases behind.eq_m_or_eq_s digit member with rfl | rfl <;> revert is <;> decide

/-- Something is written for a quantity. -/
theorem ne_nil (quantity : Quantity characters count unit) : characters ≠ [] := by
  rintro rfl
  exact quantity.not_suffix .seconds .unmarked

/-- At most one unit is written in a quantity. Each has one `s`. -/
theorem count_s_le_one (quantity : Quantity characters count unit) : characters.count 's' ≤ 1 := by
  obtain ⟨digits, suffix, rfl, numeral, behind⟩ := quantity
  have noneInDigits : digits.count 's' = 0 :=
    List.count_eq_zero.mpr fun member => (ne_m_and_ne_s_of_numeral numeral _ member).2 rfl
  have inSuffix : suffix.count 's' ≤ 1 := by
    cases behind <;> decide
  rw [List.count_append, noneInDigits, Nat.zero_add]
  exact inSuffix

/-- A quantity with a number in range writes the length of its units. -/
theorem writesDuration (quantity : Quantity characters count unit) (positive : 1 ≤ count)
    (fits : count ≤ Text.maxUnsigned64) : WritesDuration characters (unit.interval count) := by
  cases unit with
  | milliseconds => exact .milliseconds quantity positive fits
  | seconds => exact .seconds quantity positive fits

end Quantity

/-- There is a quantity behind every length of time that is written. -/
theorem WritesDuration.exists_quantity {characters : List Char} {interval : Interval}
    (writes : WritesDuration characters interval) :
    ∃ count unit, Quantity characters count unit ∧ 1 ≤ count ∧ count ≤ Text.maxUnsigned64 ∧
      unit.interval count = interval := by
  cases writes with
  | milliseconds quantity positive fits => exact ⟨_, _, quantity, positive, fits, rfl⟩
  | seconds quantity positive fits => exact ⟨_, _, quantity, positive, fits, rfl⟩

/-- A unit that is written has an `s`. -/
theorem TimeUnit.Suffix.one_le_count_s {unit : TimeUnit} {suffix : List Char}
    (behind : unit.Suffix suffix) (written : suffix ≠ []) : 1 ≤ suffix.count 's' := by
  cases behind with
  | milliseconds => decide
  | seconds => decide
  | unmarked => exact absurd rfl written

/-- Mistakes that keep a text from being a duration. A unit alone may be none at all, so that the
empty text is among them. -/
inductive Flawed : List Char → Prop where
  | blankInside {characters : List Char} {blank : Char} (member : blank ∈ characters)
      (is : Text.isBlank blank = true) : Flawed characters
  | bareUnit {characters : List Char} {unit : TimeUnit} (all : unit.Suffix characters) :
      Flawed characters
  | minus {characters : List Char} (member : '-' ∈ characters) : Flawed characters
  | zero {characters : List Char} {unit : TimeUnit} (nothing : Quantity characters 0 unit) :
      Flawed characters
  | tooMany {characters : List Char} {count : Nat} {unit : TimeUnit}
      (quantity : Quantity characters count unit) (exceeds : 2 ^ 64 ≤ count) : Flawed characters
  | twoUnits {front suffix behind : List Char} {unit other : TimeUnit} (first : unit.Suffix suffix)
      (second : other.Suffix behind) (firstWritten : suffix ≠ []) (secondWritten : behind ≠ []) :
      Flawed (front ++ suffix ++ behind)

/-- A quantity with a mistake has no number above zero and of 64 bits. -/
theorem Flawed.count_out_of_range {characters : List Char} (flawed : Flawed characters)
    {count : Nat} {unit : TimeUnit} (quantity : Quantity characters count unit) :
    count = 0 ∨ 2 ^ 64 ≤ count := by
  cases flawed with
  | blankInside member is =>
    rw [quantity.isBlank_eq_false _ member] at is
    cases is
  | bareUnit all => exact absurd all (quantity.not_suffix _)
  | minus member => exact absurd member quantity.minus_notMem
  | zero nothing => exact .inl (quantity.unique nothing).1
  | tooMany larger exceeds =>
    obtain ⟨rfl, -⟩ := quantity.unique larger
    exact .inr exceeds
  | twoUnits first second firstWritten secondWritten =>
    have most := quantity.count_s_le_one
    have inFirst := first.one_le_count_s firstWritten
    have inSecond := second.one_le_count_s secondWritten
    rw [List.count_append, List.count_append] at most
    omega

/-- A text with a mistake writes no length of time. -/
theorem Flawed.not_writesDuration {characters : List Char} (flawed : Flawed characters) :
    ¬ ∃ interval, WritesDuration characters interval := by
  rintro ⟨interval, writes⟩
  obtain ⟨count, unit, quantity, positive, fits, -⟩ := writes.exists_quantity
  have most : count ≤ 2 ^ 64 - 1 := fits
  rcases flawed.count_out_of_range quantity with zero | exceeds <;> omega

/-! ## Reading -/

section Reading

variable {text : String} {core : List Char} (trims : Text.TrimsTo text.toList core)
include trims

/-- The number of a quantity decides between the outcomes. -/
theorem duration_of_quantity {count : Nat} {unit : TimeUnit}
    (quantity : Quantity core count unit) :
    duration text =
      if count = 0 then .error ⟨ExitCode.usage, "duration must be greater than zero"⟩
      else if count ≤ Text.maxUnsigned64 then .ok (unit.interval count)
      else .error ⟨ExitCode.usage, "invalid duration value: " ++ String.ofList core⟩ := by
  obtain ⟨digits, parted, read⟩ := quantity_iff.mp quantity
  have written : ¬ core.isEmpty = true := by simpa using quantity.ne_nil
  simp only [duration, trims.trimmed_eq, if_neg written, parted, Text.unsigned64?, read,
    Option.filter_some, decide_eq_true_eq]
  by_cases fits : count ≤ Text.maxUnsigned64
  · rw [if_pos fits, if_pos fits]
  · have positive : count ≠ 0 := by omega
    rw [if_neg fits, if_neg fits, if_neg positive]

/-- What is no quantity is refused. -/
theorem duration_of_not_quantity (other : ¬ ∃ count unit, Quantity core count unit) :
    duration text = .error ⟨ExitCode.usage,
      if core = [] then "duration must not be empty"
      else "invalid duration value: " ++ String.ofList core⟩ := by
  by_cases empty : core = []
  · subst empty
    simp only [duration, trims.trimmed_eq, List.isEmpty_nil, if_true]
  · have written : ¬ core.isEmpty = true := by simpa using empty
    have nothing : Text.natural? (splitUnit core).1 = none := by
      refine Option.eq_none_iff_forall_ne_some.mpr fun count read => other ?_
      exact ⟨count, (splitUnit core).2, quantity_iff.mpr ⟨_, rfl, read⟩⟩
    simp only [duration, trims.trimmed_eq, if_neg written, Text.unsigned64?, nothing,
      Option.filter_none, if_neg empty]

/-- A length of time that is written is read. -/
theorem duration_of_writesDuration {interval : Interval} (writes : WritesDuration core interval) :
    duration text = .ok interval := by
  obtain ⟨count, unit, quantity, positive, fits, rfl⟩ := writes.exists_quantity
  rw [duration_of_quantity trims quantity, if_neg (Nat.ne_of_gt positive), if_pos fits]

/-- Whatever writes no length of time is a failure of usage. -/
theorem duration_of_not_writesDuration (none : ¬ ∃ interval, WritesDuration core interval) :
    ∃ message, duration text = .error ⟨ExitCode.usage, message⟩ := by
  by_cases is : ∃ count unit, Quantity core count unit
  · obtain ⟨count, unit, quantity⟩ := is
    have outcome := duration_of_quantity trims quantity
    split at outcome
    next => exact ⟨_, outcome⟩
    next positive =>
      split at outcome
      next fits =>
        exact absurd ⟨_, quantity.writesDuration (Nat.pos_of_ne_zero positive) fits⟩ none
      next => exact ⟨_, outcome⟩
  · exact ⟨_, duration_of_not_quantity trims is⟩

/-- The durations are the texts that write one. -/
theorem duration_eq_ok_iff {interval : Interval} :
    duration text = .ok interval ↔ WritesDuration core interval := by
  constructor
  · intro read
    by_cases some : ∃ other, WritesDuration core other
    · obtain ⟨other, writes⟩ := some
      obtain rfl := Except.ok.inj (read.symm.trans (duration_of_writesDuration trims writes))
      exact writes
    · obtain ⟨message, refused⟩ := duration_of_not_writesDuration trims some
      rw [refused] at read
      cases read
  · exact duration_of_writesDuration trims

end Reading

/-- A text is a duration if it has, between blanks, one or more digits, with or without a plus in
front and with `ms`, `s` or nothing behind, and their number is above zero and has 64 bits. It lasts
so many milliseconds or seconds. Every other text is a failure of usage, among them those with a
blank or a minus inside, a unit alone, two units, zero, and a number that has more bits. -/
theorem duration_by_grammar (text : String) :
    ∃ core, Text.TrimsTo text.toList core ∧
      (∀ interval, duration text = .ok interval ↔ WritesDuration core interval) ∧
      ((¬ ∃ interval, WritesDuration core interval) →
        ∃ message, duration text = .error ⟨64, message⟩) ∧
      (Flawed core → ∃ message, duration text = .error ⟨64, message⟩) := by
  have trims := Text.trimsTo_trimmed text.toList
  refine ⟨_, trims, fun _ => duration_eq_ok_iff trims, duration_of_not_writesDuration trims, ?_⟩
  intro flawed
  exact duration_of_not_writesDuration trims flawed.not_writesDuration

/-- The longest duration in milliseconds, with blanks of two kinds around it, a plus and a leading
zero, is read. One second more than the longest is refused, as is a second unit and a blank in front
of the unit. -/
theorem duration_by_grammar_at_the_limits :
    duration "\u3000+018446744073709551615ms\n" = .ok 18446744073709551615000 ∧
      (∃ message, duration "18446744073709551616" = .error ⟨64, message⟩) ∧
      (∃ message, duration "5sms" = .error ⟨64, message⟩) ∧
      ∃ message, duration " 5 s" = .error ⟨64, message⟩ := by
  obtain ⟨core, trims, reads, -⟩ := duration_by_grammar "\u3000+018446744073709551615ms\n"
  obtain ⟨core₁, trims₁, -, -, refuses₁⟩ := duration_by_grammar "18446744073709551616"
  obtain ⟨core₂, trims₂, -, -, refuses₂⟩ := duration_by_grammar "5sms"
  obtain ⟨core₃, trims₃, -, -, refuses₃⟩ := duration_by_grammar " 5 s"
  obtain rfl : core = "+018446744073709551615ms".toList :=
    trims.trimmed_eq.symm.trans (by decide +kernel)
  obtain rfl : core₁ = "18446744073709551616".toList :=
    trims₁.trimmed_eq.symm.trans (by decide +kernel)
  obtain rfl : core₂ = ['5'] ++ ['s'] ++ ['m', 's'] :=
    trims₂.trimmed_eq.symm.trans (by decide +kernel)
  obtain rfl : core₃ = "5 s".toList := trims₃.trimmed_eq.symm.trans (by decide +kernel)
  have longest : Quantity "+018446744073709551615ms".toList 18446744073709551615 .milliseconds :=
    quantity_iff.mpr ⟨"+018446744073709551615".toList, by decide +kernel, by decide +kernel⟩
  have beyond : Quantity "18446744073709551616".toList 18446744073709551616 .seconds :=
    quantity_iff.mpr ⟨"18446744073709551616".toList, by decide +kernel, by decide +kernel⟩
  have blank : ' ' ∈ "5 s".toList := by decide
  exact ⟨(reads _).mpr (.milliseconds longest (by decide) (by decide)),
    refuses₁ (.tooMany beyond (by decide)),
    refuses₂ (.twoUnits .seconds .milliseconds (by decide) (by decide)),
    refuses₃ (.blankInside blank (by decide))⟩

end OpticalLink.Console
