import Mathlib.Data.List.TakeWhile
import OpticalLink.Text.Blank
import OpticalLink.Text.Numeral

/-!
# Numerals between blanks

What a whole number may look like in a text, and what is left of a text without the blanks around
it, said without the way in which either is found. `Text.Numeral` is the grammar of numerals with
the numbers that they write, and `Text.integer?_eq_some_iff` says that reading follows it.
`Text.NaturalNumeral` is the part of it without a minus, which `Text.natural?_eq_some_iff` is about.
`Text.TrimsTo` is the part of a text from its first to its last character that is not blank, and
`Text.trimsTo_iff` says that trimming finds it.
-/

namespace OpticalLink.Text

/-! ## Digits -/

/-- One or more decimal digits. -/
structure IsDigits (characters : List Char) : Prop where
  ne_nil : characters ≠ []
  isDigit : ∀ character ∈ characters, character.isDigit = true

/-- The characters from `0` to `9` are the decimal digits. -/
theorem isDigit_iff {character : Char} :
    character.isDigit = true ↔ '0' ≤ character ∧ character ≤ '9' := by
  simp only [Char.isDigit, Bool.and_eq_true, decide_eq_true_eq]
  rfl

/-- A digit adds a decimal place. -/
theorem digitsFrom?_cons_of_isDigit {digit : Char} (is : digit.isDigit = true) (number : Nat)
    (rest : List Char) :
    digitsFrom? number (digit :: rest) = digitsFrom? (10 * number + (digit.toNat - 48)) rest := by
  rw [digitsFrom?, List.foldlM_cons, digitValue?, if_pos (isDigit_iff.mp is)]
  rfl

/-- Another character stops the reading. -/
theorem digitsFrom?_cons_of_not_isDigit {character : Char} (no : ¬ character.isDigit = true)
    (number : Nat) (rest : List Char) : digitsFrom? number (character :: rest) = none := by
  rw [digitsFrom?, List.foldlM_cons, digitValue?, if_neg (isDigit_iff.not.mp no)]
  rfl

/-- Digits are read place by place, and nothing but digits is read. -/
theorem digitsFrom?_eq_some_iff {number result : Nat} {characters : List Char} :
    digitsFrom? number characters = some result ↔
      (∀ character ∈ characters, character.isDigit = true) ∧
        Nat.ofDigitChars 10 characters number = result := by
  induction characters generalizing number with
  | nil => simp [digitsFrom?, Nat.ofDigitChars_nil]
  | cons first rest inductionHypothesis =>
    rw [List.forall_mem_cons, Nat.ofDigitChars_cons]
    by_cases is : first.isDigit = true
    · rw [digitsFrom?_cons_of_isDigit is, inductionHypothesis]
      simp only [is, true_and]
      rfl
    · rw [digitsFrom?_cons_of_not_isDigit is]
      simp [is]

/-- One or more digits are read as the number that they write. -/
theorem digits?_eq_some_iff {characters : List Char} {number : Nat} :
    digits? characters = some number ↔
      IsDigits characters ∧ Nat.ofDigitChars 10 characters 0 = number := by
  cases characters with
  | nil => exact iff_of_false nofun fun digits => digits.1.ne_nil rfl
  | cons first rest =>
    refine digitsFrom?_eq_some_iff.trans (and_congr_left fun _ => ?_)
    exact ⟨fun all => ⟨List.cons_ne_nil _ _, all⟩, IsDigits.isDigit⟩

/-! ## Numerals -/

/-- The numerals of whole numbers and what they write: one or more decimal digits, with or without
a sign in front. -/
inductive Numeral : List Char → Int → Prop where
  | plain {digits : List Char} (digital : IsDigits digits) :
      Numeral digits (Nat.ofDigitChars 10 digits 0)
  | plus {digits : List Char} (digital : IsDigits digits) :
      Numeral ('+' :: digits) (Nat.ofDigitChars 10 digits 0)
  | minus {digits : List Char} (digital : IsDigits digits) :
      Numeral ('-' :: digits) (-Nat.ofDigitChars 10 digits 0)

/-- The first of some digits is no sign. -/
theorem IsDigits.ne_cons {digits rest : List Char} {sign : Char} (digital : IsDigits digits)
    (no : sign.isDigit = false) : digits ≠ sign :: rest := by
  rintro rfl
  have is := digital.isDigit sign List.mem_cons_self
  rw [no] at is
  cases is

/-- What is read is what the numeral writes. -/
theorem integer?_eq_some_iff {characters : List Char} {number : Int} :
    integer? characters = some number ↔ Numeral characters number := by
  constructor
  · intro read
    unfold integer? at read
    split at read
    next digits =>
      obtain ⟨integer, found, rfl⟩ := Option.map_eq_some_iff.mp read
      obtain ⟨magnitude, foundDigits, same⟩ := Option.bind_eq_some_iff.mp found
      obtain ⟨digital, rfl⟩ := digits?_eq_some_iff.mp foundDigits
      obtain rfl := Option.some.inj same
      exact .minus digital
    next digits =>
      obtain ⟨magnitude, found, rfl⟩ := Option.map_eq_some_iff.mp read
      obtain ⟨digital, rfl⟩ := digits?_eq_some_iff.mp found
      exact .plus digital
    next =>
      obtain ⟨magnitude, found, rfl⟩ := Option.map_eq_some_iff.mp read
      obtain ⟨digital, rfl⟩ := digits?_eq_some_iff.mp found
      exact .plain digital
  · intro numeral
    cases numeral with
    | minus digital =>
      rw [integer?, digits?_eq_some_iff.mpr ⟨digital, rfl⟩]
      rfl
    | plus digital =>
      rw [integer?, digits?_eq_some_iff.mpr ⟨digital, rfl⟩]
      rfl
    | plain digital =>
      unfold integer?
      split
      next => exact absurd rfl (digital.ne_cons (by decide))
      next => exact absurd rfl (digital.ne_cons (by decide))
      next =>
        rw [digits?_eq_some_iff.mpr ⟨digital, rfl⟩]
        rfl

/-- A numeral writes one number. -/
theorem Numeral.unique {characters : List Char} {number other : Int}
    (numeral : Numeral characters number) (also : Numeral characters other) : number = other :=
  Option.some.inj ((integer?_eq_some_iff.mpr numeral).symm.trans (integer?_eq_some_iff.mpr also))

/-- A numeral has digits. -/
theorem Numeral.ne_nil {characters : List Char} {number : Int}
    (numeral : Numeral characters number) : characters ≠ [] := by
  cases numeral with
  | plain digital => exact digital.ne_nil
  | plus _ => exact List.cons_ne_nil _ _
  | minus _ => exact List.cons_ne_nil _ _

/-- A numeral of 64 signed bits is one that writes a number within their limits. -/
theorem signed64?_eq_some_iff {characters : List Char} {number : Int} :
    signed64? characters = some number ↔
      Numeral characters number ∧ minSigned64 ≤ number ∧ number ≤ maxSigned64 := by
  rw [signed64?, Option.filter_eq_some_iff, integer?_eq_some_iff, between, Bool.and_eq_true,
    decide_eq_true_eq, decide_eq_true_eq]

/-- The numerals of natural numbers and what they write: one or more decimal digits, with or without
a plus in front. -/
inductive NaturalNumeral : List Char → Nat → Prop where
  | plain {digits : List Char} (digital : IsDigits digits) :
      NaturalNumeral digits (Nat.ofDigitChars 10 digits 0)
  | plus {digits : List Char} (digital : IsDigits digits) :
      NaturalNumeral ('+' :: digits) (Nat.ofDigitChars 10 digits 0)

/-- A text is read as a natural number if it is a numeral of that number. -/
theorem natural?_eq_some_iff {characters : List Char} {number : Nat} :
    natural? characters = some number ↔ NaturalNumeral characters number := by
  constructor
  · intro read
    unfold natural? at read
    split at read
    next digits =>
      obtain ⟨digital, rfl⟩ := digits?_eq_some_iff.mp read
      exact .plus digital
    next =>
      obtain ⟨digital, rfl⟩ := digits?_eq_some_iff.mp read
      exact .plain digital
  · intro numeral
    cases numeral with
    | plus digital => exact digits?_eq_some_iff.mpr ⟨digital, rfl⟩
    | plain digital =>
      unfold natural?
      split
      next => exact absurd rfl (digital.ne_cons (by decide))
      next => exact digits?_eq_some_iff.mpr ⟨digital, rfl⟩

/-- Nothing but digits and the plus stands in the numeral of a natural number. -/
theorem NaturalNumeral.isDigit_or_eq_plus {characters : List Char} {number : Nat}
    (numeral : NaturalNumeral characters number) :
    ∀ character ∈ characters, character.isDigit = true ∨ character = '+' := by
  cases numeral with
  | plain digital => exact fun character member => .inl (digital.isDigit character member)
  | plus digital =>
    exact List.forall_mem_cons.mpr
      ⟨.inr rfl, fun character member => .inl (digital.isDigit character member)⟩

/-- Some digits have a digit. -/
theorem IsDigits.exists_isDigit {digits : List Char} (digital : IsDigits digits) :
    ∃ character ∈ digits, character.isDigit = true := by
  obtain ⟨digit, member⟩ := List.exists_mem_of_ne_nil digits digital.ne_nil
  exact ⟨digit, member, digital.isDigit digit member⟩

/-- The numeral of a natural number has a digit. -/
theorem NaturalNumeral.exists_isDigit {characters : List Char} {number : Nat}
    (numeral : NaturalNumeral characters number) :
    ∃ character ∈ characters, character.isDigit = true := by
  cases numeral with
  | plain digital => exact digital.exists_isDigit
  | plus digital =>
    obtain ⟨digit, member, is⟩ := digital.exists_isDigit
    exact ⟨digit, List.mem_cons_of_mem _ member, is⟩

/-- A natural number is printed with digits. -/
theorem isDigits_toDigits (number : Nat) : IsDigits (Nat.toDigits 10 number) where
  ne_nil := Nat.toDigits_ne_nil
  isDigit _ member := Nat.isDigit_of_mem_toDigits (by decide) (by decide) member

/-- A whole number is printed as a numeral that writes it. -/
theorem numeral_toString (number : Int) : Numeral (toString number).toList number := by
  rw [Int.toString_eq_repr, Int.repr_eq_if]
  split
  next nonneg =>
    have numeral := Numeral.plain (isDigits_toDigits number.toNat)
    rwa [Nat.ofDigitChars_ten_toDigits, Int.toNat_of_nonneg nonneg, ← Nat.toList_repr] at numeral
  next negative =>
    have numeral := Numeral.minus (isDigits_toDigits (-number).toNat)
    rw [Nat.ofDigitChars_ten_toDigits, Int.toNat_of_nonneg (by omega), Int.neg_neg,
      ← Nat.toList_repr] at numeral
    rwa [String.toList_append]

/-! ## Blanks around a text -/

/-- A text without the blanks around it: none are left at its ends, and nothing else is missing. -/
structure TrimsTo (characters core : List Char) : Prop where
  parts : ∃ before after, characters = before ++ core ++ after ∧
    (∀ character ∈ before, isBlank character = true) ∧
    ∀ character ∈ after, isBlank character = true
  first : ∀ character ∈ core.head?, isBlank character = false
  last : ∀ character ∈ core.getLast?, isBlank character = false

/-- Blanks in front of a text that begins with none are taken off. -/
theorem dropWhile_isBlank_append {blanks rest : List Char}
    (blank : ∀ character ∈ blanks, isBlank character = true)
    (first : ∀ character ∈ rest.head?, isBlank character = false) :
    (blanks ++ rest).dropWhile isBlank = rest := by
  rw [List.dropWhile_append_of_pos blank]
  cases rest with
  | nil => rfl
  | cons character others =>
    exact List.dropWhile_cons_of_neg (Bool.eq_false_iff.mp (first character rfl))

/-- Trimming takes off the blanks around a text. -/
theorem TrimsTo.trimmed_eq {characters core : List Char} (trims : TrimsTo characters core) :
    trimmed characters = core := by
  obtain ⟨⟨before, after, rfl, blankBefore, blankAfter⟩, first, last⟩ := trims
  have blankReversed : ∀ character ∈ after.reverse, isBlank character = true :=
    fun character member => blankAfter character (List.mem_reverse.mp member)
  cases core with
  | nil =>
    have nothing : (before ++ after).dropWhile isBlank = [] := by
      rw [List.dropWhile_append_of_pos blankBefore]
      exact List.dropWhile_eq_nil_iff.mpr blankAfter
    rw [List.append_nil, trimmed, nothing]
    rfl
  | cons character others =>
    rw [List.append_assoc, trimmed, dropWhile_isBlank_append blankBefore (by simpa using first),
      List.reverse_append, dropWhile_isBlank_append blankReversed, List.reverse_reverse]
    rwa [List.head?_reverse]

/-- The first character that is not dropped is not blank. -/
theorem head?_dropWhile_isBlank {characters : List Char} {character : Char}
    (first : character ∈ (characters.dropWhile isBlank).head?) : isBlank character = false := by
  have stops := List.head?_dropWhile_not isBlank characters
  rwa [Option.mem_def.mp first] at stops

/-- Every text has such a part. -/
theorem trimsTo_trimmed (characters : List Char) : TrimsTo characters (trimmed characters) := by
  let front := characters.takeWhile isBlank
  let rest := characters.dropWhile isBlank
  let back := rest.reverse.takeWhile isBlank
  have rest_eq : rest = trimmed characters ++ back.reverse := by
    rw [trimmed, ← List.reverse_append, List.takeWhile_append_dropWhile, List.reverse_reverse]
  refine ⟨⟨front, back.reverse, ?_, fun _ => List.mem_takeWhile_imp, fun _ member => ?_⟩, ?_, ?_⟩
  · rw [List.append_assoc, ← rest_eq]
    exact List.takeWhile_append_dropWhile.symm
  · exact List.mem_takeWhile_imp (List.mem_reverse.mp member)
  · intro character first
    have isFirst : character ∈ rest.head? := by
      rw [rest_eq, List.head?_append, Option.mem_def.mp first]
      rfl
    exact head?_dropWhile_isBlank isFirst
  · intro character last
    rw [trimmed, List.getLast?_reverse] at last
    exact head?_dropWhile_isBlank last

/-- Trimming finds what is left of a text without the blanks around it. -/
theorem trimsTo_iff {characters core : List Char} :
    TrimsTo characters core ↔ trimmed characters = core := by
  constructor
  · exact TrimsTo.trimmed_eq
  · rintro rfl
    exact trimsTo_trimmed characters

/-- A digit is not blank. -/
theorem isBlank_of_isDigit {character : Char} (is : character.isDigit = true) :
    isBlank character = false := by
  have bounds := Char.isDigit_iff_toNat.mp is
  have low : 48 ≤ character.toNat := bounds.1
  have high : character.toNat ≤ 57 := bounds.2
  simp only [isBlank, blankRanges, List.any_cons, List.any_nil, Bool.or_eq_false_iff,
    Bool.and_eq_false_iff, decide_eq_false_iff_not, and_true]
  omega

/-- There are no blanks in a numeral. -/
theorem Numeral.isBlank_eq_false {characters : List Char} {number : Int}
    (numeral : Numeral characters number) :
    ∀ character ∈ characters, isBlank character = false := by
  cases numeral with
  | plain digital => exact fun character member => isBlank_of_isDigit (digital.isDigit _ member)
  | plus digital =>
    exact List.forall_mem_cons.mpr
      ⟨by decide, fun character member => isBlank_of_isDigit (digital.isDigit _ member)⟩
  | minus digital =>
    exact List.forall_mem_cons.mpr
      ⟨by decide, fun character member => isBlank_of_isDigit (digital.isDigit _ member)⟩

/-- A numeral is what is left of it between blanks. -/
theorem Numeral.trimsTo {before characters after : List Char} {number : Int}
    (numeral : Numeral characters number)
    (blankBefore : ∀ character ∈ before, isBlank character = true)
    (blankAfter : ∀ character ∈ after, isBlank character = true) :
    TrimsTo (before ++ characters ++ after) characters where
  parts := ⟨before, after, rfl, blankBefore, blankAfter⟩
  first character member := numeral.isBlank_eq_false character (List.mem_of_mem_head? member)
  last character member := numeral.isBlank_eq_false character (List.mem_of_mem_getLast? member)

end OpticalLink.Text
