import Mathlib.Algebra.Group.Int.Defs
import OpticalLink.Proofs.Store.Lookup
import OpticalLink.Proofs.Text.Numerals

/-!
# A stored value as a number and as a text

A store hands out what it holds under a key in two ways, whichever way it came in. A number is shown
as its decimal text, and a text counts as a number if it is a numeral between blanks and the number
fits 64 signed bits. `Store.views_of_set` says so for memory stores and for file stores alike,
whatever was set in them before.
-/

namespace OpticalLink

/-- A text counts as the number that it writes between blanks, if that has 64 signed bits. -/
theorem JsonValue.toSigned64?_text_eq_some_iff {text : String} {core : List Char} {number : Int}
    (trims : Text.TrimsTo text.toList core) :
    (JsonValue.text text).toSigned64? = some number ↔
      Text.Numeral core number ∧ Text.minSigned64 ≤ number ∧ number ≤ Text.maxSigned64 := by
  rw [toSigned64?, trims.trimmed_eq, Text.signed64?_eq_some_iff]

namespace Store

/-- A number as a store shows it when it is asked for a text. -/
theorem getString_setInt_self (store : Store) (key : String) (value : Int) (default : String) :
    (store.setInt key value).getString key default = toString value := by
  rw [getString, values_setInt, JsonMembers.find?_insert_self]
  rfl

/-- A number of 64 signed bits is found again. -/
theorem getInt_setInt_self (store : Store) (key : String) {value : Int}
    (least : Text.minSigned64 ≤ value) (greatest : value ≤ Text.maxSigned64) (default : Int) :
    (store.setInt key value).getInt key default = value := by
  rw [getInt, values_setInt, JsonMembers.find?_insert_self, Option.bind_some,
    JsonValue.toSigned64?_ofInt least greatest, Option.getD_some]

/-- A text is found again. -/
theorem getString_setString_self (store : Store) (key text default : String) :
    (store.setString key text).getString key default = text := by
  rw [getString, setString, set, JsonMembers.find?_insert_self]
  rfl

/-- A text is looked at when it is asked for as a number. -/
theorem getInt_setString_self (store : Store) (key text : String) (default : Int) :
    (store.setString key text).getInt key default =
      (JsonValue.text text).toSigned64?.getD default := by
  rw [getInt, setString, set, JsonMembers.find?_insert_self, Option.bind_some]

/-- A numeral between blanks counts as its number, unless that is out of limits. -/
theorem getInt_setString_of_numeral (store : Store) (key : String) {text : String}
    {core : List Char} (trims : Text.TrimsTo text.toList core) {value : Int}
    (numeral : Text.Numeral core value) (default : Int) :
    (store.setString key text).getInt key default =
      if Text.minSigned64 ≤ value ∧ value ≤ Text.maxSigned64 then value else default := by
  rw [getInt_setString_self]
  split
  next limits =>
    rw [(JsonValue.toSigned64?_text_eq_some_iff trims).mpr ⟨numeral, limits⟩, Option.getD_some]
  next beyond =>
    have nothing : (JsonValue.text text).toSigned64? = none := by
      refine Option.eq_none_iff_forall_ne_some.mpr fun found read => beyond ?_
      obtain ⟨written, limits⟩ := (JsonValue.toSigned64?_text_eq_some_iff trims).mp read
      rwa [numeral.unique written]
    rw [nothing, Option.getD_none]

/-- What is no numeral between blanks gives way to the default. -/
theorem getInt_setString_of_not_numeral (store : Store) (key : String) {text : String}
    {core : List Char} (trims : Text.TrimsTo text.toList core)
    (other : ¬ ∃ value, Text.Numeral core value) (default : Int) :
    (store.setString key text).getInt key default = default := by
  have nothing : (JsonValue.text text).toSigned64? = none := by
    refine Option.eq_none_iff_forall_ne_some.mpr fun value read => other ⟨value, ?_⟩
    exact ((JsonValue.toSigned64?_text_eq_some_iff trims).mp read).1
  rw [getInt_setString_self, nothing, Option.getD_none]

/-- What is set under a key is found there, and what stands under the others is left. A number of 64
signed bits is found as it is and as its decimal text, and that text stands for the number, also
between blanks. A text is found as it is. As a number it is looked at without the blanks around it:
the default is found if that is no numeral or its number exceeds 64 signed bits, as for a text that
is empty or has a blank inside. -/
theorem views_of_set (store : Store) (key : String) :
    (∀ value : Int, -2 ^ 63 ≤ value → value ≤ 2 ^ 63 - 1 →
      (∀ default, (store.setInt key value).getInt key default = value) ∧
      (∀ default, (store.setInt key value).getString key default = toString value) ∧
      Text.Numeral (toString value).toList value ∧
      ∀ before after default, (∀ character ∈ before, Text.isBlank character = true) →
        (∀ character ∈ after, Text.isBlank character = true) →
        (store.setString key (String.ofList (before ++ (toString value).toList ++ after))).getInt
          key default = value) ∧
    (∀ text, (∀ default, (store.setString key text).getString key default = text) ∧
      ∃ core, Text.TrimsTo text.toList core ∧
        (∀ value default, Text.Numeral core value →
          (store.setString key text).getInt key default =
            if -2 ^ 63 ≤ value ∧ value ≤ 2 ^ 63 - 1 then value else default) ∧
        ((¬ ∃ value, Text.Numeral core value) →
          ∀ default, (store.setString key text).getInt key default = default) ∧
        ((core = [] ∨ ∃ character ∈ core, Text.isBlank character = true) →
          ¬ ∃ value, Text.Numeral core value)) ∧
    ∀ other ≠ key,
      (∀ value default,
        (store.setInt key value).getInt other default = store.getInt other default) ∧
      (∀ value default,
        (store.setInt key value).getString other default = store.getString other default) ∧
      (∀ text default,
        (store.setString key text).getInt other default = store.getInt other default) ∧
      ∀ text default,
        (store.setString key text).getString other default = store.getString other default := by
  refine ⟨fun value least greatest => ⟨?_, ?_, Text.numeral_toString value, ?_⟩,
    fun text => ⟨?_, Text.trimmed text.toList, Text.trimsTo_trimmed _, ?_, ?_, ?_⟩,
    fun other different => ⟨fun _ => ?_, fun _ => ?_, fun _ => ?_, fun _ => ?_⟩⟩
  · exact getInt_setInt_self store key least greatest
  · exact getString_setInt_self store key value
  · intro before after default blankBefore blankAfter
    have numeral := Text.numeral_toString value
    have trims := numeral.trimsTo blankBefore blankAfter
    rw [← String.toList_ofList (l := before ++ (toString value).toList ++ after)] at trims
    exact (getInt_setString_of_numeral store key trims numeral default).trans
      (if_pos ⟨least, greatest⟩)
  · exact getString_setString_self store key text
  · intro value default numeral
    exact getInt_setString_of_numeral store key (Text.trimsTo_trimmed _) numeral default
  · exact getInt_setString_of_not_numeral store key (Text.trimsTo_trimmed _)
  · rintro flawed ⟨value, numeral⟩
    rcases flawed with empty | ⟨character, member, blank⟩
    · exact numeral.ne_nil empty
    · rw [numeral.isBlank_eq_false character member] at blank
      cases blank
  · exact getInt_set_of_ne different _
  · exact getString_set_of_ne different _
  · exact getInt_set_of_ne different _
  · exact getString_set_of_ne different _

/-- The least number of 64 signed bits is found again in a file store, as is the greatest from a
text with a sign, leading zeros and blanks of several kinds around it. The text of the next number
gives way to the default. -/
theorem views_of_set_at_the_limits :
    let store : Store := ⟨[("a", .bool true)], .file "unit.json" false, .empty⟩
    (store.setInt "k" (-9223372036854775808)).getInt "k" 0 = -9223372036854775808 ∧
      (store.setInt "k" (-9223372036854775808)).getString "k" "" = "-9223372036854775808" ∧
      (store.setString "k" "\u3000+009223372036854775807\n").getInt "k" 0 =
        9223372036854775807 ∧
      (store.setString "k" " 9223372036854775808").getInt "k" 5 = 5 := by
  intro store
  obtain ⟨numbers, texts, -⟩ := views_of_set store "k"
  obtain ⟨least, printed, -⟩ := numbers (-9223372036854775808) (by decide) (by decide)
  obtain ⟨-, core, trims, greatest, -⟩ := texts "\u3000+009223372036854775807\n"
  obtain ⟨-, core', trims', beyond, -⟩ := texts " 9223372036854775808"
  have core_eq : core = "+009223372036854775807".toList :=
    trims.trimmed_eq.symm.trans (by decide +kernel)
  have core_eq' : core' = "9223372036854775808".toList :=
    trims'.trimmed_eq.symm.trans (by decide +kernel)
  have numeral : Text.Numeral core 9223372036854775807 := by
    rw [core_eq]
    exact Text.integer?_eq_some_iff.mp (by decide +kernel)
  have numeral' : Text.Numeral core' 9223372036854775808 := by
    rw [core_eq']
    exact Text.integer?_eq_some_iff.mp (by decide +kernel)
  exact ⟨least 0, printed "", greatest _ 0 numeral, beyond _ 5 numeral'⟩

end Store

end OpticalLink
