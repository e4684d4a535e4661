import Mathlib.Algebra.Group.Int.Defs
import OpticalLink.Proofs.Supervisor.Run

/-!
# The rules of settings

Settings are made of six numbers in a store. Each number is looked at by itself while it is read,
and the numbers are compared afterwards, by checks that partly repeat the earlier ones.
`Settings.rules` is the one list of rules that comes of both rounds, in the order in which they are
reported, and `Settings.ofStore_eq` reduces the reading of settings to it.

`Settings.ofStore_by_rules` says what that means to the supervisor: what passes are the numbers
themselves, they suit a supervisor over any store, and they are within the limits of a survey.
-/

namespace OpticalLink.Settings

/-- The numbers that settings are made of. -/
structure Figures where
  /-- Milliseconds between two status requests. -/
  poll : Int
  /-- Milliseconds to answer a status request. -/
  keepalive : Int
  rangeX : Int
  rangeY : Int
  bins : Int
  coverage : Int
deriving DecidableEq, Repr

/-- The numbers in a store, with the defaults in place of those that it does not have. -/
def figures (store : Store) : Figures where
  poll := store.getInt Key.pollInterval defaultPollMilliseconds
  keepalive := store.getInt Key.keepaliveTimeout defaultKeepaliveMilliseconds
  rangeX := store.getInt Key.rangeX defaultRange
  rangeY := store.getInt Key.rangeY defaultRange
  bins := store.getInt Key.surveyBins defaultBins
  coverage := store.getInt Key.surveyCoverage defaultCoverage

/-- The settings that some numbers make. -/
def Figures.settings (numbers : Figures) : Settings where
  pollInterval := ofMilliseconds numbers.poll.toNat
  keepaliveTimeout := ofMilliseconds numbers.keepalive.toNat
  rangeX := UInt32.ofNat numbers.rangeX.toNat
  rangeY := UInt32.ofNat numbers.rangeY.toNat
  surveyBins := numbers.bins.toNat
  surveyCoverage := numbers.coverage.toNat

/-- Settings that are exactly some numbers, the two times in milliseconds. -/
structure Carries (settings : Settings) (numbers : Figures) : Prop where
  poll : (settings.pollInterval : Int) = 1000 * numbers.poll
  keepalive : (settings.keepaliveTimeout : Int) = 1000 * numbers.keepalive
  rangeX : (settings.rangeX.toNat : Int) = numbers.rangeX
  rangeY : (settings.rangeY.toNat : Int) = numbers.rangeY
  bins : (settings.surveyBins : Int) = numbers.bins
  coverage : settings.surveyCoverage = numbers.coverage

/-! ## Rules -/

/-- A demand on the numbers, with what is reported if they do not meet it. -/
structure Rule where
  key : String
  keeps : Figures → Bool
  complaint : Figures → String

namespace Rule

/-- A number that has to be above zero. -/
def positive (key : String) (number : Figures → Int) : Rule where
  key
  keeps numbers := 1 ≤ number numbers
  complaint numbers := "expected a positive integer, got " ++ toString (number numbers)

/-- A number that has to be one of 32 unsigned bits. -/
def unsigned32 (key : String) (number : Figures → Int) : Rule where
  key
  keeps numbers := 0 ≤ number numbers ∧ number numbers ≤ 4294967295
  complaint numbers := "expected 0..=4294967295, got " ++ toString (number numbers)

/-- The time to answer has to end before the next request. -/
def keepaliveBeforePoll : Rule where
  key := Key.keepaliveTimeout
  keeps numbers := numbers.keepalive < numbers.poll
  complaint numbers :=
    "must be shorter than the poll interval (" ++ toString numbers.poll ++ " ms)"

/-- A survey has to be of limited size. -/
def binsWithinLimit : Rule where
  key := Key.surveyBins
  keeps numbers := numbers.bins ≤ 1024
  complaint numbers := "expected 1..=1024, got " ++ toString numbers.bins

/-- How numbers are refused that break a rule. -/
def error (rule : Rule) (numbers : Figures) : StoreError :=
  .invalid rule.key (rule.complaint numbers)

/-- Looks whether numbers keep a rule. -/
def check (numbers : Figures) (rule : Rule) : Except StoreError Unit :=
  if rule.keeps numbers then .ok () else .error (rule.error numbers)

end Rule

/-- The rules for single numbers. -/
def singleRules : List Rule := [
  .positive Key.pollInterval Figures.poll,
  .positive Key.keepaliveTimeout Figures.keepalive,
  .unsigned32 Key.rangeX Figures.rangeX,
  .unsigned32 Key.rangeY Figures.rangeY,
  .positive Key.surveyBins Figures.bins,
  .positive Key.surveyCoverage Figures.coverage]

/-- The rules that are left when each number is right by itself. -/
def commonRules : List Rule := [.keepaliveBeforePoll, .binsWithinLimit]

/-- All rules in the order in which they are reported. -/
def rules : List Rule := singleRules ++ commonRules

/-- Looks for the first rule that numbers break. -/
def checkAll (numbers : Figures) : List Rule → Except StoreError Unit
  | [] => .ok ()
  | rule :: rest => do
    rule.check numbers
    checkAll numbers rest

variable {numbers : Figures} {store : Store} {rule : Rule} {rest : List Rule}

/-- A rule that is kept leaves the others to be checked. -/
theorem checkAll_cons_of_keeps (kept : rule.keeps numbers = true) :
    checkAll numbers (rule :: rest) = checkAll numbers rest := by
  rw [checkAll, Rule.check, if_pos kept]
  rfl

/-- A rule that is broken is reported, whatever the others are. -/
theorem checkAll_cons_of_breaks (broken : rule.keeps numbers = false) :
    checkAll numbers (rule :: rest) = .error (rule.error numbers) := by
  rw [checkAll, Rule.check, if_neg (Bool.eq_false_iff.mp broken)]
  rfl

/-- Rules are checked one after the other. -/
theorem checkAll_append (first second : List Rule) :
    checkAll numbers (first ++ second) =
      (do checkAll numbers first; checkAll numbers second) := by
  induction first with
  | nil => rfl
  | cons rule rest inductionHypothesis =>
    rw [List.cons_append, checkAll, checkAll, inductionHypothesis, bind_assoc]

/-- Numbers pass if they keep all rules. -/
theorem checkAll_eq_ok_iff {rules : List Rule} :
    checkAll numbers rules = .ok () ↔ ∀ rule ∈ rules, rule.keeps numbers = true := by
  induction rules with
  | nil => exact iff_of_true rfl nofun
  | cons rule rest inductionHypothesis =>
    rw [List.forall_mem_cons, ← inductionHypothesis]
    cases kept : rule.keeps numbers with
    | true => simp [checkAll_cons_of_keeps kept]
    | false => simp [checkAll_cons_of_breaks kept]

/-- Other numbers are refused for the first rule that they break. -/
theorem checkAll_eq_error_iff {rules : List Rule} {error : StoreError} :
    checkAll numbers rules = .error error ↔
      ∃ rule, rules.find? (fun rule => !rule.keeps numbers) = some rule ∧
        rule.error numbers = error := by
  induction rules with
  | nil => exact iff_of_false nofun (by simp)
  | cons rule rest inductionHypothesis =>
    cases kept : rule.keeps numbers with
    | true => simpa [checkAll_cons_of_keeps kept, List.find?_cons, kept] using inductionHypothesis
    | false => simp [checkAll_cons_of_breaks kept, kept]

/-! ## Reading settings -/

/-- Reading a number that has to be above zero is checking the rule. -/
theorem positive_eq (key : String) (number : Figures → Int) (numbers : Figures) :
    Settings.positive key (number numbers) =
      (do (Rule.positive key number).check numbers; return (number numbers).toNat) := by
  by_cases large : 1 ≤ number numbers
  · have above : ¬ number numbers ≤ 0 := by omega
    simp only [Settings.positive, Rule.check, Rule.positive, above, large, decide_true, if_true,
      if_false]
    rfl
  · have below : number numbers ≤ 0 := by omega
    simp only [Settings.positive, Rule.check, Rule.positive, below, large, decide_false, if_true,
      if_false, Bool.false_eq_true]
    rfl

/-- Reading a number of 32 unsigned bits is checking the rule. -/
theorem unsigned32_eq (key : String) (number : Figures → Int) (numbers : Figures) :
    Settings.unsigned32 key (number numbers) =
      (do (Rule.unsigned32 key number).check numbers
          return UInt32.ofNat (number numbers).toNat) := by
  by_cases fits : 0 ≤ number numbers ∧ number numbers ≤ 4294967295
  · simp only [Settings.unsigned32, Rule.check, Rule.unsigned32, fits, and_self, decide_true,
      if_true]
    rfl
  · simp only [Settings.unsigned32, Rule.check, Rule.unsigned32, fits, decide_false, if_false,
      Bool.false_eq_true]
    rfl

/-- Settings are read by checking each number by itself, and the settings as a whole after that. -/
theorem ofStore_eq_validate (store : Store) :
    ofStore store = (do
      checkAll (figures store) singleRules
      (figures store).settings.validate
      return (figures store).settings) := by
  let numbers := figures store
  have read : ofStore store = (do
      let poll ← Settings.positive Key.pollInterval numbers.poll
      let keepalive ← Settings.positive Key.keepaliveTimeout numbers.keepalive
      let rangeX ← Settings.unsigned32 Key.rangeX numbers.rangeX
      let rangeY ← Settings.unsigned32 Key.rangeY numbers.rangeY
      let bins ← Settings.positive Key.surveyBins numbers.bins
      let coverage ← Settings.positive Key.surveyCoverage numbers.coverage
      let settings : Settings := ⟨ofMilliseconds poll, ofMilliseconds keepalive, rangeX, rangeY,
        bins, coverage⟩
      settings.validate
      return settings) := rfl
  rw [read, positive_eq _ Figures.poll, positive_eq _ Figures.keepalive,
    unsigned32_eq _ Figures.rangeX, unsigned32_eq _ Figures.rangeY, positive_eq _ Figures.bins,
    positive_eq _ Figures.coverage]
  simp only [checkAll, singleRules, bind_assoc, pure_bind]
  rfl

/-- Numbers that are right by themselves. -/
theorem forall_singleRules_iff :
    (∀ rule ∈ singleRules, rule.keeps numbers = true) ↔
      1 ≤ numbers.poll ∧ 1 ≤ numbers.keepalive ∧
      (0 ≤ numbers.rangeX ∧ numbers.rangeX ≤ 4294967295) ∧
      (0 ≤ numbers.rangeY ∧ numbers.rangeY ≤ 4294967295) ∧
      1 ≤ numbers.bins ∧ 1 ≤ numbers.coverage := by
  simp [singleRules, Rule.positive, Rule.unsigned32]

/-- Numbers that go together. -/
theorem forall_commonRules_iff :
    (∀ rule ∈ commonRules, rule.keeps numbers = true) ↔
      numbers.keepalive < numbers.poll ∧ numbers.bins ≤ 1024 := by
  simp [commonRules, Rule.keepaliveBeforePoll, Rule.binsWithinLimit]

/-- A number that is not below zero is printed as a natural number is. -/
theorem toString_toNat {number : Int} (nonneg : 0 ≤ number) :
    toString number.toNat = toString number := by
  obtain ⟨natural, rfl⟩ := Int.eq_ofNat_of_zero_le nonneg
  rfl

/-- Once each number is right by itself, settings are valid as a whole if the numbers go
together. -/
theorem validate_settings (single : ∀ rule ∈ singleRules, rule.keeps numbers = true) :
    numbers.settings.validate = checkAll numbers commonRules := by
  obtain ⟨poll, keepalive, -, -, bins, coverage⟩ := forall_singleRules_iff.mp single
  -- The checks that settings are put to, as checks of the numbers.
  have pollSome : numbers.poll.toNat ≠ 0 := by omega
  have keepaliveSome : numbers.keepalive.toNat ≠ 0 := by omega
  have coverageSome : ¬ (numbers.coverage.toNat : Int) ≤ 0 := by omega
  have late_iff : numbers.poll.toNat * 1000 ≤ numbers.keepalive.toNat * 1000 ↔
      ¬ numbers.keepalive < numbers.poll := by omega
  have large_iff : (numbers.bins.toNat = 0 ∨ 1024 < numbers.bins.toNat) ↔
      ¬ numbers.bins ≤ 1024 := by omega
  have printedPoll : toString (numbers.poll.toNat * 1000 / 1000) = toString numbers.poll := by
    have nonneg : 0 ≤ numbers.poll := by omega
    rw [Nat.mul_div_cancel _ (by decide), toString_toNat nonneg]
  have printedBins : toString numbers.bins.toNat = toString numbers.bins :=
    toString_toNat (by omega)
  simp only [validate, Figures.settings, ofMilliseconds, maxBins, Nat.mul_eq_zero, pollSome,
    keepaliveSome, Nat.reduceEqDiff, or_self, late_iff, large_iff, coverageSome, printedPoll,
    printedBins, if_false]
  by_cases early : numbers.keepalive < numbers.poll
  · have kept : Rule.keepaliveBeforePoll.keeps numbers = true := decide_eq_true early
    rw [commonRules, checkAll_cons_of_keeps kept]
    by_cases small : numbers.bins ≤ 1024
    · have limited : Rule.binsWithinLimit.keeps numbers = true := decide_eq_true small
      rw [checkAll_cons_of_keeps limited]
      simp only [early, small, not_true_eq_false, if_false]
      rfl
    · have unlimited : Rule.binsWithinLimit.keeps numbers = false := decide_eq_false small
      rw [checkAll_cons_of_breaks unlimited]
      simp only [early, small, not_true_eq_false, not_false_eq_true, if_false, if_true]
      rfl
  · have broken : Rule.keepaliveBeforePoll.keeps numbers = false := decide_eq_false early
    rw [commonRules, checkAll_cons_of_breaks broken]
    simp only [early, not_false_eq_true, if_true]
    rfl

/-- Reading settings is looking for the first rule that the numbers break. -/
theorem ofStore_eq (store : Store) :
    ofStore store = (do
      checkAll (figures store) rules
      return (figures store).settings) := by
  rw [ofStore_eq_validate, rules, checkAll_append, bind_assoc]
  cases single : checkAll (figures store) singleRules with
  | error error => rfl
  | ok _ =>
    have valid := validate_settings (checkAll_eq_ok_iff.mp single)
    exact congrArg (· >>= fun _ => pure (figures store).settings) valid

/-- Settings are read if the numbers keep all rules. -/
theorem ofStore_eq_ok_iff {settings : Settings} :
    ofStore store = .ok settings ↔
      checkAll (figures store) rules = .ok () ∧ (figures store).settings = settings := by
  rw [ofStore_eq]
  cases checkAll (figures store) rules with
  | error error => exact iff_of_false nofun nofun
  | ok _ => exact ⟨fun found => ⟨rfl, Except.ok.inj found⟩, fun found => congrArg _ found.2⟩

/-- Settings are refused as the numbers are. -/
theorem ofStore_eq_error_iff {error : StoreError} :
    ofStore store = .error error ↔ checkAll (figures store) rules = .error error := by
  rw [ofStore_eq]
  cases checkAll (figures store) rules with
  | error first =>
    exact ⟨fun refused => congrArg _ (Except.error.inj refused),
      fun refused => congrArg _ (Except.error.inj refused)⟩
  | ok _ => exact iff_of_false nofun nofun

/-- Settings carry the numbers that they are made of, if each number is right by itself. -/
theorem carries_settings (single : ∀ rule ∈ singleRules, rule.keeps numbers = true) :
    numbers.settings.Carries numbers := by
  obtain ⟨poll, keepalive, rangeX, rangeY, bins, coverage⟩ := forall_singleRules_iff.mp single
  refine ⟨?_, ?_, ?_, ?_, ?_, ?_⟩ <;>
    simp only [Figures.settings, ofMilliseconds, UInt32.toNat_ofNat'] <;> omega

/-- Settings are read exactly if the time to answer is positive and ends before the next request,
the travel is of 32 unsigned bits, and the survey has 1 to 1024 bins and a positive coverage. They
carry just the numbers that were asked for, every supervisor can be built with them, and a survey
takes them as they are. Otherwise the first rule that the numbers break is reported with its key. -/
theorem ofStore_by_rules (store : Store) :
    let numbers := figures store
    let read := ofStore store
    ((∃ settings, read = .ok settings) ↔
      (1 ≤ numbers.keepalive ∧ numbers.keepalive < numbers.poll) ∧
      (0 ≤ numbers.rangeX ∧ numbers.rangeX ≤ 2 ^ 32 - 1) ∧
      (0 ≤ numbers.rangeY ∧ numbers.rangeY ≤ 2 ^ 32 - 1) ∧
      (1 ≤ numbers.bins ∧ numbers.bins ≤ 1024) ∧ 1 ≤ numbers.coverage) ∧
    (∀ settings, read = .ok settings →
      settings.Carries numbers ∧ settings.validate = .ok () ∧
      (∀ other, Supervisor.withSettings other settings = .ok (.initial other settings)) ∧
      (SurveyGrid.new settings.surveyBins settings.surveyCoverage).bins = settings.surveyBins ∧
      (SurveyGrid.new settings.surveyBins settings.surveyCoverage).coverage =
        settings.surveyCoverage) ∧
    ∀ error, read = .error error ↔
      ∃ rule, rules.find? (fun rule => !rule.keeps numbers) = some rule ∧
        .invalid rule.key (rule.complaint numbers) = error := by
  intro numbers read
  have kept_iff : checkAll numbers rules = .ok () ↔
      (∀ rule ∈ singleRules, rule.keeps numbers = true) ∧
        ∀ rule ∈ commonRules, rule.keeps numbers = true :=
    checkAll_eq_ok_iff.trans List.forall_mem_append
  refine ⟨?_, ?_, fun error => ofStore_eq_error_iff.trans checkAll_eq_error_iff⟩
  · have readable_iff : (∃ settings, read = .ok settings) ↔ checkAll numbers rules = .ok () :=
      ⟨fun ⟨_, found⟩ => (ofStore_eq_ok_iff.mp found).1,
        fun passed => ⟨_, ofStore_eq_ok_iff.mpr ⟨passed, rfl⟩⟩⟩
    rw [readable_iff, kept_iff, forall_singleRules_iff, forall_commonRules_iff]
    omega
  · intro settings found
    obtain ⟨passed, rfl⟩ : checkAll numbers rules = .ok () ∧ numbers.settings = settings :=
      ofStore_eq_ok_iff.mp found
    obtain ⟨single, common⟩ := kept_iff.mp passed
    have carried := carries_settings single
    have valid : numbers.settings.validate = .ok () :=
      (validate_settings single).trans (checkAll_eq_ok_iff.mpr common)
    obtain ⟨-, -, -, -, bins, coverage⟩ := forall_singleRules_iff.mp single
    obtain ⟨-, binsLimit⟩ := forall_commonRules_iff.mp common
    have carriedBins := carried.bins
    have carriedCoverage := carried.coverage
    refine ⟨carried, valid, fun other => Supervisor.withSettings_eq_ok_iff.mpr ⟨valid, rfl⟩, ?_, ?_⟩
    · simp only [SurveyGrid.new, maxBins]
      omega
    · simp only [SurveyGrid.new]
      omega

/-- A time to answer that is a numeral in a text counts, and one of another kind gives way to its
default. Of two broken rules the one about the two times is reported, although the number of bins is
looked at first. -/
theorem ofStore_by_rules_two_broken :
    let store := (((Store.memory.setString Key.keepaliveTimeout " +999 ").set Key.pollInterval
      (.bool true)).setInt Key.rangeX 4294967295).setInt Key.surveyBins 1024
    let crowded := (store.setInt Key.surveyBins 1025).setInt Key.keepaliveTimeout 1000
    (∃ settings, ofStore store = .ok settings ∧
        settings.Carries ⟨1000, 999, 4294967295, 25000, 1024, 10000⟩) ∧
      ofStore crowded = .error (.invalid Key.keepaliveTimeout
        "must be shorter than the poll interval (1000 ms)") := by
  intro store crowded
  have numbers : figures store = ⟨1000, 999, 4294967295, 25000, 1024, 10000⟩ := by decide +kernel
  have others : figures crowded = ⟨1000, 1000, 4294967295, 25000, 1025, 10000⟩ := by
    decide +kernel
  obtain ⟨accepted, carried, -⟩ := ofStore_by_rules store
  obtain ⟨-, -, refused⟩ := ofStore_by_rules crowded
  rw [numbers] at accepted carried
  rw [others] at refused
  obtain ⟨settings, found⟩ := accepted.mpr (by decide)
  exact ⟨⟨settings, found, (carried settings found).1⟩,
    (refused _).mpr ⟨.keepaliveBeforePoll, rfl, by decide⟩⟩

end OpticalLink.Settings
