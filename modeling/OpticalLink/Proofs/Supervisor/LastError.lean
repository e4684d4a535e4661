import Mathlib.Data.List.Induction
import OpticalLink.Proofs.History
import OpticalLink.Proofs.Message.Values
import OpticalLink.Proofs.Supervisor.Picture
import OpticalLink.Supervisor.Status

/-!
# The last error of the motors

The motors report error codes in both kinds of reports. A status report without a code leaves
the last one, but an error report without a code takes it away. `Supervisor.Lost` is what has
then happened, and `Supervisor.lastError_of_latest_code` says that the last error is the
latest code exactly as long as it has not.
-/

namespace OpticalLink

/-- An error code is read unless its field is missing or shorter than four bytes. -/
theorem Message.errorReport?_eq_none_iff {message : Message} :
    message.errorReport? = none ↔
      ∀ value, message.value? .errorReport = some value → value.length < 4 :=
  readsFront_number32.bind_value?_eq_none_iff

/-- Whether a notice is an error without a code. -/
def Notice.withholds : Notice → Bool
  | .error message => message.errorReport?.isNone
  | _ => false

theorem Notice.code?_eq_none_of_withholds {notice : Notice} (withholds : notice.withholds = true) :
    notice.code? = none := by
  cases notice with
  | error message => exact Option.isNone_iff_eq_none.mp withholds
  | _ => cases withholds

/-- An error without a code takes the last error away, and a code takes its place. -/
theorem Picture.lastError_learn {picture : Picture} (notice : Notice) :
    (picture.learn notice).motors.lastError =
      if notice.withholds then none else notice.code?.or picture.motors.lastError := by
  cases notice with
  | report message =>
    have heard : (picture.hear message).motors.lastError =
        message.errorReport?.or picture.motors.lastError := by
      simp only [hear]
      cases message.errorReport? <;> rfl
    rw [learn, Notice.code?, ← heard]
    cases message.motorPosition? <;> rfl
  | error message =>
    rw [Notice.code?, Notice.withholds]
    change message.errorReport? = _
    cases message.errorReport? <;> rfl
  | _ => rfl

namespace Supervisor

variable {T : Type}

/-- The error code that the motors report in the reply that a step handles. -/
def Step.code? (step : Step T) : Option UInt32 := step.notice?.bind Notice.code?

/-- Whether a step handles an error report of the motors without a code. -/
def Step.withholds (step : Step T) : Bool := step.notice?.any Notice.withholds

/-- The error codes that the motors report in some steps. -/
def codes (steps : List (Step T)) : List UInt32 := steps.filterMap Step.code?

/-- The motors have reported a code, and after the latest one an error without a code. -/
def Lost (steps : List (Step T)) : Prop :=
  Since (fun earlier step => codes earlier ≠ [] ∧ step.withholds = true)
    (fun later => later.code? = none) steps

variable {supervisor : Supervisor T} {steps : List (Step T)} {last : Step T}

theorem Step.code?_eq_none_of_withholds (withholds : last.withholds = true) :
    last.code? = none := by
  obtain ⟨notice, means, withholds⟩ := (Option.any_eq_true _ _).mp withholds
  rw [code?, means, Option.bind_some, Notice.code?_eq_none_of_withholds withholds]

/-! ## Losing a code -/

theorem codes_append_singleton : codes (steps ++ [last]) = codes steps ++ last.code?.toList := by
  rw [codes, List.filterMap_append, codes]
  cases code : last.code? <;> simp [code]

/-- What was lost was known. -/
theorem Lost.codes_ne_nil (lost : Lost steps) : codes steps ≠ [] := by
  obtain ⟨earlier, step, since, rfl, ⟨known, -⟩, -⟩ := lost
  rw [codes, List.filterMap_append]
  exact List.append_ne_nil_of_left_ne_nil known _

/-- How one more step loses a code. -/
theorem lost_append_singleton :
    Lost (steps ++ [last]) ↔
      last.code? = none ∧ (Lost steps ∨ codes steps ≠ [] ∧ last.withholds = true) := by
  rw [Lost, since_append_singleton]
  constructor
  · rintro (⟨known, withholds⟩ | ⟨noCode, lost⟩)
    · exact ⟨Step.code?_eq_none_of_withholds withholds, .inr ⟨known, withholds⟩⟩
    · exact ⟨noCode, .inl lost⟩
  · rintro ⟨noCode, lost | happened⟩
    · exact .inr ⟨noCode, lost⟩
    · exact .inl happened

variable [Transport T]

/-- An error without a code takes the last error away, and a code takes its place. -/
theorem lastError_step (step : Step T) :
    (supervisor.step step).motors.lastError =
      if step.withholds then none else step.code?.or supervisor.motors.lastError := by
  change (supervisor.step step).picture.motors.lastError = _
  rw [picture_step, Step.withholds, Step.code?]
  cases step.notice? with
  | none => rfl
  | some notice => exact Picture.lastError_learn notice

/-- After some steps, the last error is the latest code, or is none if that was lost. -/
theorem lastError_perform (unknown : supervisor.motors.lastError = none) (steps : List (Step T)) :
    (Lost steps → (supervisor.perform steps).motors.lastError = none) ∧
      (¬ Lost steps → (supervisor.perform steps).motors.lastError = (codes steps).getLast?) := by
  induction steps using List.reverseRecOn with
  | nil => exact ⟨fun lost => absurd lost not_since_nil, fun _ => unknown⟩
  | append_singleton before last inductionHypothesis =>
    obtain ⟨whenLost, whenKept⟩ := inductionHypothesis
    rw [perform_append, perform_cons, perform_nil, lastError_step, lost_append_singleton,
      codes_append_singleton]
    cases code : last.code? with
    | some code =>
      have tells : last.withholds = false := by
        refine Bool.eq_false_iff.mpr fun withholds => ?_
        rw [Step.code?_eq_none_of_withholds withholds] at code
        cases code
      rw [tells, Option.toList_some, List.getLast?_concat]
      exact ⟨fun lost => absurd lost.1 nofun, fun _ => rfl⟩
    | none =>
      rw [Option.toList_none, List.append_nil]
      cases withholds : last.withholds with
      | true =>
        refine ⟨fun _ => rfl, fun kept => ?_⟩
        have none_known : codes before = [] := by
          by_contra known
          exact kept ⟨rfl, .inr ⟨known, rfl⟩⟩
        rw [none_known]
        rfl
      | false =>
        constructor
        · rintro ⟨-, lost | ⟨-, impossible⟩⟩
          · exact whenLost lost
          · cases impossible
        · exact fun kept => whenKept fun lost => kept ⟨rfl, .inl lost⟩

/-- At any point of a run, the last error is the latest code that the motors reported in
either kind of report, unless an error report without a code came after it; then it is none.
A status report whose code is missing or too short leaves the last error, and such an error
report takes it away. -/
theorem lastError_of_latest_code {store : Store} (built : Built store supervisor)
    (operations : List (Operation T)) :
    ∀ before after, supervisor.steps operations = before ++ after →
      let state := supervisor.perform before
      (state.status.motors.lastError = (codes before).getLast? ↔ ¬ Lost before) ∧
      (Lost before → state.status.motors.lastError = none) ∧
      ∀ (step : Step T) (message : Message), step.handled? = some (.motors, message) →
        (∀ value, message.value? .errorReport = some value → value.length < 4) →
        (message.reply? = some .statusReport →
          (state.step step).status.motors.lastError = state.status.motors.lastError) ∧
        (message.reply? = some .errorReport →
          (state.step step).status.motors.lastError = none) := by
  intro before after _ state
  have unknown : supervisor.motors.lastError = none := by
    obtain ⟨settings, -, rfl⟩ := built.exists_settings
    rfl
  obtain ⟨whenLost, whenKept⟩ := lastError_perform unknown before
  refine ⟨⟨fun latest lost => ?_, whenKept⟩, whenLost, ?_⟩
  · have nothing : (codes before).getLast? = none := latest.symm.trans (whenLost lost)
    exact lost.codes_ne_nil (List.getLast?_eq_none_iff.mp nothing)
  · intro step message handled short
    have missing := Message.errorReport?_eq_none_iff.mpr short
    have stepped : (state.step step).status.motors.lastError = _ := lastError_step step
    rw [stepped, Step.withholds, Step.code?, Step.notice?_of_handled handled, Message.notice?]
    constructor
    · intro report
      simp only [report, Option.any_some, Notice.withholds, Option.bind_some, Notice.code?, missing]
      rfl
    · intro failed
      simp only [failed, Option.any_some, Notice.withholds, missing]
      rfl

/-- The code of a status report outlives a status report without one. It is gone after an error
report whose code is a byte short, and a later code takes its place. -/
theorem lastError_of_latest_code_short_field :
    let short := (Message.ofReply .errorReport).push .errorReport [0, 0, 7]
    let coded : List Step := [
      .call (.handle .motors ((Message.ofReply .statusReport).addErrorReport 17) 0),
      .call (.handle .motors (.ofReply .statusReport) 1)]
    let state := (initial .memory .default).perform coded
    let later : List Step := [.call (.handle .motors short 2),
      .call (.handle .motors ((Message.ofReply .errorReport).addErrorReport 5) 3)]
    state.status.motors.lastError = some 17 ∧
      (state.step (.call (.handle .motors short 2))).status.motors.lastError = none ∧
      (state.perform later).status.motors.lastError = some 5 := by
  intro short coded state later
  let operations : List Operation := [
    .call (.handle .motors ((Message.ofReply .statusReport).addErrorReport 17) 0),
    .call (.handle .motors (.ofReply .statusReport) 1), .call (.handle .motors short 2),
    .call (.handle .motors ((Message.ofReply .errorReport).addErrorReport 5) 3)]
  have built : Built .memory (initial .memory .default) := .inr ⟨.default, rfl⟩
  have told := lastError_of_latest_code built operations
  have missing : ∀ value, short.value? .errorReport = some value → value.length < 4 := by
    rintro value ⟨⟩
    decide
  obtain ⟨first, -, stepped⟩ := told coded later rfl
  obtain ⟨last, -⟩ := told (coded ++ later) [] rfl
  have firstKept : ¬ Lost coded := by
    intro lost
    rcases (@lost_append_singleton Channel (coded.take 1) _).mp lost with ⟨-, lost | ⟨-, withholds⟩⟩
    · cases ((@lost_append_singleton Channel [] _).mp lost).1
    · cases withholds
  have lastKept : ¬ Lost (coded ++ later) := by
    intro lost
    cases ((@lost_append_singleton Channel (coded ++ later.take 1) _).mp lost).1
  have last_eq := last.mpr lastKept
  rw [perform_append] at last_eq
  exact ⟨first.mpr firstKept, (stepped _ short rfl missing).2 rfl, last_eq⟩

/-- The motors report an error with a code and then one without. The code is forgotten. -/
theorem code_forgotten_after_error_without_code :
    let operations : List Operation := [
      .call (.handle .motors ((Message.ofReply .errorReport).addErrorReport 17) 0),
      .call (.handle .motors (.ofReply .errorReport) 1)]
    let supervisor := initial .memory .default
    (codes (supervisor.steps operations)).getLast? = some 17 ∧
      (supervisor.run operations).status.motors.lastError = none := by
  decide +kernel

end Supervisor

end OpticalLink
