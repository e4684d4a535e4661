import Mathlib.Data.List.Induction
import OpticalLink.Proofs.History
import OpticalLink.Proofs.Supervisor.Picture
import OpticalLink.Proofs.Survey.Cells

/-!
# What the survey holds

Each report of a position surveys the receive power that is then in effect. A cell holds the
power of the latest report from it since the survey began, which
`Supervisor.survey_of_latest_reports` says for any point of a run.
-/

namespace OpticalLink

/-- Whether a notice begins the survey again. -/
def Notice.resets : Notice → Bool
  | .reset => true
  | _ => false

/-- Whether a position falls into a cell of a grid. -/
def SurveyGrid.holds (grid : SurveyGrid) (xBin yBin : Nat) (position : Position) : Bool :=
  grid.bin position.x == xBin && grid.bin position.y == yBin

namespace Picture

variable {picture : Picture}

/-- No notice changes where positions fall. -/
theorem bin_learn (notice : Notice) : (picture.learn notice).survey.bin = picture.survey.bin := by
  cases notice with
  | report message =>
    rw [learn]
    cases message.motorPosition? <;> rfl
  | _ => rfl

/-- A position surveys the receive power in its cell. -/
theorem get?_locate (position : Position) (xBin yBin : Nat) :
    (picture.locate position).survey.get? xBin yBin =
      if picture.survey.holds xBin yBin position then some picture.transceiver.rxPower
      else picture.survey.get? xBin yBin := by
  have updated := picture.survey.get?_update position.x position.y picture.transceiver.rxPower
    xBin yBin
  rw [locate, updated, SurveyGrid.holds]
  simp only [Bool.and_eq_true, beq_iff_eq]

/-- A reset empties a cell, a position in it brings in the receive power, and all else leaves
it. -/
theorem get?_learn (notice : Notice) (xBin yBin : Nat) :
    (picture.learn notice).survey.get? xBin yBin =
      if notice.resets then none
      else if notice.position?.any (picture.survey.holds xBin yBin) then
        some (picture.learn notice).transceiver.rxPower
      else picture.survey.get? xBin yBin := by
  cases notice with
  | report message =>
    rw [learn, Notice.position?]
    cases message.motorPosition? with
    | none => rfl
    | some position => exact get?_locate position xBin yBin
  | reset => exact SurveyGrid.get?_reset picture.survey xBin yBin
  | _ => rfl

end Picture

namespace Supervisor

variable {T : Type}

/-- Whether a step begins the survey again. -/
def Step.resets (step : Step T) : Bool := step.notice?.any Notice.resets

/-- Whether the motors report a position in a cell in the message that a step handles. -/
def Step.surveys (grid : SurveyGrid) (xBin yBin : Nat) (step : Step T) : Bool :=
  step.reportedPosition?.any (grid.holds xBin yBin)

/-- The receive power that becomes known in a step: the motors report it, or the transceiver is
read. -/
def Step.power? (step : Step T) : Option Milliwatts := step.notice?.bind Notice.power?

/-- The receive power in effect after some steps: the latest that became known, or zero at the
beginning. -/
def powerAfter (steps : List (Step T)) : Milliwatts :=
  (steps.filterMap Step.power?).getLast?.getD 0.0

variable {supervisor : Supervisor T} {xBin yBin : Nat}

/-- What reports a position begins no survey. -/
theorem Step.resets_eq_false_of_surveys {grid : SurveyGrid} {step : Step T}
    (surveys : step.surveys grid xBin yBin = true) : step.resets = false := by
  rw [Step.surveys, Step.reportedPosition?_eq] at surveys
  rw [Step.resets]
  cases meaning : step.notice? with
  | none => rfl
  | some notice =>
    rw [meaning] at surveys
    cases notice with
    | reset => cases surveys
    | _ => rfl

variable [Transport T]

/-- A supervisor that knew of no receive power has the one in effect. -/
theorem rxPower_perform (dark : supervisor.transceiver = .dark) (steps : List (Step T)) :
    (supervisor.perform steps).transceiver.rxPower = powerAfter steps := by
  have started : supervisor.picture.transceiver.rxPower = 0.0 := congrArg Transceiver.rxPower dark
  rw [powerAfter, ← started]
  exact latest_perform supervisor (fun picture => picture.transceiver.rxPower) Picture.rxPower_learn
    steps

/-- No step changes where positions fall. -/
theorem bin_perform (steps : List (Step T)) :
    (supervisor.perform steps).survey.bin = supervisor.survey.bin := by
  induction steps generalizing supervisor with
  | nil => rfl
  | cons first rest inductionHypothesis =>
    rw [perform_cons, inductionHypothesis]
    change (supervisor.step first).picture.survey.bin = _
    rw [picture_step]
    cases first.notice? with
    | none => rfl
    | some notice => exact Picture.bin_learn notice

/-- A reset empties a cell, a report of a position in it brings in the receive power, and all
else leaves it. -/
theorem get?_step (step : Step T) (xBin yBin : Nat) :
    (supervisor.step step).survey.get? xBin yBin =
      if step.resets then none
      else if step.surveys supervisor.survey xBin yBin then
        some (supervisor.step step).transceiver.rxPower
      else supervisor.survey.get? xBin yBin := by
  change (supervisor.step step).picture.survey.get? xBin yBin =
    if step.resets then none
    else if step.surveys supervisor.survey xBin yBin then
      some (supervisor.step step).picture.transceiver.rxPower
    else supervisor.survey.get? xBin yBin
  rw [picture_step, Step.resets, Step.surveys, Step.reportedPosition?_eq]
  cases step.notice? with
  | none => rfl
  | some notice => exact Picture.get?_learn notice xBin yBin

/-- The cells of the first grid are those of every later one. -/
theorem surveys_perform (steps : List (Step T)) (step : Step T) :
    step.surveys (supervisor.perform steps).survey xBin yBin =
      step.surveys supervisor.survey xBin yBin := by
  have same : (supervisor.perform steps).survey.holds xBin yBin =
      supervisor.survey.holds xBin yBin := by
    funext position
    rw [SurveyGrid.holds, bin_perform, SurveyGrid.holds]
  rw [Step.surveys, same, Step.surveys]

/-! ## The cells after a run -/

/-- Nothing is known of the unit at the beginning: no power, and no cell was surveyed. -/
structure Fresh (supervisor : Supervisor T) : Prop where
  dark : supervisor.transceiver = .dark
  unsurveyed : ∀ xBin yBin, supervisor.survey.get? xBin yBin = none

omit [Transport T] in
theorem Built.fresh {store : Store} (built : Built store supervisor) : Fresh supervisor := by
  obtain ⟨settings, -, rfl⟩ := built.exists_settings
  exact ⟨rfl, SurveyGrid.get?_new settings.surveyBins settings.surveyCoverage⟩

/-- What a cell holds after one more step. -/
theorem Fresh.get?_append_singleton (fresh : Fresh supervisor) (before : List (Step T))
    (last : Step T) (xBin yBin : Nat) :
    (supervisor.perform (before ++ [last])).survey.get? xBin yBin =
      if last.resets then none
      else if last.surveys supervisor.survey xBin yBin then some (powerAfter (before ++ [last]))
      else (supervisor.perform before).survey.get? xBin yBin := by
  have power := rxPower_perform fresh.dark (before ++ [last])
  rw [perform_append, perform_cons, perform_nil] at power ⊢
  rw [get?_step, surveys_perform, power]

/-- A cell holds a power if the motors have reported a position in it since the last reset. -/
theorem Fresh.exists_get?_iff (fresh : Fresh supervisor) (steps : List (Step T)) (xBin yBin : Nat) :
    (∃ power, (supervisor.perform steps).survey.get? xBin yBin = some power) ↔
      Since (fun _ step => step.surveys supervisor.survey xBin yBin = true)
        (fun later => later.resets = false) steps := by
  induction steps using List.reverseRecOn with
  | nil =>
    rw [perform_nil, fresh.unsurveyed]
    exact iff_of_false nofun not_since_nil
  | append_singleton before last inductionHypothesis =>
    rw [since_append_singleton, ← inductionHypothesis, fresh.get?_append_singleton]
    cases surveys : last.surveys supervisor.survey xBin yBin with
    | true => simp [Step.resets_eq_false_of_surveys surveys]
    | false => cases last.resets <;> simp

/-- A cell holds the power in effect at the latest report of a position in it, unless the survey
was begun again since. -/
theorem Fresh.get?_eq_some_iff (fresh : Fresh supervisor) (steps : List (Step T)) (xBin yBin : Nat)
    (power : Milliwatts) :
    (supervisor.perform steps).survey.get? xBin yBin = some power ↔
      Since (fun earlier step => step.surveys supervisor.survey xBin yBin = true ∧
          power = powerAfter (earlier ++ [step]))
        (fun later => later.resets = false ∧
          later.surveys supervisor.survey xBin yBin = false) steps := by
  induction steps using List.reverseRecOn with
  | nil =>
    rw [perform_nil, fresh.unsurveyed]
    exact iff_of_false nofun not_since_nil
  | append_singleton before last inductionHypothesis =>
    rw [since_append_singleton, ← inductionHypothesis, fresh.get?_append_singleton]
    cases surveys : last.surveys supervisor.survey xBin yBin with
    | true => simp [Step.resets_eq_false_of_surveys surveys, eq_comm]
    | false => cases last.resets <;> simp

/-- At any point of a run, a cell is among the points of the survey if the motors have reported a
position in it since the survey began, and only then. Its power is the one in effect at the
latest such report: the one in that report or else the latest that became known before it. -/
theorem survey_of_latest_reports {store : Store} (built : Built store supervisor)
    (operations : List (Operation T)) :
    ∀ before after, supervisor.steps operations = before ++ after →
      ∀ xBin yBin,
        let points := (supervisor.perform before).survey.snapshot.points
        let surveys := fun step : Step T => step.surveys supervisor.survey xBin yBin
        ((∃ power, ⟨xBin, yBin, power⟩ ∈ points) ↔
          Since (fun _ step => surveys step = true) (fun later => later.resets = false) before) ∧
        ∀ power, ⟨xBin, yBin, power⟩ ∈ points ↔
          Since (fun earlier step => surveys step = true ∧ power = powerAfter (earlier ++ [step]))
            (fun later => later.resets = false ∧ surveys later = false) before := by
  intro before after _ xBin yBin points surveys
  have fresh := built.fresh
  have listed (power : Milliwatts) : ⟨xBin, yBin, power⟩ ∈ points ↔
      (supervisor.perform before).survey.get? xBin yBin = some power :=
    SurveyGrid.mem_points_iff _ ⟨xBin, yBin, power⟩
  simp only [listed]
  exact ⟨fresh.exists_get?_iff before xBin yBin, fresh.get?_eq_some_iff before xBin yBin⟩

/-- The motors report their position with a power, in a cell that a reset then empties. A report
from far outside, without a power, gives its outermost cell the power that was read last, though
commits fail and the accelerometer reports another. -/
theorem survey_of_latest_reports_after_reset :
    let report := fun position => (Message.ofReply .statusReport).addMotorPosition position
    let started := initial .memory .default
    let measured : List Step :=
      [.call (.handle .motors ((report ⟨0, 0, 0⟩).addPowerReading 1234) 0)]
    let emptied := measured ++ [.call .resetSurvey]
    let found := emptied ++ [.call (.failCommits true),
      .call (.updateTransceiver ⟨1.0, 0.25⟩), .call (.handle .motors (report ⟨1000000, 10, 0⟩) 1),
      .call (.handle .accelerometer ((report ⟨1000000, 10, 0⟩).addPowerReading 7) 2)]
    ⟨50, 50, milliwattsOfReading 1234⟩ ∈ (started.perform measured).survey.snapshot.points ∧
      (∀ power, ⟨50, 50, power⟩ ∉ (started.perform emptied).survey.snapshot.points) ∧
      ⟨99, 50, 0.25⟩ ∈ (started.perform found).survey.snapshot.points := by
  intro report started measured emptied found
  let operations : List Operation :=
    [.call (.handle .motors ((report ⟨0, 0, 0⟩).addPowerReading 1234) 0),
      .call .resetSurvey, .call (.failCommits true), .call (.updateTransceiver ⟨1.0, 0.25⟩),
      .call (.handle .motors (report ⟨1000000, 10, 0⟩) 1),
      .call (.handle .accelerometer ((report ⟨1000000, 10, 0⟩).addPowerReading 7) 2)]
  have built : Built .memory started := .inr ⟨.default, rfl⟩
  have told := survey_of_latest_reports built operations
  refine ⟨?_, fun power listed => ?_, ?_⟩
  · refine ((told measured (found.drop 1) rfl 50 50).2 _).mpr
      ⟨[], _, [], rfl, ⟨by decide +kernel, rfl⟩, nofun⟩
  · have populated := (told emptied (found.drop 2) rfl 50 50).1.mp ⟨power, listed⟩
    rcases since_append_singleton.mp populated with surveys | ⟨kept, -⟩
    · cases surveys
    · cases kept
  · refine ((told found [] rfl 99 50).2 _).mpr
      ⟨found.take 4, _, found.drop 5, rfl, ⟨by decide +kernel, rfl⟩, fun later member => ?_⟩
    rw [List.mem_singleton.mp member]
    exact ⟨rfl, rfl⟩

end Supervisor

end OpticalLink
