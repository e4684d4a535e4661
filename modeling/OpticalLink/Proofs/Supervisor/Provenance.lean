import OpticalLink.Proofs.Supervisor.Archive

/-!
# Where the stored position comes from

The two coordinates of a position are put into the store one after the other, and a commit
that fails leaves them there. `Supervisor.stored_position_of_report` says that they belong
together all the same: at every point of a run, they are those that the store had when the
supervisor was built, or those of one report of the motors with a position in range.
-/

namespace OpticalLink

/-- The position lies within the travel on both axes. -/
def Settings.Covers (settings : Settings) (position : Position) : Prop :=
  position.x.toInt.natAbs ≤ settings.rangeX.toNat ∧
    position.y.toInt.natAbs ≤ settings.rangeY.toNat

instance (settings : Settings) : DecidablePred settings.Covers :=
  fun _ => inferInstanceAs (Decidable (_ ∧ _))

/-- The stored position after some entries is the one before, or that of an entered report
with a position in range. -/
theorem Archive.storedAim_enterAll {archive : Archive} (entries : List Entry) :
    (entries.foldl enter archive).store.storedAim = archive.store.storedAim ∨
      ∃ position, .report position ∈ entries ∧ archive.covers position = true ∧
        (entries.foldl enter archive).store.storedAim = position.aim.stored := by
  induction entries generalizing archive with
  | nil => exact .inl rfl
  | cons first rest inductionHypothesis =>
    rw [List.foldl_cons]
    rcases @inductionHypothesis (archive.enter first) with kept | ⟨position, member, covered, stored⟩
    · rw [kept]
      exact (storedAim_enter first).imp_right fun ⟨position, same, covered, stored⟩ =>
        ⟨position, by rw [same]; exact List.mem_cons_self, covered, stored⟩
    · rw [covers_enter] at covered
      exact .inr ⟨position, List.mem_cons_of_mem first member, covered, stored⟩

namespace Supervisor

variable {T : Type} [Transport T]

variable {supervisor : Supervisor T}

/-- The settings decide what is in range, throughout. -/
theorem Built.inRange_perform_iff {store : Store} (built : Built store supervisor)
    (steps : List (Step T)) {position : Position} :
    (supervisor.perform steps).motors.inRange position = true ↔
      supervisor.settings.Covers position := by
  obtain ⟨settings, valid, rfl⟩ := built.exists_settings
  rw [inRange_perform, MotorStatus.inRange_iff]
  rfl

/-- The stored position after some steps is the one before, or that of a report among them
with a position in range. -/
theorem Built.storedAim_perform {store : Store} (built : Built store supervisor)
    (before more : List (Step T)) :
    ((supervisor.perform before).perform more).store.storedAim =
        (supervisor.perform before).store.storedAim ∨
      ∃ step ∈ more, ∃ position, step.reportedPosition? = some position ∧
        supervisor.settings.Covers position ∧
        ((supervisor.perform before).perform more).store.storedAim = position.aim.stored := by
  have entered := @Archive.storedAim_enterAll (supervisor.perform before).archive
    (more.filterMap Step.entry?)
  rw [← archive_perform] at entered
  refine entered.imp_right ?_
  rintro ⟨position, member, covered, stored⟩
  obtain ⟨step, among, means⟩ := List.mem_filterMap.mp member
  exact ⟨step, among, position, Step.entry?_eq_report_iff.mp means,
    (built.inRange_perform_iff before).mp covered, stored⟩

/-- A report with a position in range stores it, unless the last successful commit of a
position wrote the same. -/
theorem Built.storedAim_step_of_covers {store : Store} (built : Built store supervisor)
    (before : List (Step T)) {step : Step T} {position : Position}
    (reported : step.reportedPosition? = some position)
    (covered : supervisor.settings.Covers position) :
    let state := supervisor.perform before
    (state.step step).store.storedAim =
      if state.persisted = some position.aim then state.store.storedAim
      else position.aim.stored := by
  intro state
  have inRange : state.archive.covers position = true := (built.inRange_perform_iff before).mpr covered
  have entered : (state.step step).archive = state.archive.keep position.aim := by
    rw [archive_step, Step.entry?_eq_report_iff.mpr reported, Option.elim_some,
      Archive.enter_report_of_covers inRange]
  exact (congrArg (fun archive => archive.store.storedAim) entered).trans Archive.storedAim_keep

/-- At any point of a run, whichever commits have failed, the stored position is the one that
the store had in the beginning, or that of one report of the motors with a position in range.
Such a report stores its position, unless the last successful commit of a position wrote the
same. No other message and nothing else that is done changes the stored position. -/
theorem stored_position_of_report {store : Store} (built : Built store supervisor)
    (operations : List (Operation T)) :
    ∀ before after, supervisor.steps operations = before ++ after →
      let state := supervisor.perform before
      (state.store.storedAim = store.storedAim ∨
        ∃ step ∈ before, ∃ position, step.reportedPosition? = some position ∧
          supervisor.settings.Covers position ∧ state.store.storedAim = position.aim.stored) ∧
      (∀ step : Step T, ∀ position, step.reportedPosition? = some position →
        supervisor.settings.Covers position →
        (state.step step).store.storedAim =
          if state.persisted = some position.aim then state.store.storedAim
          else position.aim.stored) ∧
      (∀ step : Step T, (∀ position, step.reportedPosition? = some position →
          ¬ supervisor.settings.Covers position) →
        (state.step step).store.storedAim = state.store.storedAim) ∧
      ∀ operation, (∀ step ∈ state.operationSteps operation, ∀ position,
          step.reportedPosition? = some position → ¬ supervisor.settings.Covers position) →
        (state.operate operation).store.storedAim = state.store.storedAim := by
  intro before after _ state
  have unreported {more : List (Step T)} (outside : ∀ step ∈ more, ∀ position,
      step.reportedPosition? = some position → ¬ supervisor.settings.Covers position) :
      (state.perform more).store.storedAim = state.store.storedAim := by
    rcases built.storedAim_perform before more with kept | ⟨step, member, position, reported, covered, _⟩
    · exact kept
    · exact absurd covered (outside step member position reported)
  refine ⟨?_, ?_, ?_, ?_⟩
  · have start : supervisor.store = store := by
      obtain ⟨settings, _, rfl⟩ := built.exists_settings
      rfl
    rw [← start]
    exact built.storedAim_perform [] before
  · intro step position reported covered
    exact built.storedAim_step_of_covers before reported covered
  · intro step outside
    exact unreported (List.forall_mem_singleton.mpr outside)
  · intro operation outside
    rw [← perform_operationSteps]
    exact unreported outside

/-- The least coordinate is as far out as the travel goes here. The commit of its report fails,
the report behind the travel of the other axis is not written, and the camera and the other
peer change nothing. -/
theorem stored_position_at_least_coordinate :
    let report (position : Position) := (Message.ofReply .statusReport).addMotorPosition position
    let settings := { Settings.default with rangeX := 2147483648, rangeY := 100 }
    let session := (initial .memory settings).run [.call (.failCommits true),
      .call (.handle .motors (report ⟨-2147483648, 100, 7⟩) 0)]
    session.store.storedAim = Aim.stored ⟨-2147483648, 100⟩ ∧
      ∀ operation ∈ [.call (.handle .motors (report ⟨5, -101, 0⟩) 1),
          .call (.handle .accelerometer (report ⟨5, 5, 0⟩) 1), .call (.calibrate 5 5)],
        (session.operate operation).store.storedAim = session.store.storedAim := by
  intro report settings session
  have built : Built .memory (initial .memory settings) := .inr ⟨settings, rfl⟩
  obtain ⟨stored, _, _, kept⟩ := stored_position_of_report built
    [.call (.failCommits true), .call (.handle .motors (report ⟨-2147483648, 100, 7⟩) 0)]
    [.call (.failCommits true), .call (.handle .motors (report ⟨-2147483648, 100, 7⟩) 0)] [] rfl
  have least : (Step.call (T := Channel)
      (.handle .motors (report ⟨-2147483648, 100, 7⟩) 0)).reportedPosition? =
      some ⟨-2147483648, 100, 7⟩ := rfl
  have behind : (Step.call (T := Channel)
      (.handle .motors (report ⟨5, -101, 0⟩) 1)).reportedPosition? =
      some ⟨5, -101, 0⟩ := rfl
  constructor
  · rcases stored with unchanged | ⟨step, member, position, reported, _, stored⟩
    · exact nomatch congrArg (fun pair => pair.1.isSome) unchanged
    · simp only [List.mem_cons, List.not_mem_nil, or_false] at member
      rcases member with rfl | rfl
      · cases reported
      · obtain rfl := Option.some.inj (least.symm.trans reported)
        exact stored
  · intro operation among
    refine kept operation fun step member position reported => ?_
    simp only [List.mem_cons, List.not_mem_nil, or_false] at among
    rcases among with rfl | rfl | rfl
    · obtain rfl := List.mem_singleton.mp member
      obtain rfl := Option.some.inj (behind.symm.trans reported)
      decide
    · obtain rfl := List.mem_singleton.mp member
      cases reported
    · obtain rfl := List.mem_singleton.mp member
      cases reported

end Supervisor

end OpticalLink
