import OpticalLink.Proofs.Supervisor.Archive
import OpticalLink.Proofs.Supervisor.Ledger

/-!
# Keeping the position of the motors

`Supervisor.ledger_perform` says that a supervisor follows its ledger: whatever is done to
it, only reported positions in range are entered. With what the ledger tracks,
`Supervisor.holds_reported_position_iff` says which reports leave another position in the
store than the one they carry.
-/

namespace OpticalLink

/-! ## The ledger of an archive -/

namespace Archive

variable {archive : Archive}

/-- What an archive has in its ledger. -/
def ledger (archive : Archive) : Ledger where
  persisted := archive.persisted
  stored := archive.store.storedAim
  rangeX := archive.rangeX
  rangeY := archive.rangeY

/-- What an entry lets be seen of the motors. -/
def sighting? (archive : Archive) : Entry → Option Sighting
  | .report position =>
    if archive.covers position then
      some ⟨position.aim, (archive.store.setAim position.aim).commit.1.isOk⟩
    else none
  | _ => none

/-- A position that is made durable, or not, is entered into the ledger. -/
theorem ledger_keep (aim : Aim) :
    (archive.keep aim).ledger =
      archive.ledger.sight ⟨aim, (archive.store.setAim aim).commit.1.isOk⟩ := by
  by_cases same : archive.persisted = some aim
  · rw [keep_of_eq same, Ledger.sight_of_eq same]
  · have stored : (archive.keep aim).store.storedAim = aim.stored := by
      rw [storedAim_keep, if_neg same]
    rw [Ledger.sight_of_ne same, ledger, stored, keep_of_ne same]
    rfl

/-- An entry enters into the ledger what it lets be seen. -/
theorem ledger_enter (entry : Entry) :
    (archive.enter entry).ledger =
      (archive.sighting? entry).elim archive.ledger archive.ledger.sight := by
  cases entry with
  | report position =>
    rw [enter, sighting?]
    split
    next covered => exact ledger_keep position.aim
    next outside => rfl
  | calibrate offsetX offsetY =>
    exact congrArg (Ledger.mk archive.persisted · _ _) (storedAim_enter_of_not_report nofun)
  | setDistance distance =>
    exact congrArg (Ledger.mk archive.persisted · _ _) (storedAim_enter_of_not_report nofun)
  | failCommits fail =>
    exact congrArg (Ledger.mk archive.persisted · _ _) (storedAim_enter_of_not_report nofun)
  | changeVolume volume => rfl

end Archive

/-! ## The ledger of a supervisor -/

namespace Supervisor

variable {supervisor : Supervisor}

/-- What a supervisor has in its ledger. -/
def ledger (supervisor : Supervisor) : Ledger where
  persisted := supervisor.persisted
  stored := supervisor.store.storedAim
  rangeX := supervisor.motors.rangeX
  rangeY := supervisor.motors.rangeY

/-- Whether a position that is put into the store could be made durable. -/
def canPersist (supervisor : Supervisor) (aim : Aim) : Bool :=
  (supervisor.store.setAim aim).commit.1.isOk

/-- What a message from a peer lets the supervisor see of the motors. -/
def sightingIn? (supervisor : Supervisor) (peer : Peer) (message : Message) : Option Sighting :=
  match peer with
  | .motors =>
    (message.reportedPosition?.filter supervisor.motors.inRange).map fun position =>
      ⟨position.aim, supervisor.canPersist position.aim⟩
  | .accelerometer => none

/-- What a step lets the supervisor see of the motors. -/
def sighting? (supervisor : Supervisor) (step : Step) : Option Sighting :=
  step.handled?.bind fun handled => supervisor.sightingIn? handled.1 handled.2

/-- What some steps let the supervisor see of the motors. -/
def sightings (supervisor : Supervisor) : List Step → List Sighting
  | [] => []
  | first :: rest => (supervisor.sighting? first).toList ++ (supervisor.step first).sightings rest

/-- A step lets the supervisor see what it means for the archive. -/
theorem sighting?_eq (step : Step) :
    supervisor.sighting? step = step.entry?.bind supervisor.archive.sighting? := by
  have seen (peer : Peer) (message : Message) : supervisor.sightingIn? peer message =
      ((message.positionFrom? peer).map .report).bind supervisor.archive.sighting? := by
    cases peer with
    | accelerometer => rfl
    | motors =>
      rw [sightingIn?, Message.positionFrom?]
      cases message.reportedPosition? with
      | none => rfl
      | some position =>
        rw [Option.filter_some]
        change _ = if supervisor.motors.inRange position then _ else _
        split <;> rfl
  cases step with
  | call call =>
    cases call with
    | handle peer message now => exact seen peer message
    | _ => rfl
  | handleReceived peer message now => exact seen peer message
  | _ => rfl

/-- A step enters into the ledger what it lets the supervisor see, and nothing else. -/
theorem ledger_step (step : Step) :
    (supervisor.step step).ledger =
      (supervisor.sighting? step).elim supervisor.ledger supervisor.ledger.sight := by
  change (supervisor.step step).archive.ledger = _
  rw [archive_step, sighting?_eq]
  cases step.entry? with
  | none => rfl
  | some entry => exact Archive.ledger_enter entry

/-- A supervisor follows its ledger. -/
theorem ledger_perform (steps : List Step) :
    (supervisor.perform steps).ledger =
      (supervisor.sightings steps).foldl Ledger.sight supervisor.ledger := by
  induction steps generalizing supervisor with
  | nil => rfl
  | cons first rest inductionHypothesis =>
    rw [perform_cons, inductionHypothesis, ledger_step, sightings, List.foldl_append]
    cases supervisor.sighting? first <;> rfl

/-! ## Reports and the store -/

/-- A supervisor is built from its store and settings. -/
theorem eq_initial_of_withSettings_eq_ok {store : Store} {settings : Settings}
    (built : withSettings store settings = .ok supervisor) : supervisor = initial store settings :=
  (withSettings_eq_ok_iff.mp built).2.symm

/-- The ledger of a supervisor tracks what the supervisor has seen since it was built. -/
theorem tracks_perform {store : Store} {settings : Settings}
    (built : withSettings store settings = .ok supervisor) (steps : List Step) :
    (supervisor.perform steps).ledger.Tracks (supervisor.sightings steps) := by
  obtain rfl := eq_initial_of_withSettings_eq_ok built
  have nothing : (initial store settings).ledger.persisted = none := rfl
  rw [ledger_perform]
  exact (Ledger.tracks_nil nothing).sightAll _

/-- A position in the travel of the settings is in range throughout. -/
theorem inRange_perform_of_withSettings {store : Store} {settings : Settings}
    (built : withSettings store settings = .ok supervisor) (steps : List Step)
    {position : Position} (inRangeX : position.x.toInt.natAbs ≤ settings.rangeX.toNat)
    (inRangeY : position.y.toInt.natAbs ≤ settings.rangeY.toNat) :
    (supervisor.perform steps).motors.inRange position = true := by
  obtain rfl := eq_initial_of_withSettings_eq_ok built
  rw [inRange_perform]
  exact (MotorStatus.inRange_iff _ position).mpr ⟨inRangeX, inRangeY⟩

/-- Of steps that go on, what is seen goes on. -/
theorem sightings_append (first second : List Step) :
    supervisor.sightings (first ++ second) =
      supervisor.sightings first ++ (supervisor.perform first).sightings second := by
  induction first generalizing supervisor with
  | nil => rfl
  | cons step rest inductionHypothesis =>
    rw [List.cons_append, sightings, inductionHypothesis, sightings, List.append_assoc, perform_cons]

/-- What is seen in a status report with a position in range. -/
theorem sighting?_eq_some {step : Step} {message : Message} {position : Position}
    (handled : step.handled? = some (.motors, message))
    (report : message.reply? = some .statusReport)
    (reported : message.motorPosition? = some position)
    (inRange : supervisor.motors.inRange position = true)
    (durable : (supervisor.store.setAim position.aim).commit.1 = .ok ()) :
    supervisor.sighting? step = some ⟨position.aim, true⟩ := by
  have canPersist_eq : supervisor.canPersist position.aim = true := by
    rw [canPersist, durable]
    rfl
  rw [sighting?, handled, Option.bind_some, sightingIn?, Message.reportedPosition?,
    if_pos report, reported, Option.filter_some, if_pos inRange, Option.map_some, canPersist_eq]

/-- What is stored after a sighting whose position could be made durable. -/
theorem stored_of_sighting {store : Store} {settings : Settings}
    (built : withSettings store settings = .ok supervisor) {before : List Step} {step : Step}
    {aim : Aim} (seen : (supervisor.perform before).sighting? step = some ⟨aim, true⟩) :
    ∃ kept : Aim, ((supervisor.perform before).step step).store.storedAim = kept.stored ∧
      (kept = aim ↔ ¬ Stale (supervisor.sightings before) aim) := by
  have sightings_eq : supervisor.sightings (before ++ [step]) =
      supervisor.sightings before ++ [⟨aim, true⟩] := by
    rw [sightings_append, sightings, seen]
    rfl
  have tracks := tracks_perform built (before ++ [step])
  rw [sightings_eq, perform_append] at tracks
  have persisted := (tracks.persisted_iff aim).mpr
    (exists_standing_append_singleton.mpr (.inl rfl))
  obtain ⟨kept, stored, fresh⟩ := tracks.stored aim persisted
  rw [stale_append_durable] at fresh
  exact ⟨kept, stored, fresh⟩

/-- Steps that do not let the motors be seen leave the stored position. -/
theorem storedAim_perform {steps : List Step} (unseen : supervisor.sightings steps = []) :
    (supervisor.perform steps).store.storedAim = supervisor.store.storedAim := by
  have unchanged : (supervisor.perform steps).ledger = supervisor.ledger := by
    rw [ledger_perform, unseen, List.foldl_nil]
  exact congrArg Ledger.stored unchanged

/-- A supervisor starts at the position that its store has. -/
theorem position_of_withSettings_eq_ok {store : Store} {settings : Settings}
    (built : withSettings store settings = .ok supervisor) {kept : Aim}
    (stored : store.storedAim = kept.stored) :
    supervisor.motors.position = ⟨kept.x, kept.y, 0⟩ := by
  have aim_eq : store.aim = kept := (Store.holds_of_storedAim_eq stored).aim_eq
  rw [eq_initial_of_withSettings_eq_ok built, ← aim_eq]
  rfl

/-- At some point of a run, the motors report a position in range, and the store could make
it durable. The store holds the position afterwards exactly if it has not fallen behind. If
the motors are not seen again, a later commit and a new start from the store restore the
position, again exactly if the store has not fallen behind. -/
theorem holds_reported_position_iff {store : Store} {settings : Settings}
    (built : withSettings store settings = .ok supervisor) {operations : List Operation}
    {before after : List Step} {step : Step}
    (taken : supervisor.steps operations = before ++ step :: after)
    {message : Message} (handled : step.handled? = some (.motors, message))
    (report : message.reply? = some .statusReport)
    {position : Position} (reported : message.motorPosition? = some position)
    (inRangeX : position.x.toInt.natAbs ≤ settings.rangeX.toNat)
    (inRangeY : position.y.toInt.natAbs ≤ settings.rangeY.toNat)
    (durable : ((supervisor.perform before).store.setAim position.aim).commit.1 = .ok ()) :
    let stale := Stale (supervisor.sightings before) position.aim
    let next := (supervisor.perform before).step step
    (next.store.Holds position.aim ↔ ¬ stale) ∧
      (next.sightings after = [] → ∀ committed settings' restarted,
        (supervisor.run operations).store.commit = (.ok (), committed) →
        withSettings committed settings' = .ok restarted →
        (restarted.motors.position = ⟨position.x, position.y, 0⟩ ↔ ¬ stale)) := by
  intro stale next
  have inRange := inRange_perform_of_withSettings built before inRangeX inRangeY
  obtain ⟨kept, stored, fresh⟩ :=
    stored_of_sighting built (sighting?_eq_some handled report reported inRange durable)
  refine ⟨(Store.holds_iff_of_storedAim_eq stored).trans fresh, ?_⟩
  intro unseen committed settings' restarted success restart
  have run_eq : supervisor.run operations = next.perform after := by
    rw [← perform_steps, taken, perform_append, perform_cons]
  have committed_eq : committed = (supervisor.run operations).store.commit.2 := by rw [success]
  have committedAim_eq : committed.storedAim = kept.stored := by
    rw [committed_eq, Store.storedAim_commit, run_eq, storedAim_perform unseen]
    exact stored
  rw [position_of_withSettings_eq_ok restart committedAim_eq, ← fresh]
  constructor
  · intro same
    injection same with sameX sameY
    rw [Position.aim, ← sameX, ← sameY]
  · rintro rfl
    rfl

/-- A position whose commit fails is followed by another one that is made durable. -/
theorem holds_reported_position_after_failed_commit :
    let report (position : Position) := (Message.ofReply .statusReport).addMotorPosition position
    let session := (initial .memory .default).run [.call (.failCommits true),
      .call (.handle .motors (report ⟨100, 100, 0⟩) 0), .call (.failCommits false),
      .call (.handle .motors (report ⟨200, 200, 0⟩) 1)]
    session.store.Holds ⟨200, 200⟩ ∧
      (initial session.store.commit.2 .default).motors.position = ⟨200, 200, 0⟩ := by
  intro report session
  let before : List Step := [.call (.failCommits true),
    .call (.handle .motors (report ⟨100, 100, 0⟩) 0), .call (.failCommits false)]
  have built : withSettings .memory .default = .ok (initial .memory .default) := rfl
  have taken : (initial .memory .default).steps [.call (.failCommits true),
      .call (.handle .motors (report ⟨100, 100, 0⟩) 0), .call (.failCommits false),
      .call (.handle .motors (report ⟨200, 200, 0⟩) 1)] =
      before ++ .call (.handle .motors (report ⟨200, 200, 0⟩) 1) :: [] := rfl
  have fresh : ¬ Stale ((initial .memory .default).sightings before) ⟨200, 200⟩ :=
    not_stale_of_not_mem (by decide +kernel)
  have success : session.store.commit = (.ok (), session.store.commit.2) := rfl
  have restart : withSettings session.store.commit.2 .default =
    .ok (initial session.store.commit.2 .default) := rfl
  obtain ⟨holds, restored⟩ := holds_reported_position_iff built taken rfl rfl rfl
    (by decide) (by decide) rfl
  exact ⟨holds.mpr fresh, (restored rfl _ _ _ success restart).mpr fresh⟩

/-- A position is made durable, the commit of another one fails, and the first one is
reported again when commits succeed. The store keeps the other one. -/
theorem other_position_kept_after_failed_commit :
    let report (position : Position) := (Message.ofReply .statusReport).addMotorPosition position
    let session := (initial .memory .default).run [
      .call (.handle .motors (report ⟨100, 100, 0⟩) 0), .call (.failCommits true),
      .call (.handle .motors (report ⟨200, 200, 0⟩) 1), .call (.failCommits false),
      .call (.handle .motors (report ⟨100, 100, 0⟩) 2)]
    (session.store.setAim ⟨100, 100⟩).commit.1.isOk = true ∧
      session.motors.position = ⟨100, 100, 0⟩ ∧
      session.store.getInt Key.lastX 0 = 200 ∧ session.store.getInt Key.lastY 0 = 200 := by
  decide +kernel

end Supervisor

end OpticalLink
