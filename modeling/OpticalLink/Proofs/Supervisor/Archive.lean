import OpticalLink.Proofs.Store.Lookup
import OpticalLink.Proofs.Supervisor.Run

/-!
# What reaches the store

A run writes to the store in few places: where the motors report a position, and where the
camera is calibrated. `Archive` is the part of a supervisor that decides what is written
there, an `Entry` is what can happen to it, and `Supervisor.archive_perform` says that an
archive follows its entries and nothing else.
-/

namespace OpticalLink

/-- The position in a status report. -/
def Message.reportedPosition? (message : Message) : Option Position :=
  if message.reply? = some .statusReport then message.motorPosition? else none

/-- The position that a message from a peer reports, which only the motors do. -/
def Message.positionFrom? (message : Message) : Peer → Option Position
  | .motors => message.reportedPosition?
  | .accelerometer => none

/-- A message of another kind reports no position. -/
theorem Message.positionFrom?_eq_none {message : Message}
    (other : message.reply? ≠ some .statusReport) (peer : Peer) :
    message.positionFrom? peer = none := by
  cases peer with
  | accelerometer => rfl
  | motors => exact if_neg other

/-! ## Entries -/

/-- What a supervisor keeps of positions, and what decides whether it keeps one. -/
structure Archive where
  store : Store
  /-- What the last successful commit of a position wrote. -/
  persisted : Option Aim
  rangeX : UInt32
  rangeY : UInt32

/-- What can happen to an archive. -/
inductive Entry where
  /-- The motors report a position. -/
  | report (position : Position)
  | calibrate (offsetX offsetY : UInt32)
  | setDistance (distance : UInt32)
  | failCommits (fail : Bool)
  | changeVolume (volume : Volume)

namespace Archive

/-- Whether a position lies within the travel. -/
def covers (archive : Archive) : Position → Bool :=
  (MotorStatus.new archive.rangeX archive.rangeY).inRange

/-- The archive after a position was to be made durable: it is put into the store, unless the
last successful commit wrote it, and remembered if its commit succeeds. -/
def keep (archive : Archive) (aim : Aim) : Archive :=
  if archive.persisted = some aim then archive
  else { archive with
    store := (archive.store.setAim aim).commit.2
    persisted := if (archive.store.setAim aim).commit.1.isOk then some aim else archive.persisted }

/-- The store after the offset of the crosshair was put into it. -/
def calibrated (archive : Archive) (offsetX offsetY : UInt32) : Store :=
  (archive.store.setInt Key.webcamOffsetX offsetX.toNat).setInt Key.webcamOffsetY offsetY.toNat

/-- The store after the distance to the remote unit was put into it. -/
def measured (archive : Archive) (distance : UInt32) : Store :=
  archive.store.setInt Key.webcamDistance distance.toNat

/-- The archive after an entry. -/
def enter (archive : Archive) : Entry → Archive
  | .report position => if archive.covers position then archive.keep position.aim else archive
  | .calibrate offsetX offsetY =>
    { archive with store := (archive.calibrated offsetX offsetY).commit.2 }
  | .setDistance distance => { archive with store := (archive.measured distance).commit.2 }
  | .failCommits fail => { archive with store := archive.store.setFailCommits fail }
  | .changeVolume volume => { archive with store := { archive.store with volume } }

variable {archive : Archive} {aim : Aim} {position : Position}

theorem keep_of_eq (same : archive.persisted = some aim) : archive.keep aim = archive :=
  if_pos same

theorem keep_of_ne (different : archive.persisted ≠ some aim) :
    archive.keep aim = { archive with
      store := (archive.store.setAim aim).commit.2
      persisted :=
        if (archive.store.setAim aim).commit.1.isOk then some aim else archive.persisted } :=
  if_neg different

theorem enter_report_of_covers (covered : archive.covers position = true) :
    archive.enter (.report position) = archive.keep position.aim :=
  if_pos covered

theorem enter_report_of_not_covers (outside : ¬ archive.covers position = true) :
    archive.enter (.report position) = archive :=
  if_neg outside

/-- A position that was to be made durable is stored, unless the last successful commit wrote
it, and whether or not its own commit succeeds. -/
theorem storedAim_keep :
    (archive.keep aim).store.storedAim =
      if archive.persisted = some aim then archive.store.storedAim else aim.stored := by
  rw [keep]
  split
  next => rfl
  next => exact (Store.storedAim_commit).trans (Store.storedAim_setAim aim)

/-- What is no report leaves the stored position. -/
theorem storedAim_enter_of_not_report {entry : Entry}
    (other : ∀ position, entry ≠ .report position) :
    (archive.enter entry).store.storedAim = archive.store.storedAim := by
  cases entry with
  | report position => exact absurd rfl (other position)
  | calibrate offsetX offsetY =>
    exact Store.storedAim_commit.trans ((Store.storedAim_setInt (by decide) (by decide) _).trans
      (Store.storedAim_setInt (by decide) (by decide) _))
  | setDistance distance =>
    exact Store.storedAim_commit.trans (Store.storedAim_setInt (by decide) (by decide) _)
  | failCommits fail => exact Store.storedAim_setFailCommits fail
  | changeVolume volume => rfl

/-- After an entry, the stored position is the one before, or that of the entered report. -/
theorem storedAim_enter (entry : Entry) :
    (archive.enter entry).store.storedAim = archive.store.storedAim ∨
      ∃ position, entry = .report position ∧ archive.covers position = true ∧
        (archive.enter entry).store.storedAim = position.aim.stored := by
  cases entry with
  | report position =>
    by_cases covered : archive.covers position = true
    · rw [enter_report_of_covers covered, storedAim_keep]
      split
      next same => exact .inl rfl
      next different => exact .inr ⟨position, rfl, covered, rfl⟩
    · exact .inl (by rw [enter_report_of_not_covers covered])
  | _ => exact .inl (storedAim_enter_of_not_report nofun)

/-- No entry changes the travel. -/
@[simp] theorem covers_enter (entry : Entry) : (archive.enter entry).covers = archive.covers := by
  cases entry with
  | report position =>
    by_cases covered : archive.covers position = true
    · rw [enter_report_of_covers covered, keep]
      split <;> rfl
    · rw [enter_report_of_not_covers covered]
  | _ => rfl

/-- No entries change the travel. -/
theorem covers_enterAll (entries : List Entry) :
    (entries.foldl enter archive).covers = archive.covers := by
  induction entries generalizing archive with
  | nil => rfl
  | cons first rest inductionHypothesis =>
    rw [List.foldl_cons, inductionHypothesis, covers_enter]

end Archive

/-! ## The archive of a supervisor -/

namespace Supervisor

variable {T : Type}

/-- The position that the motors report in the message that a step handles. -/
def Step.reportedPosition? (step : Step T) : Option Position :=
  step.handled?.bind fun handled => handled.2.positionFrom? handled.1

/-- What a step means for the archive. -/
def Step.entry? : Step T → Option Entry
  | .call (.calibrate offsetX offsetY) => some (.calibrate offsetX offsetY)
  | .call (.setDistance distance) => some (.setDistance distance)
  | .call (.failCommits fail) => some (.failCommits fail)
  | .call (.changeVolume volume) => some (.changeVolume volume)
  | step => step.reportedPosition?.map .report

theorem Step.entry?_eq_report_iff {step : Step T} {position : Position} :
    step.entry? = some (.report position) ↔ step.reportedPosition? = some position := by
  have reports (reported : Option Position) :
      reported.map Entry.report = some (.report position) ↔ reported = some position := by
    simp
  cases step with
  | call call =>
    cases call with
    | handle peer message now => exact reports _
    | _ => exact iff_of_false nofun nofun
  | handleReceived peer message now => exact reports _
  | _ => exact iff_of_false nofun nofun

/-- What a supervisor has for an archive. -/
def archive (supervisor : Supervisor T) : Archive where
  store := supervisor.store
  persisted := supervisor.persisted
  rangeX := supervisor.motors.rangeX
  rangeY := supervisor.motors.rangeY

variable {supervisor : Supervisor T}

/-- The archive has nothing to do with the links. -/
theorem archive_eq_of_core_eq {other : Supervisor T} (same : supervisor.core = other.core) :
    supervisor.archive = other.archive :=
  show supervisor.core.archive = other.core.archive from congrArg archive same

theorem archive_persist (position : Position) :
    (supervisor.persist position).archive = supervisor.archive.keep position.aim := by
  by_cases same : supervisor.persisted = some position.aim
  · rw [Archive.keep_of_eq same, persist, if_pos same]
  · rw [Archive.keep_of_ne same, persist, if_neg same]
    change _ = Archive.mk (supervisor.store.setAim position.aim).commit.2
      (if (supervisor.store.setAim position.aim).commit.1.isOk then some position.aim
        else supervisor.persisted) supervisor.motors.rangeX supervisor.motors.rangeY
    cases (supervisor.store.setAim position.aim).commit with
    | mk outcome store => cases outcome <;> rfl

theorem archive_applyPosition (position : Position) :
    (supervisor.applyPosition position).archive =
      supervisor.archive.enter (.report position) := by
  let moved : Supervisor T := { supervisor with motors := { supervisor.motors with position } }
  have applied : (supervisor.applyPosition position).archive =
      (if supervisor.motors.inRange position then moved.persist position
        else moved.note (.outOfRange position)).archive := rfl
  rw [applied]
  split
  next inRange =>
    rw [@Archive.enter_report_of_covers supervisor.archive position inRange]
    exact archive_persist position
  next outside =>
    rw [@Archive.enter_report_of_not_covers supervisor.archive position outside]
    rfl

theorem archive_applyReport {message : Message} (reported : message.reply? = some .statusReport)
    (peer : Peer) :
    (supervisor.applyReport peer message).archive =
      ((message.positionFrom? peer).map .report).elim supervisor.archive
        supervisor.archive.enter := by
  cases peer with
  | accelerometer => rfl
  | motors =>
    let informed := (supervisor.applySample message).applyReadings message
    rw [Message.positionFrom?, Message.reportedPosition?, if_pos reported]
    cases located : message.motorPosition? with
    | none =>
      have applied : supervisor.applyReport .motors message = informed := by
        simp only [applyReport, located, informed]
      rw [applied]
      rfl
    | some position =>
      have applied : supervisor.applyReport .motors message = informed.applyPosition position := by
        simp only [applyReport, located, informed]
      rw [applied, archive_applyPosition]
      rfl

variable [Transport T]

/-- Handling a message enters the position that it reports. -/
theorem archive_handle (peer : Peer) (message : Message) (now : Instant) :
    (supervisor.handle peer message now).2.archive =
      ((message.positionFrom? peer).map .report).elim supervisor.archive
        supervisor.archive.enter := by
  have marked : (supervisor.markSeen peer now).archive = supervisor.archive :=
    archive_eq_of_core_eq (core_markSeen peer now)
  rw [handle]
  cases reply : message.reply? with
  | none =>
    rw [Message.positionFrom?_eq_none (by rw [reply]; exact nofun)]
    exact archive_eq_of_core_eq (core_handleCommand peer message)
  | some code =>
    cases code with
    | statusReport =>
      rw [← marked]
      exact archive_applyReport reply peer
    | errorReport =>
      rw [Message.positionFrom?_eq_none (by rw [reply]; exact nofun), ← marked]
      cases peer <;> rfl
    | unknown code =>
      rw [Message.positionFrom?_eq_none (by rw [reply]; exact nofun), ← marked]
      rfl

theorem archive_call (call : Call T) :
    (supervisor.call call).archive =
      (Step.entry? (.call call)).elim supervisor.archive supervisor.archive.enter := by
  cases call with
  | attach peer channel => exact archive_eq_of_core_eq (core_attach peer channel)
  | detach peer => exact archive_eq_of_core_eq (core_detach peer)
  | disturb peer channel => exact archive_eq_of_core_eq (core_disturb peer channel)
  | handle peer message now => exact archive_handle peer message now
  | move position => exact archive_eq_of_core_eq (core_command _ _)
  | home => exact archive_eq_of_core_eq (core_command _ _)
  | reboot => exact archive_eq_of_core_eq (core_command _ _)
  | upgrade => exact archive_eq_of_core_eq (core_command _ _)
  | _ => rfl

/-- A step enters what it means for the archive, and nothing else. -/
theorem archive_step (step : Step T) :
    (supervisor.step step).archive =
      step.entry?.elim supervisor.archive supervisor.archive.enter := by
  cases step with
  | call call => exact archive_call call
  | receive peer => exact archive_eq_of_core_eq (core_receive peer)
  | handleReceived peer message now =>
    exact (archive_eq_of_core_eq (core_handleNoting peer now message)).trans
      (archive_handle peer message now)
  | expire peer now => exact archive_eq_of_core_eq (core_expire peer now)
  | request now => exact archive_eq_of_core_eq (core_requestStatus now)

/-- A supervisor follows its archive. -/
theorem archive_perform (steps : List (Step T)) :
    (supervisor.perform steps).archive =
      (steps.filterMap Step.entry?).foldl Archive.enter supervisor.archive := by
  induction steps generalizing supervisor with
  | nil => rfl
  | cons first rest inductionHypothesis =>
    rw [perform_cons, inductionHypothesis, archive_step, List.filterMap_cons]
    cases first.entry? <;> rfl

/-- The travel of the motors stays what it was. -/
theorem inRange_perform (steps : List (Step T)) :
    (supervisor.perform steps).motors.inRange = supervisor.motors.inRange := by
  have followed := congrArg Archive.covers (supervisor.archive_perform steps)
  rwa [Archive.covers_enterAll] at followed

end Supervisor

end OpticalLink
