import OpticalLink.Proofs.Supervisor.Provenance
import OpticalLink.Proofs.Supervisor.Watch

/-!
# How often a memory store is committed

Every commit wears what it writes to, and every position that is not committed may be lost.
`Archive.Recorded` relates the archive of a supervisor to the positions in range that were
reported: as long as no commit fails, the last one is the one that is remembered and stored,
and there was one commit for each change between them. `Supervisor.commits_of_changed_aims`
says so for whole runs.
-/

namespace OpticalLink

/-! ## Changes -/

/-- How many of some positions differ from the one before them, of which the first one has
`previous` before it. -/
def changesAfter (previous : Option Aim) : List Aim → Nat
  | [] => 0
  | aim :: rest => (if previous = some aim then 0 else 1) + changesAfter (some aim) rest

/-- How many of some positions differ from the one before them. The first one always does. -/
def changes (aims : List Aim) : Nat := changesAfter none aims

theorem changesAfter_append_singleton (previous : Option Aim) (aims : List Aim) (aim : Aim) :
    changesAfter previous (aims ++ [aim]) = changesAfter previous aims +
      if aims.getLast?.or previous = some aim then 0 else 1 := by
  induction aims generalizing previous with
  | nil => exact Nat.add_comm _ _
  | cons first rest inductionHypothesis =>
    have last : (first :: rest).getLast?.or previous = rest.getLast?.or (some first) := by
      rw [List.getLast?_cons]
      cases rest.getLast? <;> rfl
    rw [List.cons_append, changesAfter, inductionHypothesis, changesAfter, last, Nat.add_assoc]

theorem changes_append_singleton (aims : List Aim) (aim : Aim) :
    changes (aims ++ [aim]) = changes aims + if aims.getLast? = some aim then 0 else 1 := by
  rw [changes, changesAfter_append_singleton, Option.or_none]
  rfl

/-! ## Counting commits -/

namespace Store

variable {store : Store}

@[simp] theorem commits?_setInt (key : String) (value : Int) :
    (store.setInt key value).commits? = store.commits? := by
  rw [setInt, set, commits?, commits?]
  cases store.medium <;> rfl

@[simp] theorem commits?_setAim (aim : Aim) : (store.setAim aim).commits? = store.commits? := by
  rw [setAim, commits?_setInt, commits?_setInt]

@[simp] theorem commits?_setFailCommits (fail : Bool) :
    (store.setFailCommits fail).commits? = store.commits? := by
  simp only [setFailCommits]
  split
  next commits failing medium => simp only [commits?, medium]
  next => rfl

/-- A commit that succeeds is counted. -/
theorem commits?_commit {commits : Nat} (counted : store.commits? = some commits)
    (succeeds : store.commit.1.isOk = true) : store.commit.2.commits? = some (commits + 1) := by
  cases medium : store.medium with
  | memory count failing =>
    cases failing with
    | true =>
      simp only [commit, medium] at succeeds
      cases succeeds
    | false =>
      have count_eq : some count = some commits := by
        rw [← counted, commits?, medium]
      simp only [commit, medium, commits?, Bool.false_eq_true, if_false, Option.some.inj count_eq]
  | file path dirty =>
    rw [commits?, medium] at counted
    cases counted

end Store

/-! ## What an archive records -/

/-- Whether an entry is about the calibration of the camera. -/
def Entry.calibrates : Entry → Bool
  | .calibrate _ _ | .setDistance _ => true
  | _ => false

namespace Archive

variable {archive : Archive} {start : Store} {commits calibrations : Nat} {aims : List Aim}

/-- The store whose commit an entry asks for. -/
def pending? (archive : Archive) : Entry → Option Store
  | .report position =>
    if archive.covers position ∧ archive.persisted ≠ some position.aim then
      some (archive.store.setAim position.aim)
    else none
  | .calibrate offsetX offsetY => some (archive.calibrated offsetX offsetY)
  | .setDistance distance => some (archive.measured distance)
  | _ => none

/-- The position in range that an entry reports. -/
def aim? (archive : Archive) : Entry → Option Aim
  | .report position => if archive.covers position then some position.aim else none
  | _ => none

/-- What there is after some positions in range and some calibrations, if no commit failed: the
last position is remembered and stored, and each change and each calibration was committed. -/
structure Recorded (archive : Archive) (start : Store) (commits : Nat) (aims : List Aim)
    (calibrations : Nat) : Prop where
  persisted : archive.persisted = aims.getLast?
  stored : archive.store.storedAim = (aims.getLast?.map Aim.stored).getD start.storedAim
  commits : archive.store.commits? = some (commits + changes aims + calibrations)

/-- A position in range is recorded. -/
theorem Recorded.keep (recorded : archive.Recorded start commits aims calibrations) {aim : Aim}
    (succeeds : archive.persisted ≠ some aim → (archive.store.setAim aim).commit.1.isOk = true) :
    (archive.keep aim).Recorded start commits (aims ++ [aim]) calibrations := by
  by_cases same : archive.persisted = some aim
  · have last : aims.getLast? = some aim := recorded.persisted.symm.trans same
    rw [keep_of_eq same]
    constructor
    · rw [same, List.getLast?_concat]
    · rw [recorded.stored, last, List.getLast?_concat]
    · rw [recorded.commits, changes_append_singleton, if_pos last, Nat.add_zero]
  · have notLast : aims.getLast? ≠ some aim := recorded.persisted ▸ same
    have counted := Store.commits?_commit ((Store.commits?_setAim aim).trans recorded.commits)
      (succeeds same)
    rw [keep_of_ne same]
    constructor
    · rw [if_pos (succeeds same), List.getLast?_concat]
    · rw [Store.storedAim_commit, Store.storedAim_setAim, List.getLast?_concat]
      rfl
    · rw [counted, changes_append_singleton, if_neg notLast]
      congr 1
      omega

/-- A change of the store that leaves the stored position is recorded with what it adds to
the commits. -/
theorem Recorded.of_store (recorded : archive.Recorded start commits aims calibrations)
    {store : Store} {more : Nat} (stored : store.storedAim = archive.store.storedAim)
    (counted : store.commits? = some (commits + changes aims + calibrations + more)) :
    { archive with store }.Recorded start commits aims (calibrations + more) where
  persisted := recorded.persisted
  stored := stored.trans recorded.stored
  commits := by rw [counted, Nat.add_assoc]

/-- An entry is recorded if its commit succeeds. -/
theorem Recorded.enter (recorded : archive.Recorded start commits aims calibrations)
    (entry : Entry)
    (succeeds : ∀ pending, archive.pending? entry = some pending → pending.commit.1.isOk = true) :
    (archive.enter entry).Recorded start commits (aims ++ (archive.aim? entry).toList)
      (calibrations + if entry.calibrates then 1 else 0) := by
  have stored := @storedAim_enter_of_not_report archive entry
  cases entry with
  | report position =>
    by_cases covered : archive.covers position = true
    · rw [enter_report_of_covers covered, aim?, if_pos covered]
      exact recorded.keep fun different => succeeds _ (if_pos ⟨covered, different⟩)
    · rw [enter_report_of_not_covers covered, aim?, if_neg covered, Option.toList_none,
        List.append_nil]
      exact recorded
  | calibrate offsetX offsetY =>
    simp only [aim?, Option.toList_none, List.append_nil]
    refine recorded.of_store (stored nofun) (Store.commits?_commit ?_ (succeeds _ rfl))
    rw [calibrated, Store.commits?_setInt, Store.commits?_setInt, recorded.commits]
  | setDistance distance =>
    simp only [aim?, Option.toList_none, List.append_nil]
    refine recorded.of_store (stored nofun) (Store.commits?_commit ?_ (succeeds _ rfl))
    rw [measured, Store.commits?_setInt, recorded.commits]
  | failCommits fail =>
    simp only [aim?, Option.toList_none, List.append_nil]
    exact recorded.of_store (stored nofun) ((Store.commits?_setFailCommits fail).trans recorded.commits)
  | changeVolume volume =>
    simp only [aim?, Option.toList_none, List.append_nil]
    exact recorded.of_store (stored nofun) recorded.commits

end Archive

/-! ## What a run records -/

namespace Supervisor

variable {T : Type}

/-- Whether a call is about the calibration of the camera. -/
def Call.calibrates : Call T → Bool
  | .calibrate _ _ | .setDistance _ => true
  | _ => false

/-- Whether an operation is about the calibration of the camera. -/
def Operation.calibrates : Operation T → Bool
  | .call made => made.calibrates
  | .poll _ => false

/-- Whether a step is about the calibration of the camera. -/
def Step.calibrates : Step T → Bool
  | .call made => made.calibrates
  | _ => false

/-- The position in range that the motors report in the message that a step handles. -/
def Step.aim? (settings : Settings) (step : Step T) : Option Aim :=
  (step.reportedPosition?.filter fun position => settings.Covers position).map Position.aim

/-- The positions in range that the motors report in some steps. -/
def aims (settings : Settings) (steps : List (Step T)) : List Aim :=
  steps.filterMap (Step.aim? settings)

variable {supervisor : Supervisor T}

theorem Step.calibrates_eq (step : Step T) :
    step.calibrates = step.entry?.any Entry.calibrates := by
  have reports (reported : Option Position) :
      false = (reported.map Entry.report).any Entry.calibrates := by
    cases reported <;> rfl
  cases step with
  | call made =>
    cases made with
    | handle peer message now => exact reports _
    | _ => rfl
  | handleReceived peer message now => exact reports _
  | _ => rfl

@[simp] theorem aims_nil (settings : Settings) :
    aims settings ([] : List (Step T)) = [] := rfl

theorem aims_cons (settings : Settings) (first : Step T) (rest : List (Step T)) :
    aims settings (first :: rest) = (first.aim? settings).toList ++ aims settings rest := by
  rw [aims, List.filterMap_cons]
  cases first.aim? settings <;> rfl

theorem aims_append (settings : Settings) (first second : List (Step T)) :
    aims settings (first ++ second) = aims settings first ++ aims settings second :=
  List.filterMap_append

theorem Step.aim?_eq {settings : Settings}
    (travel : ∀ position, supervisor.motors.inRange position = decide (settings.Covers position))
    (step : Step T) : step.aim? settings = step.entry?.bind supervisor.archive.aim? := by
  have reports (reported : Option Position) :
      (reported.filter fun position => settings.Covers position).map Position.aim =
        (reported.map Entry.report).bind supervisor.archive.aim? := by
    cases reported with
    | none => rfl
    | some position =>
      rw [Option.filter_some, ← travel]
      change _ = if supervisor.motors.inRange position then _ else _
      split <;> rfl
  cases step with
  | call made =>
    cases made with
    | handle peer message now => exact reports _
    | _ => rfl
  | handleReceived peer message now => exact reports _
  | _ => rfl

theorem Step.aim?_eq_some_iff {settings : Settings} {step : Step T} {aim : Aim} :
    step.aim? settings = some aim ↔
      ∃ position, step.reportedPosition? = some position ∧ settings.Covers position ∧
        position.aim = aim := by
  simp only [aim?, Option.map_eq_some_iff, Option.filter_eq_some_iff, decide_eq_true_iff, and_assoc]

/-! ## Commits that fail -/

/-- A position that is not made durable is noted. -/
theorem journal_persist_of_fails {position : Position}
    (different : supervisor.persisted ≠ some position.aim)
    (fails : (supervisor.store.setAim position.aim).commit.1.isOk = false) :
    (supervisor.persist position).journal = supervisor.journal ++ [.persistFailed] := by
  rw [persist, if_neg different]
  cases result : (supervisor.store.setAim position.aim).commit with
  | mk outcome store =>
    rw [result] at fails
    cases outcome with
    | ok _ => cases fails
    | error _ => rfl

theorem journal_applyPosition_of_fails {position : Position}
    (inRange : supervisor.motors.inRange position = true)
    (different : supervisor.persisted ≠ some position.aim)
    (fails : (supervisor.store.setAim position.aim).commit.1.isOk = false) :
    (supervisor.applyPosition position).journal = supervisor.journal ++ [.persistFailed] := by
  let moved : Supervisor T := { supervisor with motors := { supervisor.motors with position } }
  have applied : (supervisor.applyPosition position).journal =
      (if supervisor.motors.inRange position then moved.persist position
        else moved.note (.outOfRange position)).journal := rfl
  rw [applied, if_pos inRange]
  exact @journal_persist_of_fails T moved position different fails

/-- That a peer has appeared does not look like a failed commit. -/
theorem count_persistFailed_markSeen (peer : Peer) (now : Instant) :
    (supervisor.markSeen peer now).journal.count .persistFailed =
      supervisor.journal.count .persistFailed := by
  have kept (liveness : Liveness) : (supervisor.setLiveness peer liveness).journal =
      supervisor.journal := by
    cases peer <;> rfl
  simp only [markSeen, noteIf]
  split
  · rw [note, List.count_append, kept]
    rfl
  · rw [kept]

theorem isOk_commit : supervisor.commit.1.isOk = supervisor.store.commit.1.isOk := by
  simp only [commit]
  cases supervisor.store.commit.1 <;> rfl

variable [Transport T]

/-- Whether a commit fails in a step. The calibration of the camera fails with it, and that a
position is not made durable is noted. -/
def commitFails (supervisor : Supervisor T) : Step T → Bool
  | .call (.calibrate offsetX offsetY) => !(supervisor.calibrate offsetX offsetY).1.isOk
  | .call (.setDistance distance) => !(supervisor.setDistance distance).1.isOk
  | step => decide (supervisor.journal.count .persistFailed <
      (supervisor.step step).journal.count .persistFailed)

/-- Whether no commit fails in some steps. -/
def commitsSucceed (supervisor : Supervisor T) : List (Step T) → Bool
  | [] => true
  | first :: rest => !supervisor.commitFails first && (supervisor.step first).commitsSucceed rest

theorem commitsSucceed_append {first second : List (Step T)} :
    supervisor.commitsSucceed (first ++ second) =
      (supervisor.commitsSucceed first && (supervisor.perform first).commitsSucceed second) := by
  induction first generalizing supervisor with
  | nil => rfl
  | cons step rest inductionHypothesis =>
    rw [List.cons_append, commitsSucceed, inductionHypothesis, commitsSucceed, Bool.and_assoc,
      perform_cons]

/-- That the commit of a reported position fails is all that is noted, beside that the motors
have appeared. -/
theorem journal_handle_of_fails {message : Message} {position : Position}
    (reported : message.reportedPosition? = some position)
    (inRange : supervisor.motors.inRange position = true)
    (different : supervisor.persisted ≠ some position.aim)
    (fails : (supervisor.store.setAim position.aim).commit.1.isOk = false) (now : Instant) :
    (supervisor.handle .motors message now).2.journal =
      (supervisor.markSeen .motors now).journal ++ [.persistFailed] := by
  rw [Message.reportedPosition?] at reported
  split at reported
  next report =>
    let marked := supervisor.markSeen .motors now
    let informed := (marked.applySample message).applyReadings message
    have kept : marked.core = supervisor.core := core_markSeen .motors now
    have applied : (supervisor.handle .motors message now).2 = informed.applyPosition position := by
      simp only [handle, report, handleReply, applyReport, reported, informed, marked]
    rw [applied]
    refine @journal_applyPosition_of_fails T informed position ?_ ?_ ?_
    · exact (congrArg (fun core => core.motors.inRange position) kept).trans inRange
    · exact fun same => different ((congrArg Supervisor.persisted kept).symm.trans same)
    · exact (congrArg (fun core => (core.store.setAim position.aim).commit.1.isOk) kept).trans fails
  next => cases reported

/-- A report in range whose commit fails is noted. -/
theorem count_persistFailed_handle {message : Message} {position : Position} {pending : Store}
    (reported : message.reportedPosition? = some position)
    (asked : supervisor.archive.pending? (.report position) = some pending)
    (fails : pending.commit.1.isOk = false) (now : Instant) :
    supervisor.journal.count .persistFailed <
      (supervisor.handle .motors message now).2.journal.count .persistFailed := by
  rw [Archive.pending?] at asked
  split at asked
  next written =>
    obtain rfl := Option.some.inj asked
    rw [journal_handle_of_fails reported written.1 written.2 fails now, List.count_append,
      count_persistFailed_markSeen]
    exact Nat.lt_succ_self _
  next => cases asked

theorem count_persistFailed_handleNoting (peer : Peer) (now : Instant) (message : Message) :
    (handleNoting peer now supervisor message).journal.count .persistFailed =
      (supervisor.handle peer message now).2.journal.count .persistFailed := by
  rw [handleNoting]
  split
  next result => rw [result]
  next result =>
    rw [result, note, List.count_append]
    rfl

/-- Where no commit is seen to fail, the commit that the entry asks for succeeds. -/
theorem isOk_of_pending {step : Step T} {entry : Entry} (means : step.entry? = some entry)
    (succeeds : supervisor.commitFails step = false) {pending : Store}
    (asked : supervisor.archive.pending? entry = some pending) : pending.commit.1.isOk = true := by
  have noted {peer : Peer} {message : Message} {now : Instant}
      (means : (message.positionFrom? peer).map Entry.report = some entry)
      (fails : pending.commit.1.isOk = false) :
      supervisor.journal.count .persistFailed <
        (supervisor.handle peer message now).2.journal.count .persistFailed := by
    obtain ⟨position, reported, rfl⟩ := Option.map_eq_some_iff.mp means
    cases peer with
    | motors => exact count_persistFailed_handle reported asked fails now
    | accelerometer => cases reported
  cases step with
  | call made =>
    cases made with
    | handle peer message now =>
      exact eq_true_of_ne_false fun fails =>
        of_decide_eq_false succeeds (noted means fails)
    | calibrate offsetX offsetY =>
      cases means
      cases asked
      exact isOk_commit.symm.trans (Bool.not_eq_eq_eq_not.mp succeeds)
    | setDistance distance =>
      cases means
      cases asked
      exact isOk_commit.symm.trans (Bool.not_eq_eq_eq_not.mp succeeds)
    | failCommits fail =>
      cases means
      cases asked
    | changeVolume volume =>
      cases means
      cases asked
    | _ => cases means
  | handleReceived peer message now =>
    have silent := of_decide_eq_false succeeds
    rw [step, count_persistFailed_handleNoting] at silent
    exact eq_true_of_ne_false fun fails => silent (noted means fails)
  | _ => cases means

/-! ## Runs -/

/-- A step in which no commit fails is recorded. -/
theorem recorded_step {settings : Settings} {start : Store} {commits calibrations : Nat}
    {reported : List Aim}
    (travel : ∀ position, supervisor.motors.inRange position = decide (settings.Covers position))
    (recorded : supervisor.archive.Recorded start commits reported calibrations) {step : Step T}
    (succeeds : supervisor.commitFails step = false) :
    (supervisor.step step).archive.Recorded start commits
      (reported ++ (step.aim? settings).toList) (calibrations + if step.calibrates then 1 else 0) := by
  rw [archive_step, Step.aim?_eq travel, Step.calibrates_eq]
  cases means : step.entry? with
  | none =>
    rw [Option.bind_none, Option.toList_none, List.append_nil]
    exact recorded
  | some entry => exact recorded.enter entry fun pending => isOk_of_pending means succeeds

/-- Steps in which no commit fails are recorded. -/
theorem recorded_perform {settings : Settings} {start : Store} {commits calibrations : Nat}
    {reported : List Aim}
    (travel : ∀ position, supervisor.motors.inRange position = decide (settings.Covers position))
    (recorded : supervisor.archive.Recorded start commits reported calibrations) {steps : List (Step T)}
    (succeed : supervisor.commitsSucceed steps = true) :
    (supervisor.perform steps).archive.Recorded start commits (reported ++ aims settings steps)
      (calibrations + steps.countP Step.calibrates) := by
  induction steps generalizing supervisor reported calibrations with
  | nil =>
    rw [aims_nil, List.append_nil]
    exact recorded
  | cons first rest inductionHypothesis =>
    rw [commitsSucceed, Bool.and_eq_true] at succeed
    have next := recorded_step travel recorded (Bool.not_eq_eq_eq_not.mp succeed.1)
    have stillTravel (position : Position) :
        (supervisor.step first).motors.inRange position = decide (settings.Covers position) :=
      (congrFun (inRange_perform [first]) position).trans (travel position)
    have all := inductionHypothesis stillTravel next succeed.2
    have count_eq : calibrations + (first :: rest).countP Step.calibrates =
        (calibrations + if first.calibrates then 1 else 0) + rest.countP Step.calibrates := by
      rw [List.countP_cons]
      omega
    rw [perform_cons, aims_cons, ← List.append_assoc, count_eq]
    exact all

/-- From the beginning, steps in which no commit fails are recorded. -/
theorem Built.recorded_perform {store : Store} (built : Built store supervisor) {commits : Nat}
    (inMemory : store.commits? = some commits) {steps : List (Step T)}
    (succeed : supervisor.commitsSucceed steps = true) :
    (supervisor.perform steps).archive.Recorded store commits (aims supervisor.settings steps)
      (steps.countP Step.calibrates) := by
  have travel (position : Position) :
      supervisor.motors.inRange position = decide (supervisor.settings.Covers position) :=
    Bool.eq_iff_iff.mpr ((built.inRange_perform_iff []).trans decide_eq_true_iff.symm)
  have start : supervisor.archive.Recorded store commits [] 0 := by
    obtain ⟨settings, _, rfl⟩ := built.exists_settings
    exact ⟨rfl, rfl, inMemory⟩
  have recorded := Supervisor.recorded_perform travel start succeed
  rwa [List.nil_append, Nat.zero_add] at recorded

/-- No part of a round of supervision is about the calibration of the camera. -/
theorem calibrates_of_mem_pollSteps {step : Step T} {now : Instant}
    (member : step ∈ supervisor.pollSteps now) : step.calibrates = false := by
  rw [pollSteps_eq, List.mem_append] at member
  rcases member with member | member
  · rcases mem_stepsBeforeRequest member with ⟨peer, rfl⟩ | ⟨peer, message, rfl⟩ | ⟨peer, rfl⟩
    · rfl
    · rfl
    · rfl
  · split at member
    next =>
      obtain rfl := List.mem_singleton.mp member
      rfl
    next => exact absurd member List.not_mem_nil

theorem countP_calibrates_steps (operations : List (Operation T)) :
    (supervisor.steps operations).countP Step.calibrates =
      operations.countP Operation.calibrates := by
  induction operations generalizing supervisor with
  | nil => rfl
  | cons first rest inductionHypothesis =>
    have first_eq : (supervisor.operationSteps first).countP Step.calibrates =
        [first].countP Operation.calibrates := by
      cases first with
      | call made => rfl
      | poll now =>
        exact List.countP_eq_zero.mpr fun step member =>
          Bool.eq_false_iff.mp (calibrates_of_mem_pollSteps member)
    rw [steps, List.countP_append, first_eq, inductionHypothesis, ← List.countP_append]
    rfl

/-- Where no commit fails, those steps commit that calibrate the camera or report another
position in range than the last one. -/
theorem Built.commits?_step_ne_iff {store : Store} (built : Built store supervisor) {commits : Nat}
    (inMemory : store.commits? = some commits) {before : List (Step T)} {step : Step T}
    (succeed : supervisor.commitsSucceed (before ++ [step]) = true) :
    ((supervisor.perform before).step step).store.commits? ≠
        (supervisor.perform before).store.commits? ↔
      step.calibrates = true ∨ ∃ aim, step.aim? supervisor.settings = some aim ∧
        (aims supervisor.settings before).getLast? ≠ some aim := by
  have succeedBefore : supervisor.commitsSucceed before = true := by
    rw [commitsSucceed_append, Bool.and_eq_true] at succeed
    exact succeed.1
  have earlier : (supervisor.perform before).store.commits? = _ :=
    (built.recorded_perform inMemory succeedBefore).commits
  have later : (supervisor.perform (before ++ [step])).store.commits? = _ :=
    (built.recorded_perform inMemory succeed).commits
  rw [perform_append, perform_cons, perform_nil, List.countP_append, List.countP_singleton,
    aims_append, aims_cons, aims_nil, List.append_nil] at later
  rw [earlier, later, ne_eq, Option.some.injEq]
  cases seen : step.aim? supervisor.settings with
  | none =>
    rw [Option.toList_none, List.append_nil]
    cases step.calibrates <;> simp
  | some aim =>
    rw [Option.toList_some, changes_append_singleton]
    simp only [Option.some.injEq, exists_eq_left']
    by_cases last : (aims supervisor.settings before).getLast? = some aim
    · rw [if_pos last]
      cases step.calibrates <;> simp [last]
    · rw [if_neg last]
      refine iff_of_true ?_ (.inr last)
      omega

/-- In a run over a memory store in which no commit fails, the store holds the last position in
range that the motors reported, or what it had in the beginning if there is none. The commits
are the changes between these positions and the calibrations of the camera, and a step that is
neither leaves their number. -/
theorem commits_of_changed_aims {store : Store} (built : Built store supervisor) {commits : Nat}
    (inMemory : store.commits? = some commits) {operations : List (Operation T)}
    (succeed : supervisor.commitsSucceed (supervisor.steps operations) = true) :
    let reported := aims supervisor.settings
    let session := supervisor.run operations
    (match (reported (supervisor.steps operations)).getLast? with
      | some aim => session.store.Holds aim
      | none => ∀ default,
        session.store.getInt Key.lastX default = store.getInt Key.lastX default ∧
          session.store.getInt Key.lastY default = store.getInt Key.lastY default) ∧
    session.store.commits? = some (commits + changes (reported (supervisor.steps operations)) +
      operations.countP Operation.calibrates) ∧
    ∀ before step after, supervisor.steps operations = before ++ step :: after →
      let state := supervisor.perform before
      (state.step step).store.commits? ≠ state.store.commits? ↔
        step.calibrates = true ∨ ∃ position, step.reportedPosition? = some position ∧
          supervisor.settings.Covers position ∧
          (reported before).getLast? ≠ some position.aim := by
  intro reported session
  have recorded := built.recorded_perform inMemory succeed
  rw [perform_steps, countP_calibrates_steps] at recorded
  refine ⟨?_, recorded.commits, ?_⟩
  · have stored := recorded.stored
    cases last : (aims supervisor.settings (supervisor.steps operations)).getLast? with
    | some aim =>
      rw [last] at stored
      exact Store.holds_of_storedAim_eq stored
    | none =>
      rw [last] at stored
      obtain ⟨sameX, sameY⟩ := Prod.mk.inj stored
      intro default
      exact ⟨congrArg (fun found => (found.bind JsonValue.toSigned64?).getD default) sameX,
        congrArg (fun found => (found.bind JsonValue.toSigned64?).getD default) sameY⟩
  · intro before step after taken state
    have succeedHere : supervisor.commitsSucceed (before ++ [step]) = true := by
      rw [taken, List.append_cons, commitsSucceed_append, Bool.and_eq_true] at succeed
      exact succeed.1
    rw [built.commits?_step_ne_iff inMemory succeedHere]
    refine or_congr_right ⟨?_, ?_⟩
    · rintro ⟨_, seen, changed⟩
      obtain ⟨position, reported, covered, rfl⟩ := Step.aim?_eq_some_iff.mp seen
      exact ⟨position, reported, covered, changed⟩
    · rintro ⟨position, reported, covered, changed⟩
      exact ⟨position.aim, Step.aim?_eq_some_iff.mpr ⟨position, reported, covered, rfl⟩, changed⟩

/-- The first report is committed although the store has its position; the reports that change
the third coordinate alone, that are out of range or come from the other peer are not, and the
one while commits would fail goes unnoticed. -/
theorem commits_of_changed_aims_repeated_reports :
    let report (position : Position) := (Message.ofReply .statusReport).addMotorPosition position
    let store := { Store.memory.setAim ⟨100, 100⟩ with medium := .memory 3 true }
    let session := (initial store .default).run [.call (.failCommits false),
      .call (.handle .motors (report ⟨100, 100, 0⟩) 0),
      .call (.handle .motors (report ⟨100, 100, 9⟩) 1),
      .call (.handle .motors (report ⟨5, 2147483647, 0⟩) 2), .call (.calibrate 7 8),
      .call (.handle .motors (report ⟨-200, 0, 0⟩) 3), .call (.failCommits true),
      .call (.handle .accelerometer (report ⟨5, 5, 0⟩) 4),
      .call (.handle .motors (report ⟨-200, 0, 1⟩) 5), .call (.failCommits false),
      .call (.setDistance 12), .poll 6]
    session.store.Holds ⟨-200, 0⟩ ∧ session.store.commits? = some 7 := by
  intro report store
  let operations : List Operation := [.call (.failCommits false),
    .call (.handle .motors (report ⟨100, 100, 0⟩) 0),
    .call (.handle .motors (report ⟨100, 100, 9⟩) 1),
    .call (.handle .motors (report ⟨5, 2147483647, 0⟩) 2), .call (.calibrate 7 8),
    .call (.handle .motors (report ⟨-200, 0, 0⟩) 3), .call (.failCommits true),
    .call (.handle .accelerometer (report ⟨5, 5, 0⟩) 4),
    .call (.handle .motors (report ⟨-200, 0, 1⟩) 5), .call (.failCommits false),
    .call (.setDistance 12), .poll 6]
  have built : Built store (initial store .default) := .inr ⟨.default, rfl⟩
  have inMemory : store.commits? = some 3 := rfl
  have aims_eq : aims (initial store .default).settings ((initial store .default).steps operations) =
      [⟨100, 100⟩, ⟨100, 100⟩, ⟨-200, 0⟩, ⟨-200, 0⟩] := by
    decide +kernel
  have succeed : (initial store .default).commitsSucceed
      ((initial store .default).steps operations) = true := by
    decide +kernel
  obtain ⟨held, counted, _⟩ := commits_of_changed_aims built inMemory succeed
  rw [aims_eq] at held counted
  exact ⟨held, counted⟩

end Supervisor

end OpticalLink
