import OpticalLink.Proofs.Supervisor.Deadlines
import OpticalLink.Proofs.Supervisor.Restoring
import OpticalLink.Proofs.Survey.Cells
import OpticalLink.Supervisor.Status

/-!
# Restarting from the own store

A supervisor that is built anew from the store of another one takes up its work. The settings
and the name come from keys that no supervisor writes to (`Supervisor.find?_perform`). The
calibration of the camera is written to the store whenever it changes, so it follows the same
entries on both sides (`Supervisor.profile_perform`, `Archive.profile_enter`), whether or not
their commits succeed.
-/

namespace OpticalLink

/-! ## Reading from a store -/

namespace Key

/-- The keys that settings are read from. -/
def ofSettings : List String :=
  [pollInterval, keepaliveTimeout, rangeX, rangeY, surveyBins, surveyCoverage]

/-- The keys that a supervisor writes to. -/
def written : List String := [lastX, lastY, webcamOffsetX, webcamOffsetY, webcamDistance]

end Key

namespace Store

variable {store : Store}

theorem getInt_setInt_of_ne {key other : String} (different : other ≠ key) (value default : Int) :
    (store.setInt key value).getInt other default = store.getInt other default :=
  getInt_set_of_ne different _ default

theorem getString_setInt_of_ne {key other : String} (different : other ≠ key) (value : Int)
    (default : String) :
    (store.setInt key value).getString other default = store.getString other default :=
  getString_set_of_ne different _ default

/-- A number of 32 unsigned bits is read back. -/
theorem getUnsigned32_setInt_self (key : String) (value : UInt32) :
    (store.setInt key value.toNat).getUnsigned32 key = value := by
  have bounded : value.toNat < 4294967296 := value.toNat_lt
  have found : (store.setInt key value.toNat).getInt key 0 = value.toNat := by
    rw [getInt, values_setInt, JsonMembers.find?_insert_self, Option.bind_some,
      JsonValue.toSigned64?_ofInt, Option.getD_some]
    · rw [Text.minSigned64]
      omega
    · rw [Text.maxSigned64]
      omega
  rw [getUnsigned32, found, if_pos ⟨by omega, by omega⟩, Int.toNat_natCast, UInt32.ofNat_toNat]

theorem getUnsigned32_setInt_of_ne {key other : String} (different : other ≠ key) (value : Int) :
    (store.setInt key value).getUnsigned32 other = store.getUnsigned32 other := by
  rw [getUnsigned32, getInt_setInt_of_ne different, getUnsigned32]

end Store

/-- Settings are read from their keys alone. -/
theorem Settings.ofStore_congr {first second : Store}
    (same : ∀ key ∈ Key.ofSettings, first.values.find? key = second.values.find? key) :
    ofStore first = ofStore second := by
  have read {key : String} (member : key ∈ Key.ofSettings) (default : Int) :
      first.getInt key default = second.getInt key default := by
    rw [Store.getInt, same key member, Store.getInt]
  simp only [ofStore, read (show Key.pollInterval ∈ Key.ofSettings by decide),
    read (show Key.keepaliveTimeout ∈ Key.ofSettings by decide),
    read (show Key.rangeX ∈ Key.ofSettings by decide),
    read (show Key.rangeY ∈ Key.ofSettings by decide),
    read (show Key.surveyBins ∈ Key.ofSettings by decide),
    read (show Key.surveyCoverage ∈ Key.ofSettings by decide)]

/-! ## What a unit is known by -/

/-- The name of a unit and its camera. -/
structure Profile where
  id : String
  camera : Camera
deriving DecidableEq, Repr

/-- The profile of the unit that a store belongs to. -/
def Store.profile (store : Store) : Profile := ⟨store.getString Key.deviceId "unknown", store.camera⟩

/-- The profile after an entry, which may calibrate the camera. -/
def Profile.adjust (profile : Profile) : Entry → Profile
  | .calibrate offsetX offsetY => { profile with camera := { profile.camera with offsetX, offsetY } }
  | .setDistance distance => { profile with camera := { profile.camera with distance } }
  | _ => profile

namespace Store

variable {store : Store}

/-- A profile is read from the values of a store. -/
theorem profile_congr {other : Store} (same : store.values = other.values) :
    store.profile = other.profile := by
  obtain ⟨values, medium, volume⟩ := store
  cases same
  rfl

/-- A key that is no part of the profile leaves it. -/
theorem profile_setInt_of_not_mem {key : String}
    (other : key ∉ [Key.deviceId, Key.webcamPort, Key.webcamPath, Key.webcamOffsetX,
      Key.webcamOffsetY, Key.webcamDistance]) (value : Int) :
    (store.setInt key value).profile = store.profile := by
  simp only [List.mem_cons, List.not_mem_nil, or_false, not_or, eq_comm (a := key)] at other
  obtain ⟨id, port, path, offsetX, offsetY, distance⟩ := other
  simp only [profile, camera, getUnsigned16, getString_setInt_of_ne id,
    getString_setInt_of_ne path, getInt_setInt_of_ne port, getUnsigned32_setInt_of_ne offsetX,
    getUnsigned32_setInt_of_ne offsetY, getUnsigned32_setInt_of_ne distance]

theorem profile_setAim (aim : Aim) : (store.setAim aim).profile = store.profile := by
  rw [setAim, profile_setInt_of_not_mem (by decide), profile_setInt_of_not_mem (by decide)]

/-- The distance that is put into a store is the one of its profile. -/
theorem profile_setDistance (distance : UInt32) :
    (store.setInt Key.webcamDistance distance.toNat).profile =
      store.profile.adjust (.setDistance distance) := by
  simp (disch := decide) only [profile, camera, getUnsigned16, getString_setInt_of_ne,
    getInt_setInt_of_ne, getUnsigned32_setInt_of_ne, getUnsigned32_setInt_self, Profile.adjust]

/-- The offset that is put into a store is the one of its profile. -/
theorem profile_calibrate (offsetX offsetY : UInt32) :
    ((store.setInt Key.webcamOffsetX offsetX.toNat).setInt Key.webcamOffsetY
        offsetY.toNat).profile = store.profile.adjust (.calibrate offsetX offsetY) := by
  simp (disch := decide) only [profile, camera, getUnsigned16, getString_setInt_of_ne,
    getInt_setInt_of_ne, getUnsigned32_setInt_of_ne, getUnsigned32_setInt_self, Profile.adjust]

end Store

namespace Archive

variable {archive : Archive}

/-- An entry changes no value but those that a supervisor writes to. -/
theorem find?_enter (entry : Entry) {key : String} (unwritten : key ∉ Key.written) :
    (archive.enter entry).store.values.find? key = archive.store.values.find? key := by
  simp only [Key.written, List.mem_cons, List.not_mem_nil, or_false, not_or] at unwritten
  obtain ⟨lastX, lastY, offsetX, offsetY, distance⟩ := unwritten
  cases entry with
  | report position =>
    rw [enter]
    split
    next =>
      rw [keep]
      split
      next => rfl
      next =>
        rw [Store.values_commit, Store.setAim, Store.values_setInt, Store.values_setInt,
          JsonMembers.find?_insert_of_ne lastY, JsonMembers.find?_insert_of_ne lastX]
    next => rfl
  | calibrate x y =>
    rw [enter, Store.values_commit, calibrated, Store.values_setInt, Store.values_setInt,
      JsonMembers.find?_insert_of_ne offsetY, JsonMembers.find?_insert_of_ne offsetX]
  | setDistance metres =>
    rw [enter, Store.values_commit, measured, Store.values_setInt,
      JsonMembers.find?_insert_of_ne distance]
  | failCommits fail => rw [enter, Store.values_setFailCommits]
  | changeVolume volume => rfl

/-- The profile in a store follows the entries. -/
theorem profile_enter (entry : Entry) :
    (archive.enter entry).store.profile = archive.store.profile.adjust entry := by
  cases entry with
  | report position =>
    show (archive.enter (.report position)).store.profile = archive.store.profile
    rw [enter]
    split
    next =>
      rw [keep]
      split
      next => rfl
      next => rw [Store.profile_congr Store.values_commit, Store.profile_setAim]
    next => rfl
  | calibrate offsetX offsetY =>
    rw [enter, Store.profile_congr Store.values_commit, calibrated, Store.profile_calibrate]
  | setDistance distance =>
    rw [enter, Store.profile_congr Store.values_commit, measured, Store.profile_setDistance]
  | failCommits fail => exact Store.profile_congr (Store.values_setFailCommits fail)
  | changeVolume volume => rfl

theorem find?_enterAll (entries : List Entry) {key : String} (unwritten : key ∉ Key.written) :
    (entries.foldl enter archive).store.values.find? key = archive.store.values.find? key := by
  induction entries generalizing archive with
  | nil => rfl
  | cons first rest inductionHypothesis =>
    rw [List.foldl_cons, inductionHypothesis, find?_enter first unwritten]

theorem profile_enterAll (entries : List Entry) :
    (entries.foldl enter archive).store.profile =
      entries.foldl Profile.adjust archive.store.profile := by
  induction entries generalizing archive with
  | nil => rfl
  | cons first rest inductionHypothesis =>
    rw [List.foldl_cons, List.foldl_cons, inductionHypothesis, profile_enter]

end Archive

/-! ## The profile of a supervisor -/

namespace Supervisor

variable {T : Type}

/-- What a supervisor knows its unit by. -/
def profile (supervisor : Supervisor T) : Profile := ⟨supervisor.id, supervisor.camera⟩

variable {supervisor : Supervisor T}

/-- The profile has nothing to do with the links. -/
theorem profile_eq_of_core_eq {other : Supervisor T} (same : supervisor.core = other.core) :
    supervisor.profile = other.profile :=
  show supervisor.core.profile = other.core.profile from congrArg profile same

theorem profile_persist (position : Position) :
    (supervisor.persist position).profile = supervisor.profile := by
  rw [persist]
  split
  next => rfl
  next => split <;> rfl

theorem profile_applyPosition (position : Position) :
    (supervisor.applyPosition position).profile = supervisor.profile := by
  let moved : Supervisor T := { supervisor with motors := { supervisor.motors with position } }
  have kept : (if moved.motors.inRange position then moved.persist position
      else moved.note (.outOfRange position)).profile = moved.profile := by
    split
    next => exact profile_persist position
    next => rfl
  exact kept

/-- Valid settings in a store are all that it takes to build a supervisor from it. -/
theorem new_eq_ok_iff {store : Store} :
    new store T = .ok supervisor ↔
      ∃ settings, Settings.ofStore store = .ok settings ∧ settings.validate = .ok () ∧
        initial store settings T = supervisor := by
  rw [new]
  cases Settings.ofStore store with
  | error error =>
    constructor
    · intro built
      cases built
    · rintro ⟨_, found, -⟩
      cases found
  | ok settings =>
    refine withSettings_eq_ok_iff.trans ⟨?_, ?_⟩
    · intro built
      exact ⟨settings, rfl, built⟩
    · rintro ⟨_, found, built⟩
      cases found
      exact built

variable [Transport T]

/-- Messages leave the profile. -/
theorem profile_handle (peer : Peer) (message : Message) (now : Instant) :
    (supervisor.handle peer message now).2.profile = supervisor.profile := by
  have marked : (supervisor.markSeen peer now).profile = supervisor.profile :=
    profile_eq_of_core_eq (core_markSeen peer now)
  rw [handle]
  split
  next reply _ =>
    rw [← marked]
    cases reply with
    | statusReport =>
      cases peer with
      | accelerometer => rfl
      | motors =>
        simp only [handleReply, applyReport]
        split
        next position reported => exact profile_applyPosition position
        next => rfl
    | errorReport => cases peer <;> rfl
    | unknown code => rfl
  next => exact profile_eq_of_core_eq (core_handleCommand peer message)

/-- A step adjusts the profile by what it means for the archive, and by nothing else. -/
theorem profile_step (step : Step T) :
    (supervisor.step step).profile =
      step.entry?.elim supervisor.profile supervisor.profile.adjust := by
  have handled (peer : Peer) (message : Message) :
      (((message.positionFrom? peer).map Entry.report).elim supervisor.profile
        supervisor.profile.adjust) = supervisor.profile := by
    cases message.positionFrom? peer <;> rfl
  cases step with
  | call call =>
    cases call with
    | attach peer channel => exact profile_eq_of_core_eq (core_attach peer channel)
    | detach peer => exact profile_eq_of_core_eq (core_detach peer)
    | disturb peer channel => exact profile_eq_of_core_eq (core_disturb peer channel)
    | handle peer message now => exact (profile_handle peer message now).trans (handled _ _).symm
    | move position => exact profile_eq_of_core_eq (core_command _ _)
    | home => exact profile_eq_of_core_eq (core_command _ _)
    | reboot => exact profile_eq_of_core_eq (core_command _ _)
    | upgrade => exact profile_eq_of_core_eq (core_command _ _)
    | _ => rfl
  | receive peer => exact profile_eq_of_core_eq (core_receive peer)
  | handleReceived peer message now =>
    exact (profile_eq_of_core_eq (core_handleNoting peer now message)).trans
      ((profile_handle peer message now).trans (handled _ _).symm)
  | expire peer now => exact profile_eq_of_core_eq (core_expire peer now)
  | request now => exact profile_eq_of_core_eq (core_requestStatus now)

/-- The profile of a supervisor follows the same entries as the one in its store. -/
theorem profile_perform (steps : List (Step T)) :
    (supervisor.perform steps).profile =
      (steps.filterMap Step.entry?).foldl Profile.adjust supervisor.profile := by
  induction steps generalizing supervisor with
  | nil => rfl
  | cons first rest inductionHypothesis =>
    rw [perform_cons, inductionHypothesis, profile_step, List.filterMap_cons]
    cases first.entry? <;> rfl

/-- A supervisor writes to its own keys alone. -/
theorem find?_perform (steps : List (Step T)) {key : String} (unwritten : key ∉ Key.written) :
    (supervisor.perform steps).store.values.find? key = supervisor.store.values.find? key := by
  show (supervisor.perform steps).archive.store.values.find? key = _
  rw [archive_perform, Archive.find?_enterAll _ unwritten]
  rfl

/-- A supervisor that begins in agreement with its store stays so. -/
theorem profile_store_perform (agrees : supervisor.store.profile = supervisor.profile)
    (steps : List (Step T)) :
    (supervisor.perform steps).store.profile = (supervisor.perform steps).profile := by
  show (supervisor.perform steps).archive.store.profile = _
  rw [archive_perform, Archive.profile_enterAll, profile_perform, ← agrees]
  rfl

/-- After any run, whether or not its commits succeeded, a supervisor can be built anew from the
store as it is. It has the settings, the name and the camera of the old one, and the position in
the store, as far as it fits. It starts with no peer, no deadline and no survey. -/
theorem new_from_own_store {store : Store} (built : new store T = .ok supervisor)
    (operations : List (Operation T)) :
    let state := supervisor.run operations
    ∃ restarted, new state.store T = .ok restarted ∧
      restarted.settings = state.settings ∧ state.settings = supervisor.settings ∧
      restarted.status.id = state.status.id ∧ restarted.status.camera = state.status.camera ∧
      restarted.status.motors.position = state.store.startingPosition ∧
      (∀ peer, restarted.isConnected peer = false ∧ restarted.deadline? peer = none) ∧
      restarted.survey.snapshot.points = [] := by
  intro state
  obtain ⟨settings, found, valid, rfl⟩ := new_eq_ok_iff.mp built
  have reached : (initial store settings T).perform
      ((initial store settings T).steps operations) = state := perform_steps _ operations
  have sameSettings : state.settings = settings := settings_run operations
  -- The store has changed since, but under none of the keys of the settings.
  have foundAgain : Settings.ofStore state.store = .ok settings := by
    rw [← found, ← reached]
    exact Settings.ofStore_congr fun key member =>
      find?_perform _ ((by decide : ∀ key ∈ Key.ofSettings, key ∉ Key.written) key member)
  have sameProfile : state.store.profile = state.profile := by
    rw [← reached]
    exact profile_store_perform rfl _
  refine ⟨initial state.store settings T, new_eq_ok_iff.mpr ⟨settings, foundAgain, valid, rfl⟩,
    sameSettings.symm, sameSettings, congrArg Profile.id sameProfile,
    congrArg Profile.camera sameProfile, ?_, ?_, ?_⟩
  · simp only [status, initial, Store.aim, Store.getSigned32_eq_ofInt_fitted,
      Store.startingPosition]
  · rintro (_ | _) <;> exact ⟨rfl, rfl⟩
  · rw [List.eq_nil_iff_forall_not_mem]
    intro point member
    rw [SurveyGrid.mem_points_iff] at member
    have empty : (SurveyGrid.new settings.surveyBins settings.surveyCoverage).get? point.x point.y =
        none := SurveyGrid.get?_new _ _ _ _
    cases empty.symm.trans member

/-- Both calibrations fail to commit, and are kept nevertheless. Of the stored position, the first
coordinate does not fit. -/
theorem new_from_own_store_failed_commits :
    let store := (Store.memory.setInt Key.lastX 5000000000).setInt Key.lastY (-5)
    let operations : List Operation :=
      [.call (.failCommits true), .call (.calibrate 3 4), .call (.setDistance 9)]
    let state := (initial store .default).run operations
    state.store.commits? = some 0 ∧
      ∃ restarted, new state.store = .ok restarted ∧ restarted.settings = .default ∧
        restarted.status.camera = ⟨8080, "/", 3, 4, 9⟩ ∧
        restarted.status.motors.position = ⟨0, -5, 0⟩ := by
  intro store operations state
  have built : new store = .ok (initial store .default) :=
    new_eq_ok_iff.mpr ⟨.default, by decide +kernel, by decide +kernel, rfl⟩
  obtain ⟨restarted, again, settings_eq, kept_eq, -, camera_eq, position_eq, -⟩ :=
    new_from_own_store built operations
  have camera : state.status.camera = ⟨8080, "/", 3, 4, 9⟩ := by decide +kernel
  have position : state.store.startingPosition = ⟨0, -5, 0⟩ := by decide +kernel
  have uncounted : state.store.commits? = some 0 := by decide +kernel
  exact ⟨uncounted, restarted, again, settings_eq.trans kept_eq, camera_eq.trans camera,
    position_eq.trans position⟩

end Supervisor

end OpticalLink
