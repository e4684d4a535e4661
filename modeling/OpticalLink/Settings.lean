import OpticalLink.Peer
import OpticalLink.Store
import OpticalLink.Survey

/-!
# Settings of the supervisor

The timing, the travel of the motors and the shape of the survey, and the rules
that they have to keep. The first broken rule is reported, with its key.
-/

namespace OpticalLink

/-! The keys of a store. -/

namespace Key

/-- Milliseconds between two status requests. -/
def pollInterval : String := "supervisor.poll_interval_ms"

/-- Milliseconds to answer a status request. -/
def keepaliveTimeout : String := "supervisor.keepalive_timeout_ms"

/-- The travel along the first axis. -/
def rangeX : String := "motors.range_x"

/-- The travel along the second axis. -/
def rangeY : String := "motors.range_y"

/-- The last position in range, first axis. -/
def lastX : String := "motors.last_x"

/-- The last position in range, second axis. -/
def lastY : String := "motors.last_y"

/-- Bins along each axis of the survey. -/
def surveyBins : String := "survey.bins"

/-- The coordinate at the edge of the survey. -/
def surveyCoverage : String := "survey.coverage"

/-- The name of the unit. -/
def deviceId : String := "device.id"

/-- Where the camera stream listens. -/
def webcamPort : String := "webcam.port"

/-- The path of the camera stream. -/
def webcamPath : String := "webcam.path"

/-- The crosshair offset, first axis. -/
def webcamOffsetX : String := "webcam.offset_x"

/-- The crosshair offset, second axis. -/
def webcamOffsetY : String := "webcam.offset_y"

/-- The distance to the remote unit. -/
def webcamDistance : String := "webcam.distance"

end Key

/-- The settings of a supervisor. -/
structure Settings where
  /-- The time between two status requests. -/
  pollInterval : Interval
  /-- The time that a peer has to answer a status request. -/
  keepaliveTimeout : Interval
  rangeX : UInt32
  rangeY : UInt32
  surveyBins : Nat
  surveyCoverage : Int
deriving DecidableEq, Repr

namespace Settings

/-- Milliseconds between two status requests unless a store says otherwise. -/
def defaultPollMilliseconds : Int := 1000

/-- Milliseconds to answer a status request unless a store says otherwise. -/
def defaultKeepaliveMilliseconds : Int := 500

/-- The travel on either axis unless a store says otherwise. -/
def defaultRange : Int := 25000

/-- An interval of whole milliseconds. -/
def ofMilliseconds (milliseconds : Nat) : Interval := milliseconds * 1000

/-- The settings of a store that holds none. -/
def default : Settings where
  pollInterval := ofMilliseconds 1000
  keepaliveTimeout := ofMilliseconds 500
  rangeX := 25000
  rangeY := 25000
  surveyBins := defaultBins
  surveyCoverage := defaultCoverage

/-- Checks what the supervisor relies on. A silent peer is noticed only if its
time to answer ends before the next request. -/
def validate (settings : Settings) : Except StoreError Unit := do
  if settings.pollInterval = 0 then
    throw (.invalid Key.pollInterval "must be greater than zero")
  if settings.keepaliveTimeout = 0 then
    throw (.invalid Key.keepaliveTimeout "must be greater than zero")
  if settings.pollInterval ≤ settings.keepaliveTimeout then
    throw (.invalid Key.keepaliveTimeout ("must be shorter than the poll interval (" ++
      toString (settings.pollInterval / 1000) ++ " ms)"))
  if settings.surveyBins = 0 ∨ maxBins < settings.surveyBins then
    throw (.invalid Key.surveyBins ("expected 1..=" ++ toString maxBins ++ ", got " ++
      toString settings.surveyBins))
  if settings.surveyCoverage ≤ 0 then
    throw (.invalid Key.surveyCoverage ("expected a positive integer, got " ++
      toString settings.surveyCoverage))

/-- A number that has to be above zero. -/
def positive (key : String) (value : Int) : Except StoreError Nat :=
  if value ≤ 0 then
    .error (.invalid key ("expected a positive integer, got " ++ toString value))
  else .ok value.toNat

/-- A number that has to be one of 32 unsigned bits. -/
def unsigned32 (key : String) (value : Int) : Except StoreError UInt32 :=
  if 0 ≤ value ∧ value ≤ 4294967295 then .ok (UInt32.ofNat value.toNat)
  else .error (.invalid key ("expected 0..=4294967295, got " ++ toString value))

/-- Reads the settings in a store. -/
def ofStore (store : Store) : Except StoreError Settings := do
  let poll ← positive Key.pollInterval (store.getInt Key.pollInterval defaultPollMilliseconds)
  let keepalive ← positive Key.keepaliveTimeout
    (store.getInt Key.keepaliveTimeout defaultKeepaliveMilliseconds)
  let rangeX ← unsigned32 Key.rangeX (store.getInt Key.rangeX defaultRange)
  let rangeY ← unsigned32 Key.rangeY (store.getInt Key.rangeY defaultRange)
  let bins ← positive Key.surveyBins (store.getInt Key.surveyBins defaultBins)
  let coverage ← positive Key.surveyCoverage (store.getInt Key.surveyCoverage defaultCoverage)
  let settings : Settings := ⟨ofMilliseconds poll, ofMilliseconds keepalive, rangeX, rangeY,
    bins, coverage⟩
  settings.validate
  return settings

end Settings

end OpticalLink
