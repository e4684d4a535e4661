import OpticalLink.Console.Failure
import OpticalLink.Peer
import OpticalLink.Text.Blank
import OpticalLink.Text.Numeral

/-!
# Durations on the command line

A duration is a number of at most 64 bits above zero, in seconds or, with the
unit `ms`, in milliseconds. Blanks around it do not count.
-/

namespace OpticalLink.Console

/-- The unit of a duration. -/
inductive TimeUnit where
  | milliseconds
  | seconds
deriving DecidableEq, Repr

/-- So many units of time. -/
def TimeUnit.interval (unit : TimeUnit) (count : Nat) : Interval :=
  match unit with
  | .milliseconds => count * 1000
  | .seconds => count * 1000000

/-- Takes the unit off the end. Milliseconds are tried first, for their unit ends
like that of seconds. -/
def splitUnit (characters : List Char) : List Char × TimeUnit :=
  match characters.reverse with
  | 's' :: 'm' :: rest => (rest.reverse, .milliseconds)
  | 's' :: rest => (rest.reverse, .seconds)
  | _ => (characters, .seconds)

/-- Reads a duration. -/
def duration (text : String) : Except Failure Interval :=
  let characters := Text.trimmed text.toList
  if characters.isEmpty then .error ⟨ExitCode.usage, "duration must not be empty"⟩
  else
    let (digits, unit) := splitUnit characters
    match Text.unsigned64? digits with
    | none =>
      .error ⟨ExitCode.usage, "invalid duration value: " ++ String.ofList characters⟩
    | some count =>
      if count = 0 then .error ⟨ExitCode.usage, "duration must be greater than zero"⟩
      else .ok (unit.interval count)

end OpticalLink.Console
