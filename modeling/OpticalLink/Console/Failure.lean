import OpticalLink.Supervisor.Basic

/-!
# Failed commands

A failed command ends the program with a code that tells what kind of thing went
wrong and a message with the step that failed in front.
-/

namespace OpticalLink.Console

/-! The exit codes. -/

namespace ExitCode

/-- The command did what it was asked. -/
def success : Nat := 0

/-- The command line does not follow its grammar. -/
def badCommandLine : Nat := 2

/-- A device could not be opened or a link is down. -/
def transport : Nat := 3

/-- Access to a file was refused. -/
def permissionDenied : Nat := 50

/-- Frames, payloads or settings are malformed. -/
def invalidData : Nat := 60

/-- Arguments have no meaning for the command. -/
def usage : Nat := 64

/-- Anything else. -/
def internal : Nat := 125

end ExitCode

/-- How a command failed. -/
structure Failure where
  code : Nat
  message : String
deriving DecidableEq, Repr

namespace Failure

/-- A failure in a named step. -/
def inStep (code : Nat) (step text : String) : Failure := ⟨code, step ++ ": " ++ text⟩

/-- The failure of input or output. -/
def ofIo (step : String) (fault : IoFault) : Failure :=
  inStep (if fault.kind = .permissionDenied then ExitCode.permissionDenied else ExitCode.internal)
    step fault.text

/-- The failure of a channel. -/
def ofTransport (step : String) (error : TransportError) : Failure :=
  match error with
  | .io fault => ofIo step fault
  | _ => inStep ExitCode.transport step error.text

/-- The failure to write or read a frame. -/
def ofFrame (step : String) (error : FrameError) : Failure :=
  match error with
  | .transport error => ofTransport step error
  | _ => inStep ExitCode.invalidData step error.text

/-- The failure of a store. Refused access is reported without the path. -/
def ofStore (step : String) (error : StoreError) : Failure :=
  match error with
  | .io _ fault =>
    if fault.kind = .permissionDenied then inStep ExitCode.permissionDenied step fault.text
    else inStep ExitCode.internal step error.text
  | _ => inStep ExitCode.invalidData step error.text

/-- The failure of a supervisor. -/
def ofSupervisor (step : String) (error : SupervisorError) : Failure :=
  match error with
  | .transport error => ofTransport step error
  | .frame error => ofFrame step error
  | .config error => ofStore step error
  | .disconnected _ => inStep ExitCode.transport step error.text
  | .notAttached _ => inStep ExitCode.usage step error.text

end Failure

end OpticalLink.Console
