/-!
# Faults of the outside world

What can go wrong with files and byte channels, as kinds that callers tell
apart and texts that people read.
-/

namespace OpticalLink

/-- The kind of a failed input or output operation. -/
inductive IoKind where
  | notFound
  | permissionDenied
  | brokenPipe
  | timedOut
  | isADirectory
  | notADirectory
  | invalidFilename
  | invalidInput
  | resourceBusy
  | alreadyExists
  | invalidData
  /-- A signal came in between; the operation may be tried again. -/
  | interrupted
  /-- The operation would have to wait. -/
  | wouldBlock
  | other
deriving DecidableEq, Repr

/-- A failed input or output operation. -/
structure IoFault where
  kind : IoKind
  text : String
deriving DecidableEq, Repr

namespace IoFault

/-- Nothing stands at the path. -/
def notFound : IoFault := ⟨.notFound, "No such file or directory (os error 2)"⟩

/-- A directory stands where a file was expected. -/
def isADirectory : IoFault := ⟨.isADirectory, "Is a directory (os error 21)"⟩

/-- A file stands where a directory was expected. -/
def notADirectory : IoFault := ⟨.notADirectory, "Not a directory (os error 20)"⟩

/-- A name or a path is too long. -/
def invalidFilename : IoFault := ⟨.invalidFilename, "File name too long (os error 36)"⟩

/-- A path holds a character that no path may hold. -/
def invalidInput : IoFault := ⟨.invalidInput, "file name contained an unexpected NUL byte"⟩

/-- Every name for a new file is taken. -/
def alreadyExists : IoFault := ⟨.alreadyExists, "too many temporary files exist"⟩

/-- A directory on the way of the path would have to be replaced. -/
def resourceBusy : IoFault := ⟨.resourceBusy, "Device or resource busy (os error 16)"⟩

end IoFault

/-- Why a byte channel failed. -/
inductive TransportError where
  /-- The device at a path could not be opened. -/
  | openFailed (path detail : String)
  /-- An operation on an open channel failed. -/
  | io (fault : IoFault)
  /-- The other end went away. -/
  | closed
deriving DecidableEq, Repr

/-- The text of a transport error. -/
def TransportError.text : TransportError → String
  | .openFailed path detail => "failed to open " ++ path ++ ": " ++ detail
  | .io fault => "transport I/O error: " ++ fault.text
  | .closed => "transport closed"

end OpticalLink
