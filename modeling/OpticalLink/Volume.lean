import OpticalLink.Bytes.Basic
import OpticalLink.Fault

/-!
# Volumes of files

A volume holds files and directories. A path leads from its root, name by name,
and may leave it for the directories above, of which nothing else is known.
Replacing a file goes through several steps, each of which may fail: a new file
is filled beside the old one and takes its place in the end. When a step fails,
the new file is taken away again.
-/

namespace OpticalLink

/-- What stands at a place of a volume. -/
inductive VolumeEntry where
  | file (content : Bytes)
  | directory
deriving DecidableEq, Repr

/-- The steps of replacing a file: a new file is created beside the old one,
written, made durable, and renamed over the old one. -/
inductive ReplaceStep where
  | create
  | write
  | sync
  | rename
deriving DecidableEq, Repr

/-- The steps in their order. -/
def ReplaceStep.all : List ReplaceStep := [.create, .write, .sync, .rename]

/-- The directories from which places are reached. -/
inductive Base where
  /-- So many directories above the root of a volume. -/
  | above (levels : Nat)
  /-- The topmost directory. -/
  | top
deriving DecidableEq, Repr

/-- A place: a directory outside a volume or its root, and the names on the way
from there. -/
structure Place where
  base : Base
  names : List String
deriving DecidableEq, Repr

namespace Place

/-- The root of a volume. -/
def root : Place := ⟨.above 0, []⟩

/-- The place of a name in a directory. -/
def child (place : Place) (name : String) : Place := { place with names := place.names ++ [name] }

/-- The directory above a place. Nothing is above the topmost one. -/
def parent (place : Place) : Place :=
  match place.names, place.base with
  | [], .above levels => ⟨.above (levels + 1), []⟩
  | [], .top => place
  | names, base => ⟨base, names.dropLast⟩

end Place

/-- Files and directories by their place. -/
structure Volume where
  entries : List (Place × VolumeEntry)
  /-- The step at which replacements are made to fail. -/
  breakdown : Option (ReplaceStep × IoFault)
  /-- The path of the root from the topmost directory. -/
  rootPath : String
  /-- The name that the next new file has until it is renamed. -/
  newName : String
deriving DecidableEq, Repr

namespace Volume

/-- A volume with nothing but its root. -/
def empty : Volume := ⟨[], none, "/", ".new"⟩

/-- What stands at a place. The root and what is above it are directories. -/
def entryAt (volume : Volume) (place : Place) : Option VolumeEntry :=
  if place.names.isEmpty then some .directory
  else (volume.entries.find? fun entry => entry.1 = place).map Prod.snd

/-- Takes away what stands at a place. -/
def remove (volume : Volume) (place : Place) : Volume :=
  { volume with entries := volume.entries.filter fun other => other.1 ≠ place }

/-- Puts an entry at a place, over what stood there. -/
def put (volume : Volume) (place : Place) (entry : VolumeEntry) : Volume :=
  { volume with entries := (place, entry) :: (volume.remove place).entries }

/-! Paths -/

/-- The bytes that a name may have. -/
def longestName : Nat := 255

/-- The bytes that a path may have. -/
def longestPath : Nat := 4095

/-- The place at which a path starts. -/
def start (path : String) : Place := if path.startsWith "/" then ⟨.top, []⟩ else .root

/-- The parts of a path between its slashes. -/
def parts (path : String) : List String := path.splitOn "/"

/-- Whether a part of a path is a name, and not a way to stay. -/
def isName (part : String) : Bool := part ≠ "" && part ≠ "."

/-- One part further down a path, which has to have led to a directory. Nothing and
a single dot stay there, and a double dot leads up. -/
def descend (volume : Volume) (place : Place) (part : String) : Except IoFault Place :=
  match volume.entryAt place with
  | some .directory =>
    if !isName part then .ok place
    else if part = ".." then .ok place.parent
    else if longestName < part.utf8ByteSize then .error .invalidFilename
    else .ok (place.child part)
  | some (.file _) => .error .notADirectory
  | none => .error .notFound

/-- The place to which some parts lead. -/
def walk (volume : Volume) (place : Place) (parts : List String) : Except IoFault Place :=
  parts.foldlM volume.descend place

/-- Whether a path can be followed at all. -/
def admissible (path : String) : Except IoFault Unit :=
  if path.contains '\x00' then .error .invalidInput
  else if longestPath < path.utf8ByteSize then .error .invalidFilename
  else if path = "" then .error .notFound
  else .ok ()

/-- The place to which a path leads. -/
def resolve (volume : Volume) (path : String) : Except IoFault Place := do
  admissible path
  volume.walk (start path) (parts path)

/-- The content of the file at a path. -/
def read (volume : Volume) (path : String) : Except IoFault Bytes := do
  let place ← volume.resolve path
  match volume.entryAt place with
  | some (.file content) => .ok content
  | some .directory => .error .isADirectory
  | none => .error .notFound

/-! Replacing a file -/

/-- The parts of a path before its last name. -/
def folderParts (path : String) : List String :=
  let settled := (parts path).reverse.dropWhile fun part => !isName part
  ((settled.drop 1).dropWhile fun part => !isName part).reverse

/-- The bytes of the path under which a new file is created beside the one at a path.
Unlike that path it starts at the topmost directory. -/
def newPathSize (volume : Volume) (path : String) : Nat :=
  let folder := ("/".intercalate (folderParts path)).utf8ByteSize
  let above := if path.startsWith "/" then folder
    else volume.rootPath.utf8ByteSize + 1 + max 1 folder
  above + 1 + volume.newName.utf8ByteSize

/-- The place of the new file for the one at a path. Nothing else may stand there. -/
def newPlace (volume : Volume) (path : String) : Except IoFault Place :=
  if longestPath < volume.newPathSize path then .error .invalidFilename
  else do
    let folder ← volume.walk (start path) (folderParts path ++ ["."])
    let place := folder.child volume.newName
    if (volume.entryAt place).isSome then .error .alreadyExists else .ok place

/-- The place that a file takes when it is renamed to a path. No file has dots for
its name or a slash behind its name, and none takes the place of a directory. -/
def target (volume : Volume) (path : String) : Except IoFault Place := do
  admissible path
  let backwards := (parts path).reverse
  match backwards.dropWhile (· = "") with
  | [] => .error .resourceBusy
  | last :: before =>
    let folder ← volume.walk (start path) before.reverse
    let place ← volume.descend folder last
    if last = "." ∨ last = ".." then .error .resourceBusy
    else if backwards.head? = some "" then .error .notADirectory
    else if volume.entryAt place = some .directory then .error .isADirectory
    else .ok place

/-- How a result failed, if it did. -/
def faultOf? {α : Type} : Except IoFault α → Option IoFault
  | .ok _ => none
  | .error fault => some fault

/-- How a step of a replacement fails, if it does. -/
def stepFault? (volume : Volume) (path : String) (step : ReplaceStep) : Option IoFault :=
  let refusal :=
    match step with
    | .create => faultOf? (volume.newPlace path)
    | .write | .sync => none
    | .rename => faultOf? (volume.target path)
  refusal.orElse fun _ => (volume.breakdown.filter fun breakdown => breakdown.1 = step).map Prod.snd

/-- Renames what stands at a place. -/
def move (volume : Volume) (source target : Place) : Volume :=
  match volume.entryAt source with
  | some entry => (volume.remove source).put target entry
  | none => volume

end Volume

/-- A volume in which a file is being replaced. -/
structure Replacement where
  volume : Volume
  /-- The place of the new file, as long as it is there. -/
  new : Option Place

namespace Replacement

/-- Takes the new file away. -/
def abandon (replacement : Replacement) : Volume :=
  replacement.new.elim replacement.volume replacement.volume.remove

/-- What a step does that does not fail. -/
def after (replacement : Replacement) (path : String) (content : Bytes) (step : ReplaceStep) :
    Replacement :=
  let volume := replacement.volume
  match step, replacement.new with
  | .create, none =>
    match volume.newPlace path with
    | .ok place => ⟨volume.put place (.file []), some place⟩
    | .error _ => replacement
  | .write, some place => ⟨volume.put place (.file content), some place⟩
  | .rename, some place =>
    match volume.target path with
    | .ok target => ⟨volume.move place target, none⟩
    | .error _ => replacement
  | _, _ => replacement

/-- Goes through some steps, up to the first that fails. -/
def run (path : String) (content : Bytes) : Replacement → List ReplaceStep →
    Except IoFault Unit × Volume
  | replacement, [] => (.ok (), replacement.volume)
  | replacement, step :: rest =>
    match replacement.volume.stepFault? path step with
    | some fault => (.error fault, replacement.abandon)
    | none => run path content (replacement.after path content step) rest

end Replacement

namespace Volume

/-- Replaces the file at a path, or makes it where nothing stood. -/
def replace (volume : Volume) (path : String) (content : Bytes) : Except IoFault Unit × Volume :=
  Replacement.run path content ⟨volume, none⟩ ReplaceStep.all

/-! Filling a volume -/

/-- Goes down some parts and puts a directory wherever nothing stands. -/
def addDirectories (volume : Volume) (place : Place) (parts : List String) : Volume × Place :=
  parts.foldl (fun (volume, place) part =>
    if !isName part then (volume, place)
    else if part = ".." then (volume, place.parent)
    else
      let place := place.child part
      if (volume.entryAt place).isSome then (volume, place)
      else (volume.put place .directory, place)) (volume, place)

/-- Puts a file at a path together with the directories above it. -/
def plant (volume : Volume) (path : String) (content : Bytes) : Volume :=
  let names := (parts path).filter isName
  let (volume, folder) := volume.addDirectories (start path) names.dropLast
  volume.put (folder.child (names.getLastD "")) (.file content)

/-- Puts a directory at a path together with the directories above it. -/
def plantDirectory (volume : Volume) (path : String) : Volume :=
  (volume.addDirectories (start path) (parts path)).1

/-! Looking around -/

/-- The names in a directory, ascending. -/
def list (volume : Volume) (path : String) : Except IoFault (List String) := do
  let place ← volume.resolve path
  match volume.entryAt place with
  | some .directory =>
    let inside := volume.entries.filterMap fun entry =>
      if entry.1.parent = place then entry.1.names.getLast? else none
    .ok (inside.mergeSort fun first second => decide (first ≤ second))
  | some (.file _) => .error .notADirectory
  | none => .error .notFound

/-- Why no device can be opened at a path. There are no devices in a volume. -/
def deviceRefusal (volume : Volume) (path : String) : String :=
  match (volume.resolve path).map volume.entryAt with
  | .ok (some (.file _)) => "Not a typewriter"
  | .ok (some .directory) => "Is a directory"
  | .ok none => "No such file or directory"
  | .error fault =>
    match fault.kind with
    | .notADirectory => "Not a directory"
    | .invalidFilename => "File name too long"
    | .invalidInput => "Invalid argument"
    | _ => "No such file or directory"

end Volume

end OpticalLink
