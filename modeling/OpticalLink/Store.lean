import OpticalLink.Bytes.Text
import OpticalLink.Json.Printer
import OpticalLink.Json.Reader
import OpticalLink.Text.Blank
import OpticalLink.Volume

/-!
# Stores of settings

A store holds values under flat keys. Looking up never fails: a value that is
missing or of another kind gives way to the caller's default. Changes are durable
only after a commit, which a memory store counts and a file store carries out by
replacing its file.
-/

namespace OpticalLink

/-- Why a store or its settings are unusable. -/
inductive StoreError where
  /-- The file cannot be read or replaced. -/
  | io (path : String) (fault : IoFault)
  /-- The file does not hold an object. -/
  | malformed (path : String)
  /-- A value breaks a rule for its key. -/
  | invalid (key message : String)
deriving DecidableEq, Repr

/-- The text of a store error. -/
def StoreError.text : StoreError → String
  | .io path fault => "failed to access " ++ path ++ ": " ++ fault.text
  | .malformed path => "invalid configuration file " ++ path
  | .invalid key message => "invalid value for " ++ key ++ ": " ++ message

/-- A value as text: texts, numbers and truth values have one. -/
def JsonValue.toText? : JsonValue → Option String
  | .text value => some value
  | .number value => some value.render
  | .bool value => some (if value then "true" else "false")
  | _ => none

/-- A value as a number of 64 signed bits: numbers and numerals between blanks
have one. -/
def JsonValue.toSigned64? : JsonValue → Option Int
  | .number (.integer value) => some value |>.filter (Text.between Text.minSigned64 Text.maxSigned64)
  | .text value => Text.signed64? (Text.trimmed value.toList)
  | _ => none

/-- Where the values of a store are kept. -/
inductive Medium where
  /-- In memory, with the number of successful commits. -/
  | memory (commits : Nat) (failing : Bool)
  /-- In a file, with a mark for changes that are not in the file yet. -/
  | file (path : String) (dirty : Bool)
deriving DecidableEq, Repr

/-- Values under flat keys. -/
structure Store where
  values : JsonMembers
  medium : Medium
  /-- The volume with the file of a file store. -/
  volume : Volume

namespace Store

/-- An empty memory store. -/
def memory : Store := ⟨[], .memory 0 false, .empty⟩

/-- Whether a byte separates words in plain text. -/
def isSpace (byte : UInt8) : Bool :=
  byte = 0x20 || byte = 0x09 || byte = 0x0A || byte = 0x0C || byte = 0x0D

/-- The values in a file, given what reading it gave. A file that is missing or
blank holds none. -/
def loadValues (path : String) (content : Except IoFault Bytes) : Except StoreError JsonMembers :=
  match content with
  | .error fault => if fault.kind = .notFound then .ok [] else .error (.io path fault)
  | .ok bytes =>
    if bytes.all isSpace then .ok []
    else
      match JsonValue.ofBytes? bytes with
      | some (.object members) => .ok members
      | _ => .error (.malformed path)

/-- Opens the store in a file. -/
def openFile (volume : Volume) (path : String) : Except StoreError Store := do
  let values ← loadValues path (volume.read path)
  return ⟨values, .file path false, volume⟩

/-- The path of a file store. -/
def path? (store : Store) : Option String :=
  match store.medium with
  | .memory _ _ => none
  | .file path _ => some path

/-- The number of successful commits of a memory store. -/
def commits? (store : Store) : Option Nat :=
  match store.medium with
  | .memory commits _ => some commits
  | .file _ _ => none

/-- Whether a key has a value. -/
def contains (store : Store) (key : String) : Bool := (store.values.find? key).isSome

/-- The text under a key. -/
def getString (store : Store) (key default : String) : String :=
  ((store.values.find? key).bind JsonValue.toText?).getD default

/-- The number under a key. -/
def getInt (store : Store) (key : String) (default : Int) : Int :=
  ((store.values.find? key).bind JsonValue.toSigned64?).getD default

/-- The medium after a change of values. -/
def touched : Medium → Medium
  | .memory commits failing => .memory commits failing
  | .file path _ => .file path true

/-- Puts a value under a key. -/
def set (store : Store) (key : String) (value : JsonValue) : Store :=
  { store with values := store.values.insert key value, medium := touched store.medium }

/-- Puts a text under a key. -/
def setString (store : Store) (key value : String) : Store := store.set key (.text value)

/-- Puts a number under a key. -/
def setInt (store : Store) (key : String) (value : Int) : Store :=
  store.set key (JsonValue.ofInt value)

/-- Makes the commits of a memory store fail or succeed from now on. -/
def setFailCommits (store : Store) (fail : Bool) : Store :=
  match store.medium with
  | .memory commits _ => { store with medium := .memory commits fail }
  | .file _ _ => store

/-- How the commit of a failing memory store fails. -/
def simulatedCommitFault : IoFault := ⟨.other, "simulated commit failure"⟩

/-- The content of the file that holds some values. -/
def fileContent (values : JsonMembers) : Bytes :=
  Bytes.ofText ((JsonValue.object values).pretty ++ "\n")

/-- Makes all changes durable. A failed commit keeps the values and may be tried
again. -/
def commit (store : Store) : Except StoreError Unit × Store :=
  match store.medium with
  | .memory commits failing =>
    if failing then (.error (.io "<memory>" simulatedCommitFault), store)
    else (.ok (), { store with medium := .memory (commits + 1) failing })
  | .file path dirty =>
    if dirty then
      match store.volume.replace path (fileContent store.values) with
      | (.error fault, volume) => (.error (.io path fault), { store with volume })
      | (.ok _, volume) => (.ok (), { store with volume, medium := .file path false })
    else (.ok (), store)

end Store

end OpticalLink
