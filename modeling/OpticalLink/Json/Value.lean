import OpticalLink.Decimal.Shortest

/-!
# Structured values

The values of a document: the empty value, truth values, numbers, texts, lists
and objects. An object that is looked up or extended has its members in
ascending order of their keys, each key once.
-/

namespace OpticalLink

/-- A number as a document holds it. -/
inductive JsonNumber where
  /-- A whole number of 64 bits, signed or unsigned. -/
  | integer (value : Int)
  | float (value : Float)
deriving Repr

/-- A value in a document. -/
inductive JsonValue where
  | null
  | bool (value : Bool)
  | number (value : JsonNumber)
  | text (value : String)
  | array (items : List JsonValue)
  | object (members : List (String × JsonValue))

/-- Named values. -/
abbrev JsonMembers := List (String × JsonValue)

namespace JsonMembers

/-- Adds a member at its place, or replaces the one of the same key. -/
def insert (key : String) (value : JsonValue) : JsonMembers → JsonMembers
  | [] => [(key, value)]
  | member :: rest =>
    if key < member.1 then (key, value) :: member :: rest
    else if key = member.1 then (key, value) :: rest
    else member :: insert key value rest

/-- Members in ascending order of their keys; of equal keys the last one stays. -/
def ofList (members : List (String × JsonValue)) : JsonMembers :=
  members.foldl (fun sorted member => insert member.1 member.2 sorted) []

/-- The value under a key. -/
def find? (key : String) : JsonMembers → Option JsonValue
  | [] => none
  | member :: rest => if member.1 = key then some member.2 else find? key rest

/-- An inserted member is found. -/
@[simp] theorem find?_insert_self (key : String) (value : JsonValue) (members : JsonMembers) :
    (insert key value members).find? key = some value := by
  induction members with
  | nil => simp [insert, find?]
  | cons member rest inductionHypothesis =>
    unfold insert
    split
    · simp [find?]
    · split
      · simp [find?]
      · rename_i different
        simpa [find?, Ne.symm different] using inductionHypothesis

/-- Inserting a member leaves all others. -/
theorem find?_insert_of_ne {key other : String} (different : other ≠ key) (value : JsonValue)
    (members : JsonMembers) : (insert key value members).find? other = members.find? other := by
  induction members with
  | nil => simp [insert, find?, Ne.symm different]
  | cons member rest inductionHypothesis =>
    unfold insert
    split
    · simp [find?, Ne.symm different]
    · split
      · rename_i same
        subst same
        simp [find?, Ne.symm different]
      · simp only [find?, inductionHypothesis]

end JsonMembers

/-- An object of some members. -/
def JsonValue.ofMembers (members : List (String × JsonValue)) : JsonValue :=
  .object (JsonMembers.ofList members)

/-- A whole number as a value. -/
def JsonValue.ofInt (value : Int) : JsonValue := .number (.integer value)

/-- A natural number as a value. -/
def JsonValue.ofNat (value : Nat) : JsonValue := .number (.integer value)

/-- A float as a value. -/
def JsonValue.ofFloat (value : Float) : JsonValue := .number (.float value)

end OpticalLink
