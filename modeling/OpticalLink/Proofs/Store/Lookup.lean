import OpticalLink.Supervisor.Basic

/-!
# Looking up what was stored

Setting a key changes that key alone, and a commit changes no value, also when it fails.
`Store.Holds` says that looking up a position in a store gives this one, and
`Store.holds_iff_of_storedAim_eq` that no two positions are held at once.
-/

namespace OpticalLink

/-- A whole number of 64 signed bits is read back. -/
theorem JsonValue.toSigned64?_ofInt {value : Int} (least : Text.minSigned64 ≤ value)
    (greatest : value ≤ Text.maxSigned64) : (JsonValue.ofInt value).toSigned64? = some value := by
  have fits : Text.between Text.minSigned64 Text.maxSigned64 value = true := by
    simp only [Text.between, least, greatest, decide_true, Bool.and_true]
  simp only [JsonValue.ofInt, JsonValue.toSigned64?, Option.filter_some, fits, if_true]

/-- A number of 32 signed bits is read back. -/
theorem JsonValue.toSigned64?_ofInt32 (value : Int32) :
    (JsonValue.ofInt value.toInt).toSigned64? = some value.toInt := by
  have least : -2147483648 ≤ value.toInt := value.le_toInt
  have greatest : value.toInt ≤ 2147483647 := value.toInt_le
  refine JsonValue.toSigned64?_ofInt ?_ ?_
  · rw [Text.minSigned64]
    omega
  · rw [Text.maxSigned64]
    omega

/-- A position as it is stored. -/
def Aim.stored (aim : Aim) : Option JsonValue × Option JsonValue :=
  (some (.ofInt aim.x.toInt), some (.ofInt aim.y.toInt))

namespace Store

variable {store : Store}

@[simp] theorem values_setInt (key : String) (value : Int) :
    (store.setInt key value).values = store.values.insert key (.ofInt value) := rfl

/-- Setting a key leaves the numbers under all others. -/
theorem getInt_set_of_ne {key other : String} (different : other ≠ key) (value : JsonValue)
    (default : Int) : (store.set key value).getInt other default = store.getInt other default := by
  rw [getInt, set, JsonMembers.find?_insert_of_ne different, getInt]

/-- Setting a key leaves the texts under all others. -/
theorem getString_set_of_ne {key other : String} (different : other ≠ key) (value : JsonValue)
    (default : String) :
    (store.set key value).getString other default = store.getString other default := by
  rw [getString, set, JsonMembers.find?_insert_of_ne different, getString]

@[simp] theorem values_setFailCommits (fail : Bool) :
    (store.setFailCommits fail).values = store.values := by
  simp only [setFailCommits]
  split <;> rfl

/-- A commit changes no value. -/
@[simp] theorem values_commit : store.commit.2.values = store.values := by
  simp only [commit]
  split
  next =>
    split
    next => rfl
    next => rfl
  next =>
    split
    next =>
      split
      next => rfl
      next => rfl
    next => rfl

/-- What a store has under the keys of the position. -/
def storedAim (store : Store) : Option JsonValue × Option JsonValue :=
  (store.values.find? Key.lastX, store.values.find? Key.lastY)

/-- Whatever default is given, looking up the position gives this one. -/
def Holds (store : Store) (aim : Aim) : Prop :=
  ∀ default, store.getInt Key.lastX default = aim.x.toInt ∧
    store.getInt Key.lastY default = aim.y.toInt

/-- A position that is stored is found. -/
theorem holds_of_storedAim_eq {aim : Aim} (same : store.storedAim = aim.stored) :
    store.Holds aim := by
  obtain ⟨foundX, foundY⟩ := Prod.mk.inj same
  intro default
  simp only [getInt, foundX, foundY, Option.bind_some, JsonValue.toSigned64?_ofInt32,
    Option.getD_some, and_self]

/-- No store holds two positions. -/
theorem Holds.unique {first second : Aim} (holds : store.Holds first)
    (other : store.Holds second) : first = second := by
  obtain ⟨sameX, sameY⟩ := holds 0
  obtain ⟨sameX', sameY'⟩ := other 0
  obtain ⟨x, y⟩ := first
  obtain ⟨x', y'⟩ := second
  have x_eq : x = x' := Int32.toInt_inj.mp (sameX.symm.trans sameX')
  have y_eq : y = y' := Int32.toInt_inj.mp (sameY.symm.trans sameY')
  rw [x_eq, y_eq]

/-- Where one position is stored, holding a position is being that one. -/
theorem holds_iff_of_storedAim_eq {kept aim : Aim} (same : store.storedAim = kept.stored) :
    store.Holds aim ↔ kept = aim := by
  constructor
  · exact fun holds => (holds_of_storedAim_eq same).unique holds
  · rintro rfl
    exact holds_of_storedAim_eq same

/-- A number of 32 signed bits that is found under a key is read as it is. -/
theorem getSigned32_eq {key : String} {value : Int32} (found : store.getInt key 0 = value.toInt) :
    store.getSigned32 key = value := by
  have least : -2147483648 ≤ value.toInt := value.le_toInt
  have greatest : value.toInt ≤ 2147483647 := value.toInt_le
  simp only [getSigned32, found, least, greatest, and_self, if_true, Int32.ofInt_toInt]

/-- The position that a store holds is the one it is read as. -/
theorem Holds.aim_eq {aim : Aim} (holds : store.Holds aim) : store.aim = aim := by
  rw [Store.aim, getSigned32_eq (holds 0).1, getSigned32_eq (holds 0).2]

/-- The position that is put into a store is stored. -/
@[simp] theorem storedAim_setAim (aim : Aim) : (store.setAim aim).storedAim = aim.stored := by
  have foundX : (store.setAim aim).values.find? Key.lastX = some (.ofInt aim.x.toInt) := by
    rw [setAim, values_setInt, JsonMembers.find?_insert_of_ne (by decide), values_setInt,
      JsonMembers.find?_insert_self]
  have foundY : (store.setAim aim).values.find? Key.lastY = some (.ofInt aim.y.toInt) := by
    rw [setAim, values_setInt, JsonMembers.find?_insert_self]
  rw [storedAim, foundX, foundY, Aim.stored]

/-- Another key than those of the position leaves the stored position. -/
theorem storedAim_setInt {key : String} (notX : Key.lastX ≠ key) (notY : Key.lastY ≠ key)
    (value : Int) : (store.setInt key value).storedAim = store.storedAim := by
  rw [storedAim, values_setInt, JsonMembers.find?_insert_of_ne notX,
    JsonMembers.find?_insert_of_ne notY, storedAim]

@[simp] theorem storedAim_commit : store.commit.2.storedAim = store.storedAim := by
  rw [storedAim, values_commit, storedAim]

@[simp] theorem storedAim_setFailCommits (fail : Bool) :
    (store.setFailCommits fail).storedAim = store.storedAim := by
  rw [storedAim, values_setFailCommits, storedAim]

end Store

end OpticalLink
