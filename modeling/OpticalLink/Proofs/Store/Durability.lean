import Mathlib
import OpticalLink.Proofs.Store.Lookup
import OpticalLink.Proofs.Volume.Replacing

/-!
# Durability of a file store

What a file store keeps in its file are the values of its last successful commit, however often
commits fail and at whatever step. `FileEvent` is what a call means for the file: values are
changed, or they are saved. `Store.Backed` says that the file holds what was saved last and
that the mark for changes is set exactly when the last event was a change; each call keeps it
(`Store.Backed.act`).
-/

namespace OpticalLink

/-- What can be done to a file store, or to the volume under it. -/
inductive FileCall where
  | setInt (key : String) (value : Int)
  | setString (key value : String)
  /-- A commit, where a step of replacing the file breaks down or none. -/
  | commit (breakdown : Option (ReplaceStep × IoFault))
  /-- Others change the volume, but not what is read at the path of the store. -/
  | meanwhile (volume : Volume)

/-- What a call means for the file of a store. -/
inductive FileEvent where
  /-- A value was set. -/
  | changed
  /-- A commit succeeded, when the store had some values. -/
  | saved (values : JsonMembers)

namespace FileEvent

/-- The values that were saved. -/
def saved? : FileEvent → Option JsonMembers
  | .changed => none
  | .saved values => some values

/-- Whether a value was set. -/
def changes : FileEvent → Bool
  | .changed => true
  | .saved _ => false

/-- The values that were saved last, or else those that were loaded. -/
def lastSaved (loaded : JsonMembers) (events : List FileEvent) : JsonMembers :=
  (events.filterMap saved?).getLast?.getD loaded

/-- Whether a value was set since values were saved last. -/
def unsaved (events : List FileEvent) : Bool := events.getLast?.any changes

theorem unsaved_eq_true_iff {events : List FileEvent} :
    unsaved events = true ↔ events.getLast? = some .changed := by
  rw [unsaved, Option.any_eq_true]
  constructor
  · rintro ⟨_ | _, last, ⟨⟩⟩
    exact last
  · exact fun last => ⟨.changed, last, rfl⟩

@[simp] theorem unsaved_append_singleton (events : List FileEvent) (event : FileEvent) :
    unsaved (events ++ [event]) = event.changes := by
  rw [unsaved, List.getLast?_concat, Option.any_some]

@[simp] theorem lastSaved_append_singleton (loaded : JsonMembers) (events : List FileEvent)
    (event : FileEvent) :
    lastSaved loaded (events ++ [event]) = event.saved?.getD (lastSaved loaded events) := by
  rw [lastSaved, lastSaved, List.filterMap_append]
  cases event with
  | changed => simp [saved?]
  | saved values => simp [saved?]

end FileEvent

namespace Store

variable {store : Store} {path : String} {loaded : JsonMembers} {past : List FileEvent}

/-! ## Reading the file -/

/-- Values that are read back from the file that is made of them. -/
def Legible (values : JsonMembers) : Prop :=
  JsonValue.ofBytes? (fileContent values) = some (.object values)

/-- A file that is made of values is not blank: it starts with a brace. -/
theorem all_isSpace_fileContent (values : JsonMembers) : (fileContent values).all isSpace = false := by
  have opened : ∃ rest, (JsonValue.object values).pretty = "\x7b" ++ rest := by
    rw [JsonValue.pretty, JsonValue.indented, JsonValue.bracketed]
    split
    next => exact ⟨_, rfl⟩
    next =>
      simp only [String.append_assoc]
      exact ⟨_, rfl⟩
  obtain ⟨rest, opened⟩ := opened
  rw [fileContent, opened, Bytes.ofText, String.toUTF8, String.toByteArray_append,
    String.toByteArray_append, ByteArray.data_append, ByteArray.data_append, Array.toList_append,
    Array.toList_append]
  rfl

theorem loadValues_fileContent {values : JsonMembers} (legible : Legible values) :
    loadValues path (.ok (fileContent values)) = .ok values := by
  rw [Legible] at legible
  simp only [loadValues, all_isSpace_fileContent, legible]
  rfl

theorem map_values_openFile (volume : Volume) (path : String) :
    (openFile volume path).map values = loadValues path (volume.read path) := by
  rw [openFile]
  cases loadValues path (volume.read path) <;> rfl

/-! ## Calls -/

/-- The store over a volume where replacements break down at a step, or at none. -/
def facing (store : Store) (breakdown : Option (ReplaceStep × IoFault)) : Store :=
  { store with volume := { store.volume with breakdown } }

/-- Whether the file of a store is the same in another volume. -/
def sparedBy (store : Store) (volume : Volume) : Bool :=
  store.path?.all fun path => decide (volume.read path = store.volume.read path)

/-- The store after a call. -/
def act (store : Store) : FileCall → Store
  | .setInt key value => store.setInt key value
  | .setString key value => store.setString key value
  | .commit breakdown => (store.facing breakdown).commit.2
  | .meanwhile volume => if store.sparedBy volume then { store with volume } else store

/-- The store after some calls. -/
def actAll (store : Store) (calls : List FileCall) : Store := calls.foldl act store

/-- What a call means for the file. -/
def event? (store : Store) : FileCall → Option FileEvent
  | .setInt _ _ | .setString _ _ => some .changed
  | .commit breakdown =>
    if (store.facing breakdown).commit.1.isOk then some (.saved store.values) else none
  | .meanwhile _ => none

/-- What some calls mean for the file. -/
def events (store : Store) : List FileCall → List FileEvent
  | [] => []
  | first :: rest => (store.event? first).toList ++ (store.act first).events rest

/-- A commit without changes does nothing. -/
theorem commit_of_clean (clean : store.medium = .file path false) :
    store.commit = (.ok (), store) := by
  simp only [commit, clean]
  rfl

/-- A commit of changes that can replace the file does so, and clears the mark. -/
theorem commit_of_replace_eq_ok (dirty : store.medium = .file path true) {volume : Volume}
    (replaced : store.volume.replace path (fileContent store.values) = (.ok (), volume)) :
    store.commit = (.ok (), { store with volume, medium := .file path false }) := by
  simp only [commit, dirty, replaced]
  rfl

/-- A commit of changes that cannot replace the file does nothing, as the volume is left. -/
theorem commit_of_replace_eq_error (dirty : store.medium = .file path true) {fault : IoFault}
    (refused : store.volume.replace path (fileContent store.values) =
      (.error fault, store.volume)) :
    store.commit = (.error (.io path fault), store) := by
  simp only [commit, dirty, refused]
  rw [← dirty]
  rfl

/-! ## What the file holds -/

/-- A store whose file holds the values that were saved last, and whose mark is set for those
that were not. -/
structure Backed (store : Store) (path : String) (loaded : JsonMembers)
    (past : List FileEvent) : Prop where
  medium_eq : store.medium = .file path (FileEvent.unsaved past)
  loads : loadValues path (store.volume.read path) = .ok (FileEvent.lastSaved loaded past)
  values_eq : FileEvent.unsaved past = false → store.values = FileEvent.lastSaved loaded past

theorem backed_of_openFile {volume : Volume} (opened : openFile volume path = .ok store) :
    store.Backed path store.values [] := by
  rw [openFile] at opened
  cases loaded : loadValues path (volume.read path) with
  | error error =>
    rw [loaded] at opened
    cases opened
  | ok values =>
    rw [loaded] at opened
    cases opened
    exact ⟨rfl, loaded, fun _ => rfl⟩

theorem Backed.set (backed : store.Backed path loaded past) (key : String) (value : JsonValue) :
    (store.set key value).Backed path loaded (past ++ [.changed]) where
  medium_eq := by
    rw [FileEvent.unsaved_append_singleton, Store.set, backed.medium_eq]
    rfl
  loads := by
    rw [FileEvent.lastSaved_append_singleton]
    exact backed.loads
  values_eq := by
    rw [FileEvent.unsaved_append_singleton]
    intro saved
    cases saved

/-- What a replacement would meet is nothing that the file holds. -/
theorem Backed.facing (backed : store.Backed path loaded past)
    (breakdown : Option (ReplaceStep × IoFault)) :
    (store.facing breakdown).Backed path loaded past :=
  ⟨backed.medium_eq, backed.loads, backed.values_eq⟩

/-- A store whose file holds its values, and which has no others. -/
theorem backed_saved (clean : store.medium = .file path false)
    (loads : loadValues path (store.volume.read path) = .ok store.values) :
    store.Backed path loaded (past ++ [.saved store.values]) where
  medium_eq := by
    rw [FileEvent.unsaved_append_singleton, clean]
    rfl
  loads := by
    rw [FileEvent.lastSaved_append_singleton, loads]
    rfl
  values_eq := by
    intro _
    rw [FileEvent.lastSaved_append_singleton]
    rfl

/-- A commit finds nothing to save, or it cannot replace the file, or it does. -/
theorem Backed.commit_cases (backed : store.Backed path loaded past) :
    (FileEvent.unsaved past = false ∧ store.medium = .file path false ∧
        store.commit = (.ok (), store)) ∨
      (∃ fault, store.commit = (.error (.io path fault), store)) ∨
      ∃ volume, volume.read path = .ok (fileContent store.values) ∧
        store.commit = (.ok (), { store with volume, medium := .file path false }) := by
  have medium_eq := backed.medium_eq
  cases unsaved : FileEvent.unsaved past with
  | false =>
    rw [unsaved] at medium_eq
    exact .inl ⟨rfl, medium_eq, commit_of_clean medium_eq⟩
  | true =>
    rw [unsaved] at medium_eq
    rcases store.volume.replace_cases path (fileContent store.values) with
      ⟨fault, refused⟩ | ⟨volume, replaced, reads⟩
    · exact .inr (.inl ⟨fault, commit_of_replace_eq_error medium_eq refused⟩)
    · exact .inr (.inr ⟨volume, reads, commit_of_replace_eq_ok medium_eq replaced⟩)

/-- A commit saves the values, or it fails and leaves the store as it was. -/
theorem Backed.commit (backed : store.Backed path loaded past) (legible : Legible store.values) :
    store.commit.2.Backed path loaded
      (past ++ (if store.commit.1.isOk then some (.saved store.values) else none).toList) := by
  rcases backed.commit_cases with
    ⟨unchanged, clean, committed⟩ | ⟨fault, refused⟩ | ⟨volume, reads, committed⟩
  · rw [committed]
    -- Without changes the file has the values already, so that they count as saved once more.
    have loads : loadValues path (store.volume.read path) = .ok store.values := by
      rw [backed.loads, backed.values_eq unchanged]
    exact backed_saved clean loads
  · rw [refused]
    show store.Backed path loaded (past ++ [])
    rw [List.append_nil]
    exact backed
  · rw [committed]
    let after : Store := { store with volume, medium := .file path false }
    show after.Backed path loaded (past ++ [.saved after.values])
    have loads : loadValues path (volume.read path) = .ok after.values := by
      rw [reads, loadValues_fileContent legible]
    exact backed_saved rfl loads

/-- A commit that fails does nothing. -/
theorem commit_of_not_isOk (backed : store.Backed path loaded past)
    (failed : store.commit.1.isOk = false) : store.commit.2 = store := by
  rcases backed.commit_cases with ⟨-, -, committed⟩ | ⟨fault, refused⟩ | ⟨volume, -, committed⟩
  · rw [committed]
  · rw [refused]
  · rw [committed] at failed
    cases failed

/-- A commit of changes fails only with a step of replacing the file, and else writes the
values. -/
theorem isOk_commit_of_dirty (dirty : store.medium = .file path true) :
    (store.commit.1.isOk = true ↔ ∀ step, store.volume.stepFault? path step = none) ∧
      (store.commit.1.isOk = true →
        store.commit.2.volume.read path = .ok (fileContent store.values)) := by
  rw [← store.volume.isOk_replace_iff path (fileContent store.values)]
  rcases store.volume.replace_cases path (fileContent store.values) with
    ⟨fault, refused⟩ | ⟨volume, replaced, reads⟩
  · rw [commit_of_replace_eq_error dirty refused, refused]
    exact ⟨Iff.rfl, nofun⟩
  · rw [commit_of_replace_eq_ok dirty replaced, replaced]
    exact ⟨Iff.rfl, fun _ => reads⟩

/-- A call keeps what the file holds in step with the events. -/
theorem Backed.act (backed : store.Backed path loaded past) {call : FileCall}
    (legible : ∀ breakdown, call = .commit breakdown → Legible store.values) :
    (store.act call).Backed path loaded (past ++ (store.event? call).toList) := by
  cases call with
  | setInt key value => exact backed.set key _
  | setString key value => exact backed.set key _
  | commit breakdown =>
    exact (backed.facing breakdown).commit (legible breakdown rfl)
  | meanwhile volume =>
    rw [event?, Option.toList_none, List.append_nil, Store.act]
    split
    next spared =>
      have same : volume.read path = store.volume.read path := by
        rw [sparedBy, path?, backed.medium_eq, Option.all_some, decide_eq_true_eq] at spared
        exact spared
      exact ⟨backed.medium_eq, by rw [same, backed.loads], backed.values_eq⟩
    next => exact backed

/-- Calls keep what the file holds in step with the events. -/
theorem Backed.actAll (backed : store.Backed path loaded past) {calls : List FileCall}
    (legible : ∀ before breakdown after, calls = before ++ .commit breakdown :: after →
      Legible (store.actAll before).values) :
    (store.actAll calls).Backed path loaded (past ++ store.events calls) := by
  induction calls generalizing store past with
  | nil =>
    rw [events, List.append_nil]
    exact backed
  | cons first rest inductionHypothesis =>
    have acted : (store.act first).Backed path loaded (past ++ (store.event? first).toList) :=
      backed.act fun breakdown isCommit =>
        legible [] breakdown rest (congrArg (· :: rest) isCommit)
    rw [events, ← List.append_assoc]
    exact inductionHypothesis acted fun before breakdown after split =>
      legible (first :: before) breakdown after (congrArg (first :: ·) split)

theorem events_append_singleton (calls : List FileCall) (call : FileCall) :
    store.events (calls ++ [call]) =
      store.events calls ++ ((store.actAll calls).event? call).toList := by
  induction calls generalizing store with
  | nil => exact List.append_nil _
  | cons first rest inductionHypothesis =>
    rw [List.cons_append, events, inductionHypothesis, ← List.append_assoc]
    rfl

/-- Throughout the life of a file store, opening its path afresh gives the values of the last
successful commit, or those that were loaded if there was none. A commit changes no value. One
that fails leaves the file as it was as well, and the changes are still to be saved. Changes are
saved unless a step of replacing the file fails. Without changes since the last successful
commit nothing is touched, whatever would break down. -/
theorem reopened_after_commits {volume : Volume} {opened : Store}
    (loaded : openFile volume path = .ok opened) {calls : List FileCall}
    (legible : ∀ before breakdown after, calls = before ++ .commit breakdown :: after →
      Legible (opened.actAll before).values) :
    let state := opened.actAll calls
    let events := opened.events calls
    (openFile state.volume path).map values =
        .ok ((events.filterMap FileEvent.saved?).getLast?.getD opened.values) ∧
      ∀ breakdown,
        let facing := state.facing breakdown
        let result := facing.commit.1
        let after := facing.commit.2
        after.values = state.values ∧
        (result.isOk = false → after = facing ∧
          (opened.events (calls ++ [.commit breakdown])).getLast? = some .changed) ∧
        (events.getLast? = some .changed →
          (result.isOk = true ↔ ∀ step, facing.volume.stepFault? path step = none) ∧
          (result.isOk = true → after.volume.read path = .ok (fileContent state.values))) ∧
        (events.getLast? ≠ some .changed → result = .ok () ∧ after = facing) := by
  intro state events
  have backed := (backed_of_openFile loaded).actAll legible
  rw [List.nil_append] at backed
  refine ⟨(map_values_openFile _ _).trans backed.loads, fun breakdown => ?_⟩
  intro facing result after
  have facingBacked : facing.Backed path opened.values events := backed.facing breakdown
  have whenClean (unchanged : events.getLast? ≠ some .changed) :
      facing.commit = (.ok (), facing) := by
    have clean := facingBacked.medium_eq
    rw [Bool.eq_false_iff.mpr (mt FileEvent.unsaved_eq_true_iff.mp unchanged)] at clean
    exact commit_of_clean clean
  refine ⟨values_commit, fun failed => ⟨commit_of_not_isOk facingBacked failed, ?_⟩,
    fun changed => ?_, fun unchanged => ?_⟩
  · have noEvent : state.event? (.commit breakdown) = none :=
      if_neg (Bool.eq_false_iff.mp failed)
    rw [events_append_singleton, noEvent, Option.toList_none, List.append_nil]
    -- A commit that has nothing to save does not fail.
    by_contra unchanged
    have worked : result = .ok () := congrArg Prod.fst (whenClean unchanged)
    rw [worked] at failed
    cases failed
  · have dirty := facingBacked.medium_eq
    rw [FileEvent.unsaved_eq_true_iff.mpr changed] at dirty
    exact isOk_commit_of_dirty dirty
  · exact ⟨congrArg Prod.fst (whenClean unchanged), congrArg Prod.snd (whenClean unchanged)⟩

/-- A value is saved and another one is set. Whoever opens the file finds the first. A commit
whose write breaks down fails, and one where nothing breaks down saves both. -/
theorem reopened_after_commits_unsaved_change :
    let fault : IoFault := ⟨.other, "no space left"⟩
    let opened : Store := ⟨[], .file "a" false, .empty⟩
    let state := opened.actAll [.setInt "x" 1, .commit none, .setInt "y" 2]
    (openFile state.volume "a").map values = .ok [("x", .ofInt 1)] ∧
      (state.facing (some (.write, fault))).commit.1.isOk = false ∧
      (state.facing none).commit.1.isOk = true ∧
      (state.facing none).commit.2.volume.read "a" =
        .ok (fileContent [("x", .ofInt 1), ("y", .ofInt 2)]) := by
  intro fault opened
  let holding (content : Bytes) : Volume :=
    { Volume.empty with entries := [(⟨.above 0, ["a"]⟩, .file content)] }
  let saved : Store := ⟨[("x", .ofInt 1)], .file "a" false,
    holding (fileContent [("x", .ofInt 1)])⟩
  -- Paths are cut by recursion on positions in a text, which `rfl` does not unfold.
  have loaded : openFile .empty "a" = .ok opened := by cbv
  have replaced (content : Bytes) :
      Volume.empty.replace "a" content = (.ok (), holding content) := by cbv
  have unfailing (content : Bytes) (step : ReplaceStep) :
      (holding content).stepFault? "a" step = none := by
    cases step <;> cbv
  have saves : ((opened.setInt "x" 1).facing none).commit = (.ok (), saved) :=
    commit_of_replace_eq_ok rfl (replaced _)
  have state_eq : opened.actAll [.setInt "x" 1, .commit none, .setInt "y" 2] =
      saved.setInt "y" 2 := by
    show ((opened.setInt "x" 1).facing none).commit.2.setInt "y" 2 = _
    rw [saves]
  have events_eq : opened.events [.setInt "x" 1, .commit none, .setInt "y" 2] =
      [.changed, .saved [("x", .ofInt 1)], .changed] := by
    have event_eq : (opened.setInt "x" 1).event? (.commit none) = some (.saved saved.values) := by
      rw [event?, saves]
      rfl
    show [.changed] ++ (((opened.setInt "x" 1).event? (.commit none)).toList ++ [.changed]) = _
    rw [event_eq]
    rfl
  have legible (before : List FileCall) (breakdown : Option (ReplaceStep × IoFault))
      (after : List FileCall)
      (split : [.setInt "x" 1, .commit none, .setInt "y" 2] =
        before ++ .commit breakdown :: after) : Legible (opened.actAll before).values := by
    -- Only the second of the three calls is a commit.
    rcases before with _ | ⟨first, _ | ⟨second, _ | ⟨third, rest⟩⟩⟩ <;> simp at split
    obtain ⟨rfl, -⟩ := split
    show JsonValue.ofBytes? (fileContent [("x", .ofInt 1)]) = _
    rfl
  obtain ⟨reopened, commits⟩ := reopened_after_commits loaded legible
  obtain ⟨-, -, broken, -⟩ := commits (some (.write, fault))
  obtain ⟨-, -, whole, -⟩ := commits none
  rw [events_eq, state_eq] at reopened broken whole
  obtain ⟨succeeds, writes⟩ := whole rfl
  have succeeded := succeeds.mpr (unfailing _)
  have failed := mt (broken rfl).1.mp fun all =>
    Option.some_ne_none fault (all .write)
  rw [state_eq]
  exact ⟨reopened, Bool.eq_false_iff.mpr failed, succeeded, writes succeeded⟩

end Store

end OpticalLink
