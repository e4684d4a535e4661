import OpticalLink.Volume

/-!
# Replacing a file

A replacement succeeds exactly if none of its steps fails, and then the file at the path has the
new content (`Volume.replace_cases`, `Volume.isOk_replace_iff`). As long as it is not renamed, the
new file stands where nothing stood before. It is on no way that leads anywhere, so that the other
steps fare as they would without it (`Volume.stepFault?_put_file`), and taking it away gives the
volume back (`Volume.remove_put`). Resolving the path once more leads to the same place, since a
file is renamed to where no directory stood.
-/

namespace OpticalLink

variable {volume : Volume} {place other : Place} {content : Bytes} {path : String}

namespace Volume

/-! ## Putting a file -/

theorem entryAt_put_of_ne (different : other ≠ place) (entry : VolumeEntry) :
    (volume.put place entry).entryAt other = volume.entryAt other := by
  have skipped : ((volume.put place entry).entries.find? fun entry => entry.1 = other) =
      volume.entries.find? fun entry => entry.1 = other := by
    rw [put, List.find?_cons_of_neg (by simpa using different.symm), remove, List.find?_filter]
    congr 1
    funext entry
    by_cases same : entry.1 = other <;> simp [same, different]
  rw [entryAt, entryAt, skipped]

/-- The root and what is above it are directories, so that other entries have a name. -/
theorem names_ne_nil (noFolder : volume.entryAt place ≠ some .directory) :
    place.names ≠ [] := by
  intro unnamed
  apply noFolder
  rw [entryAt, unnamed]
  rfl

theorem noFolder_of_free (free : volume.entryAt place = none) :
    volume.entryAt place ≠ some .directory := by
  rw [free]
  nofun

/-- What is put in the place of no directory stands there. -/
theorem entryAt_put_self (noFolder : volume.entryAt place ≠ some .directory)
    (entry : VolumeEntry) : (volume.put place entry).entryAt place = some entry := by
  rw [entryAt, if_neg (by simpa using names_ne_nil noFolder), put, List.find?_cons_of_pos (by simp)]
  rfl

theorem remove_of_free (free : volume.entryAt place = none) : volume.remove place = volume := by
  have named := names_ne_nil (noFolder_of_free free)
  have absent : ∀ entry ∈ volume.entries, entry.1 ≠ place := by
    rw [entryAt, if_neg (by simpa using named), Option.map_eq_none_iff,
      List.find?_eq_none] at free
    simpa using free
  have same : volume.entries.filter (fun other => other.1 ≠ place) = volume.entries :=
    List.filter_eq_self.mpr (by simpa using absent)
  rw [remove, same]

theorem remove_put (free : volume.entryAt place = none) (entry : VolumeEntry) :
    (volume.put place entry).remove place = volume := by
  have again : (volume.put place entry).remove place = (volume.remove place).remove place := by
    rw [put, remove, List.filter_cons_of_neg (by simp)]
    rfl
  rw [again, remove_of_free free, remove_of_free free]

theorem put_put (volume : Volume) (place : Place) (first second : VolumeEntry) :
    (volume.put place first).put place second = volume.put place second := by
  have again : ((volume.put place first).remove place).entries =
      (volume.remove place).entries := by
    rw [put, remove, List.filter_cons_of_neg (by simp), remove, List.filter_filter]
    simp only [Bool.and_self]
  rw [put, again]
  rfl

theorem move_put (free : volume.entryAt place = none) (entry : VolumeEntry) (target : Place) :
    (volume.put place entry).move place target = volume.put target entry := by
  rw [move, entryAt_put_self (noFolder_of_free free), remove_put free]

/-! ## Ways -/

theorem bind_eq_ok_iff {α β : Type} {result : Except IoFault α} {next : α → Except IoFault β}
    {value : β} :
    result >>= next = .ok value ↔ ∃ between, result = .ok between ∧ next between = .ok value := by
  cases result with
  | error fault => exact iff_of_false nofun nofun
  | ok between => exact ⟨fun done => ⟨between, rfl, done⟩, fun ⟨_, rfl, done⟩ => done⟩

theorem walk_cons_eq_ok_iff {first : String} {rest : List String} {last : Place} :
    volume.walk place (first :: rest) = .ok last ↔
      ∃ between, volume.descend place first = .ok between ∧
        volume.walk between rest = .ok last := by
  rw [walk, List.foldlM_cons, bind_eq_ok_iff]
  rfl

theorem walk_append_singleton_eq_ok_iff {before : List String} {part : String} {last : Place} :
    volume.walk place (before ++ [part]) = .ok last ↔
      ∃ folder, volume.walk place before = .ok folder ∧ volume.descend folder part = .ok last := by
  rw [walk, List.foldlM_append, bind_eq_ok_iff]
  simp only [List.foldlM_cons, List.foldlM_nil, bind_pure]
  rfl

/-- In the place of no directory, a file is on no way that leads anywhere. -/
theorem descend_put_file (noFolder : volume.entryAt place ≠ some .directory) {part : String}
    {next : Place} :
    (volume.put place (.file content)).descend other part = .ok next ↔
      volume.descend other part = .ok next := by
  by_cases same : other = place
  · rw [same, descend, descend, entryAt_put_self noFolder]
    refine iff_of_false nofun ?_
    split
    next folder => exact absurd folder noFolder
    next => nofun
    next => nofun
  · rw [descend, descend, entryAt_put_of_ne same]

theorem walk_put_file (noFolder : volume.entryAt place ≠ some .directory) {parts : List String}
    {last : Place} :
    (volume.put place (.file content)).walk other parts = .ok last ↔
      volume.walk other parts = .ok last := by
  induction parts generalizing other with
  | nil => exact Iff.rfl
  | cons first rest inductionHypothesis =>
    rw [walk_cons_eq_ok_iff, walk_cons_eq_ok_iff]
    exact exists_congr fun between =>
      and_congr (descend_put_file noFolder) inductionHypothesis

/-! ## The target of a replacement -/

/-- A path whose last part is a name, with no dots in its place and no slash behind it. -/
def EndsInName (path : String) : Prop :=
  ∃ before last, parts path = before ++ [last] ∧ last ∉ ["", ".", ".."]

/-- A path without a slash at its end has none to leave out. -/
theorem reverse_parts_of_dropWhile {backwards : List String}
    (slashless : (parts path).reverse.dropWhile (· = "") = backwards)
    (noSlash : (parts path).reverse.head? ≠ some "") : (parts path).reverse = backwards := by
  rw [← slashless]
  cases reversed : (parts path).reverse with
  | nil => rfl
  | cons first rest =>
    rw [reversed, List.head?_cons, ne_eq, Option.some.injEq] at noSlash
    rw [List.dropWhile_cons_of_neg (by simpa using noSlash)]

/-- A file is renamed to the place to which its path leads, where no directory stands. -/
theorem target_eq_ok_iff :
    volume.target path = .ok place ↔ admissible path = .ok () ∧ EndsInName path ∧
      volume.walk (start path) (parts path) = .ok place ∧
      volume.entryAt place ≠ some .directory := by
  constructor
  · intro found
    rw [target, bind_eq_ok_iff] at found
    obtain ⟨_, allowed, found⟩ := found
    dsimp only at found
    split at found
    next => cases found
    next last before slashless =>
    simp only [bind_eq_ok_iff] at found
    obtain ⟨folder, walked, reached, descended, found⟩ := found
    split at found
    next => cases found
    next notDots =>
    split at found
    next => cases found
    next noSlash =>
    split at found
    next => cases found
    next free =>
    cases found
    have backwards := reverse_parts_of_dropWhile slashless noSlash
    have parts_eq : parts path = before.reverse ++ [last] := by
      rw [List.reverse_eq_iff.mp backwards, List.reverse_cons]
    have named : last ∉ ["", ".", ".."] := by
      rw [backwards, List.head?_cons, Option.some.injEq] at noSlash
      simpa using ⟨noSlash, not_or.mp notDots⟩
    refine ⟨allowed, ⟨before.reverse, last, parts_eq, named⟩, ?_, free⟩
    rw [parts_eq, walk_append_singleton_eq_ok_iff]
    exact ⟨folder, walked, descended⟩
  · rintro ⟨allowed, ⟨before, last, parts_eq, named⟩, walked, free⟩
    rw [parts_eq, walk_append_singleton_eq_ok_iff] at walked
    obtain ⟨folder, walked, descended⟩ := walked
    simp only [List.mem_cons, List.not_mem_nil, or_false, not_or] at named
    have backwards : (parts path).reverse = last :: before.reverse := by
      rw [parts_eq, List.reverse_append, List.reverse_singleton, List.singleton_append]
    have slashless : (parts path).reverse.dropWhile (· = "") = last :: before.reverse := by
      rw [backwards, List.dropWhile_cons_of_neg (by simpa using named.1)]
    have noSlash : (parts path).reverse.head? ≠ some "" := by
      simpa [backwards] using named.1
    simp only [target, allowed, slashless, List.reverse_reverse, walked, descended, bind,
      Except.bind]
    rw [if_neg (not_or.mpr named.2), if_neg noSlash, if_neg free]

/-- A file in the place of no directory leaves the target where it is. -/
theorem target_put_file (noFolder : volume.entryAt other ≠ some .directory) :
    (volume.put other (.file content)).target path = .ok place ↔
      volume.target path = .ok place := by
  have unlike : (volume.put other (.file content)).entryAt place ≠ some .directory ↔
      volume.entryAt place ≠ some .directory := by
    by_cases same : place = other
    · rw [same, entryAt_put_self noFolder]
      exact iff_of_true nofun noFolder
    · rw [entryAt_put_of_ne same]
  rw [target_eq_ok_iff, target_eq_ok_iff, walk_put_file noFolder, unlike]

/-- A file that is put to its target is read there. -/
theorem read_put_file (targeted : volume.target path = .ok place) :
    (volume.put place (.file content)).read path = .ok content := by
  obtain ⟨allowed, -, walked, noFolder⟩ := target_eq_ok_iff.mp targeted
  simp only [read, resolve, allowed, (walk_put_file noFolder).mpr walked,
    entryAt_put_self noFolder, bind, Except.bind]

/-! ## Steps -/

theorem faultOf?_eq_none_iff {α : Type} {result : Except IoFault α} :
    faultOf? result = none ↔ ∃ value, result = .ok value := by
  cases result with
  | error fault => exact iff_of_false nofun nofun
  | ok value => exact iff_of_true rfl ⟨value, rfl⟩

/-- A step fails by itself or because replacements break down there. -/
theorem stepFault?_eq_none_iff {step : ReplaceStep} :
    volume.stepFault? path step = none ↔
      (match step with
        | .create => ∃ place, volume.newPlace path = .ok place
        | .write | .sync => True
        | .rename => ∃ place, volume.target path = .ok place) ∧
      volume.breakdown.filter (fun breakdown => breakdown.1 = step) = none := by
  unfold stepFault?
  dsimp only
  rw [Option.orElse_eq_or, Option.or_eq_none_iff, Option.map_eq_none_iff]
  cases step <;> simp only [faultOf?_eq_none_iff]

/-- The place of a new file is free. -/
theorem free_of_newPlace_eq_ok (found : volume.newPlace path = .ok place) :
    volume.entryAt place = none := by
  rw [newPlace] at found
  split at found
  next => cases found
  next =>
    rw [bind_eq_ok_iff] at found
    obtain ⟨folder, -, found⟩ := found
    dsimp only at found
    split at found
    next => cases found
    next free =>
      cases found
      exact Option.not_isSome_iff_eq_none.mp free

/-- Once there, a new file is in the way of no step. -/
theorem stepFault?_put_file (noFolder : volume.entryAt place ≠ some .directory)
    {step : ReplaceStep} (later : step ≠ .create) :
    (volume.put place (.file content)).stepFault? path step = none ↔
      volume.stepFault? path step = none := by
  rw [stepFault?_eq_none_iff, stepFault?_eq_none_iff]
  refine and_congr ?_ Iff.rfl
  cases step with
  | create => exact absurd rfl later
  | write | sync => exact Iff.rfl
  | rename => exact exists_congr fun _ => target_put_file noFolder

end Volume

/-! ## Replacing -/

/-- With the new file there, a step that fails gives the volume back, whatever the new file
holds by then. -/
theorem Replacement.run_of_fault (free : volume.entryAt place = none) {filled : Bytes}
    {before : List ReplaceStep} (fills : ∀ step ∈ before, step = .write ∨ step = .sync)
    {failing : ReplaceStep} (mem : failing ∈ before ++ [.rename])
    (fails : volume.stepFault? path failing ≠ none) :
    ∃ fault, run path content ⟨volume.put place (.file filled), some place⟩
      (before ++ [.rename]) = (.error fault, volume) := by
  have abandoned (filled : Bytes) :
      abandon ⟨volume.put place (.file filled), some place⟩ = volume := Volume.remove_put free _
  have noFolder := Volume.noFolder_of_free free
  -- What the new file holds changes on the way, where it stands does not.
  induction before generalizing filled with
  | nil =>
    rw [List.nil_append, List.mem_singleton] at mem
    subst mem
    rw [List.nil_append, run]
    cases failed : (volume.put place (.file filled)).stepFault? path .rename with
    | some fault => exact ⟨fault, congrArg (Prod.mk _) (abandoned filled)⟩
    | none => exact absurd ((Volume.stepFault?_put_file noFolder (by decide)).mp failed) fails
  | cons first rest inductionHypothesis =>
    have firstFills : first = .write ∨ first = .sync := fills first List.mem_cons_self
    have later : first ≠ .create := by
      rintro rfl
      simp at firstFills
    rw [List.cons_append, run]
    cases failed : (volume.put place (.file filled)).stepFault? path first with
    | some fault => exact ⟨fault, congrArg (Prod.mk _) (abandoned filled)⟩
    | none =>
      have passed : failing ≠ first := by
        rintro rfl
        exact fails ((Volume.stepFault?_put_file noFolder later).mp failed)
      have memRest : failing ∈ rest ++ [.rename] := by
        rw [List.cons_append, List.mem_cons] at mem
        exact mem.resolve_left passed
      have restFills : ∀ step ∈ rest, step = .write ∨ step = .sync :=
        fun step mem => fills step (List.mem_cons_of_mem _ mem)
      rcases firstFills with rfl | rfl
      · simp only [after, Volume.put_put]
        exact inductionHypothesis restFills memRest
      · exact inductionHypothesis restFills memRest

namespace Volume

/-- A replacement of which a step fails leaves the volume as it was. -/
theorem replace_of_fault {step : ReplaceStep} (fails : volume.stepFault? path step ≠ none) :
    ∃ fault, volume.replace path content = (.error fault, volume) := by
  rw [replace, ReplaceStep.all, Replacement.run]
  cases created : volume.stepFault? path .create with
  | some fault => exact ⟨fault, rfl⟩
  | none =>
    obtain ⟨place, found⟩ := (stepFault?_eq_none_iff.mp created).1
    have mem : step ∈ [.write, .sync] ++ [ReplaceStep.rename] := by
      cases step with
      | create => exact absurd created fails
      | write | sync | rename => decide
    simp only [Replacement.after, found]
    exact Replacement.run_of_fault (free_of_newPlace_eq_ok found) (by simp) mem fails

/-- A replacement of which no step fails puts the new file in the place to which its path
leads. -/
theorem replace_of_no_fault (unfailed : ∀ step, volume.stepFault? path step = none) :
    ∃ place, volume.target path = .ok place ∧
      volume.replace path content = (.ok (), volume.put place (.file content)) := by
  obtain ⟨new, found⟩ := (stepFault?_eq_none_iff.mp (unfailed .create)).1
  obtain ⟨place, targeted⟩ := (stepFault?_eq_none_iff.mp (unfailed .rename)).1
  have free := free_of_newPlace_eq_ok found
  have noFolder := noFolder_of_free free
  have unfailedBeside (filled : Bytes) {step : ReplaceStep} (later : step ≠ .create) :
      (volume.put new (.file filled)).stepFault? path step = none :=
    (stepFault?_put_file noFolder later).mpr (unfailed step)
  refine ⟨place, targeted, ?_⟩
  simp only [replace, ReplaceStep.all, Replacement.run, Replacement.after, unfailed, found,
    unfailedBeside, put_put, (target_put_file noFolder).mpr targeted, move_put free, ne_eq,
    reduceCtorEq, not_false_eq_true]

/-- A replacement fails and leaves the volume, or it succeeds and the new content is read. -/
theorem replace_cases (volume : Volume) (path : String) (content : Bytes) :
    (∃ fault, volume.replace path content = (.error fault, volume)) ∨
      ∃ next, volume.replace path content = (.ok (), next) ∧ next.read path = .ok content := by
  by_cases unfailed : ∀ step, volume.stepFault? path step = none
  · obtain ⟨place, targeted, replaced⟩ := replace_of_no_fault unfailed
    exact .inr ⟨_, replaced, read_put_file targeted⟩
  · obtain ⟨step, fails⟩ := Classical.not_forall.mp unfailed
    exact .inl (replace_of_fault fails)

/-- A replacement succeeds exactly if none of its steps fails. -/
theorem isOk_replace_iff (volume : Volume) (path : String) (content : Bytes) :
    (volume.replace path content).1.isOk = true ↔
      ∀ step, volume.stepFault? path step = none := by
  constructor
  · intro replaced step
    apply Decidable.byContradiction
    intro fails
    obtain ⟨fault, refused⟩ := replace_of_fault fails
    rw [refused] at replaced
    cases replaced
  · intro unfailed
    obtain ⟨place, -, replaced⟩ := replace_of_no_fault unfailed
    rw [replaced]
    rfl

end Volume

end OpticalLink
