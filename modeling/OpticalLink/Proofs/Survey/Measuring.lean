import Mathlib.Data.List.Induction
import OpticalLink.Proofs.History
import OpticalLink.Proofs.Survey.Cells

/-!
# Surveys after any measurements

A survey remembers of each cell the latest measurement since the last reset, and its snapshot lists
what it remembers. `SurveyGrid.cells_of_latest_updates` says so of any measurements and resets in a
row, with the cells as the measurements themselves told them.
-/

namespace OpticalLink

/-- What is done with a survey. -/
inductive SurveyCall where
  | update (x y : Int32) (power : Milliwatts)
  | reset

/-- A call and the cell that it told, if it measured. -/
structure SurveyEntry where
  call : SurveyCall
  cell : Option (Nat × Nat)

namespace SurveyEntry

/-- Whether a power was measured in a cell. -/
def Stores (entry : SurveyEntry) (cell : Nat × Nat) (power : Milliwatts) : Prop :=
  entry.cell = some cell ∧ ∃ x y, entry.call = .update x y power

/-- Whether a cell was neither measured nor emptied. -/
def Leaves (entry : SurveyEntry) (cell : Nat × Nat) : Prop :=
  entry.cell ≠ some cell ∧ entry.call ≠ .reset

end SurveyEntry

namespace SurveyGrid

variable {grid : SurveyGrid}

/-- The cell that a call tells, and the grid after it. -/
def perform (grid : SurveyGrid) : SurveyCall → Option (Nat × Nat) × SurveyGrid
  | .update x y power => (some (grid.update x y power).1, (grid.update x y power).2)
  | .reset => (none, grid.reset)

/-- The grid after some calls. -/
def performAll (grid : SurveyGrid) (calls : List SurveyCall) : SurveyGrid :=
  calls.foldl (fun grid call => (grid.perform call).2) grid

/-- Some calls with the cells that they tell. -/
def log (grid : SurveyGrid) : List SurveyCall → List SurveyEntry
  | [] => []
  | call :: rest => ⟨call, (grid.perform call).1⟩ :: log (grid.perform call).2 rest

theorem performAll_append_singleton (grid : SurveyGrid) (calls : List SurveyCall)
    (last : SurveyCall) :
    grid.performAll (calls ++ [last]) = ((grid.performAll calls).perform last).2 := by
  rw [performAll, List.foldl_append]
  rfl

theorem log_append_singleton (grid : SurveyGrid) (calls : List SurveyCall) (last : SurveyCall) :
    grid.log (calls ++ [last]) =
      grid.log calls ++ [⟨last, ((grid.performAll calls).perform last).1⟩] := by
  induction calls generalizing grid with
  | nil => rfl
  | cons call rest inductionHypothesis =>
    rw [List.cons_append, log, inductionHypothesis]
    rfl

/-- No call changes the size of a grid. -/
theorem bins_perform (grid : SurveyGrid) (call : SurveyCall) :
    (grid.perform call).2.bins = grid.bins := by
  cases call <;> rfl

theorem bins_performAll (grid : SurveyGrid) (calls : List SurveyCall) :
    (grid.performAll calls).bins = grid.bins := by
  induction calls generalizing grid with
  | nil => rfl
  | cons call rest inductionHypothesis =>
    exact (inductionHypothesis (grid.perform call).2).trans (grid.bins_perform call)

/-! ## What is remembered -/

/-- A cell of a grid that was empty holds the power of its latest measurement, unless the grid was
emptied since. -/
theorem get?_performAll_eq_some_iff {start : SurveyGrid}
    (empty : ∀ xBin yBin, start.get? xBin yBin = none) (calls : List SurveyCall)
    (xBin yBin : Nat) (power : Milliwatts) :
    (start.performAll calls).get? xBin yBin = some power ↔
      Since (fun _ entry => entry.Stores (xBin, yBin) power)
        (fun later => later.Leaves (xBin, yBin)) (start.log calls) := by
  induction calls using List.reverseRecOn with
  | nil =>
    rw [performAll, List.foldl_nil, empty]
    exact iff_of_false nofun not_since_nil
  | append_singleton before last inductionHypothesis =>
    rw [log_append_singleton, since_append_singleton, ← inductionHypothesis,
      performAll_append_singleton]
    generalize start.performAll before = current
    cases last with
    | update x y measured =>
      change (current.update x y measured).2.get? xBin yBin = some power ↔ _
      rw [get?_update]
      by_cases same : current.bin x = xBin ∧ current.bin y = yBin
      · obtain ⟨rfl, rfl⟩ := same
        simp [SurveyEntry.Stores, SurveyEntry.Leaves, perform, update]
      · simp [SurveyEntry.Stores, SurveyEntry.Leaves, perform, update, same]
    | reset =>
      change current.reset.get? xBin yBin = some power ↔ _
      simp [SurveyEntry.Stores, SurveyEntry.Leaves, perform]

/-! ## Snapshots -/

/-- The place of a cell is later in its row, or its row is later. -/
theorem lex_of_lt {bins first second : Nat} (lt : first < second) :
    first / bins < second / bins ∨ first / bins = second / bins ∧ first % bins < second % bins := by
  rcases Nat.lt_or_eq_of_le (Nat.div_le_div_right (c := bins) (Nat.le_of_lt lt)) with later | same
  · exact .inl later
  · refine .inr ⟨same, ?_⟩
    have firstPlace := Nat.div_add_mod first bins
    have secondPlace := Nat.div_add_mod second bins
    rw [same] at firstPlace
    omega

/-- The points of a snapshot are in the order of their rows, and of their places in a row. -/
theorem pairwise_points (grid : SurveyGrid) :
    grid.snapshot.points.Pairwise fun first second =>
      first.y < second.y ∨ first.y = second.y ∧ first.x < second.x := by
  have places : (grid.cells.toList.zipIdx).Pairwise fun first second => first.2 < second.2 := by
    rw [← List.pairwise_map, List.zipIdx_map_snd]
    exact List.pairwise_lt_range'
  rw [snapshot, Array.toList_filterMap, Array.toList_zipIdx, List.pairwise_filterMap]
  refine places.imp fun {first second} lt point found next nextFound => ?_
  obtain ⟨power, -, rfl⟩ := Option.map_eq_some_iff.mp found
  obtain ⟨nextPower, -, rfl⟩ := Option.map_eq_some_iff.mp nextFound
  exact lex_of_lt lt

/-- Any measurements and resets in a row on a new survey. A cell holds a power if it is in the grid
and that power was measured by the latest call that told this cell, with no reset since, and it
holds none otherwise. One more measurement has its place in the grid and changes the cell that it
tells, and no other. A snapshot lists the cells that hold a power with that power, each of them
once, row by row. -/
theorem cells_of_latest_updates (bins : Nat) (coverage : Int) (calls : List SurveyCall) :
    let start := new bins coverage
    let grid := start.performAll calls
    let points := grid.snapshot.points
    grid.bins = max 1 (min bins 1024) ∧
    (∀ xBin yBin power, grid.get? xBin yBin = some power ↔
      xBin < grid.bins ∧ yBin < grid.bins ∧
        Since (fun _ entry => entry.Stores (xBin, yBin) power)
          (fun later => later.Leaves (xBin, yBin)) (start.log calls)) ∧
    (∀ x y power,
      let updated := grid.update x y power
      updated.1.1 < grid.bins ∧ updated.1.2 < grid.bins ∧
      grid.index updated.1.1 updated.1.2 < grid.cells.size ∧
      ∀ xBin yBin, updated.2.get? xBin yBin =
        if updated.1 = (xBin, yBin) then some power else grid.get? xBin yBin) ∧
    (points.Pairwise fun first second =>
      first.y < second.y ∨ first.y = second.y ∧ first.x < second.x) ∧
    ∀ point, point ∈ points ↔
      point.x < grid.bins ∧ point.y < grid.bins ∧ grid.get? point.x point.y = some point.power := by
  intro start grid points
  have remembered := get?_performAll_eq_some_iff (get?_new bins coverage) calls
  refine ⟨start.bins_performAll calls, fun xBin yBin power => ⟨fun held => ?_, fun measured => ?_⟩,
    fun x y power => ⟨grid.bin_lt x, grid.bin_lt y, index_lt (grid.bin_lt x) (grid.bin_lt y),
      fun xBin yBin => ?_⟩, grid.pairwise_points, fun point => ?_⟩
  · obtain ⟨xInside, yInside⟩ := inside_of_get?_eq_some held
    exact ⟨xInside, yInside, (remembered xBin yBin power).mp held⟩
  · exact (remembered xBin yBin power).mpr measured.2.2
  · have told : ((grid.update x y power).1 = (xBin, yBin)) =
        (grid.bin x = xBin ∧ grid.bin y = yBin) := Prod.mk.injEq ..
    rw [get?_update]
    simp only [told]
  · rw [mem_points_iff]
    constructor
    · intro held
      obtain ⟨xInside, yInside⟩ := inside_of_get?_eq_some held
      exact ⟨xInside, yInside, held⟩
    · exact fun listed => listed.2.2

end SurveyGrid

end OpticalLink
