import OpticalLink.Survey

/-!
# The cells of a survey

A survey is a map from cells to powers. `SurveyGrid.get?_update` says that a measurement
changes its own cell alone, and `SurveyGrid.mem_points_iff` that a snapshot lists what the
cells hold.
-/

namespace OpticalLink.SurveyGrid

variable {grid : SurveyGrid} {xBin yBin : Nat}

/-- Every coordinate has its bin in the grid. -/
theorem bin_lt (grid : SurveyGrid) (coordinate : Int32) : grid.bin coordinate < grid.bins := by
  have positive := grid.bins_pos
  rw [bin]
  omega

/-! ## Places in the array -/

theorem index_mod (xInside : xBin < grid.bins) : grid.index xBin yBin % grid.bins = xBin := by
  rw [index, Nat.mul_comm, Nat.mul_add_mod, Nat.mod_eq_of_lt xInside]

theorem index_div (xInside : xBin < grid.bins) : grid.index xBin yBin / grid.bins = yBin := by
  rw [index, Nat.mul_comm, Nat.mul_add_div grid.bins_pos, Nat.div_eq_of_lt xInside, Nat.add_zero]

/-- A cell of the grid has its place in the array. -/
theorem index_lt (xInside : xBin < grid.bins) (yInside : yBin < grid.bins) :
    grid.index xBin yBin < grid.cells.size := by
  have row : (yBin + 1) * grid.bins ≤ grid.bins * grid.bins :=
    Nat.mul_le_mul_right grid.bins yInside
  rw [Nat.succ_mul] at row
  rw [grid.size_cells, index]
  omega

/-- No two cells share a place. -/
theorem index_eq_index_iff {xOther yOther : Nat} (xInside : xBin < grid.bins)
    (otherInside : xOther < grid.bins) :
    grid.index xBin yBin = grid.index xOther yOther ↔ xBin = xOther ∧ yBin = yOther := by
  constructor
  · intro same
    have column := congrArg (· % grid.bins) same
    have row := congrArg (· / grid.bins) same
    simp only [index_mod xInside, index_mod otherInside] at column
    simp only [index_div xInside, index_div otherInside] at row
    exact ⟨column, row⟩
  · rintro ⟨rfl, rfl⟩
    rfl

/-! ## What a cell holds -/

theorem get?_eq (xInside : xBin < grid.bins) (yInside : yBin < grid.bins) :
    grid.get? xBin yBin = (grid.cells[grid.index xBin yBin]?).join :=
  if_pos ⟨xInside, yInside⟩

/-- Only cells of the grid hold a power. -/
theorem inside_of_get?_eq_some {power : Milliwatts}
    (held : grid.get? xBin yBin = some power) : xBin < grid.bins ∧ yBin < grid.bins := by
  refine Decidable.byContradiction fun outside => ?_
  rw [get?, if_neg outside] at held
  cases held

theorem join_getElem?_replicate (size place : Nat) :
    ((Array.replicate size (none : Option Milliwatts))[place]?).join = none := by
  rw [Array.getElem?_replicate]
  split <;> rfl

@[simp] theorem get?_new (bins : Nat) (coverage : Int) (xBin yBin : Nat) :
    (new bins coverage).get? xBin yBin = none := by
  rw [get?]
  split
  next => exact join_getElem?_replicate _ _
  next => rfl

@[simp] theorem get?_reset (grid : SurveyGrid) (xBin yBin : Nat) :
    grid.reset.get? xBin yBin = none := by
  rw [get?]
  split
  next => exact join_getElem?_replicate _ _
  next => rfl

/-- A measurement changes its own cell alone. -/
theorem get?_update (grid : SurveyGrid) (x y : Int32) (power : Milliwatts) (xBin yBin : Nat) :
    (grid.update x y power).2.get? xBin yBin =
      if grid.bin x = xBin ∧ grid.bin y = yBin then some power else grid.get? xBin yBin := by
  by_cases inside : xBin < grid.bins ∧ yBin < grid.bins
  · have place := index_lt inside.1 inside.2
    have samePlace := @index_eq_index_iff grid (grid.bin x) (grid.bin y) xBin yBin
      (grid.bin_lt x) inside.1
    have read : (grid.update x y power).2.get? xBin yBin =
        ((grid.cells.setIfInBounds (grid.index (grid.bin x) (grid.bin y)) (some power))[
          grid.index xBin yBin]?).join := if_pos inside
    rw [read, get?_eq inside.1 inside.2, Array.getElem?_setIfInBounds]
    by_cases same : grid.bin x = xBin ∧ grid.bin y = yBin
    · obtain ⟨rfl, rfl⟩ := same
      rw [if_pos rfl, if_pos place, if_pos ⟨rfl, rfl⟩]
      rfl
    · rw [if_neg (mt samePlace.mp same), if_neg same]
  · have outside : ¬ (grid.bin x = xBin ∧ grid.bin y = yBin) := by
      rintro ⟨rfl, rfl⟩
      exact inside ⟨grid.bin_lt x, grid.bin_lt y⟩
    rw [if_neg outside, get?, get?, if_neg inside]
    exact if_neg inside

/-- A snapshot lists what the cells hold. -/
theorem mem_points_iff (grid : SurveyGrid) (point : SurveyPoint) :
    point ∈ grid.snapshot.points ↔ grid.get? point.x point.y = some point.power := by
  obtain ⟨xBin, yBin, power⟩ := point
  rw [snapshot, Array.mem_toList_iff, Array.mem_filterMap]
  constructor
  · rintro ⟨⟨cell, place⟩, member, found⟩
    rw [Array.mk_mem_zipIdx_iff_getElem?] at member
    obtain ⟨power, rfl, same⟩ := Option.map_eq_some_iff.mp found
    cases same
    have inside : place < grid.bins * grid.bins := by
      rw [← grid.size_cells]
      exact (Array.getElem?_eq_some_iff.mp member).1
    rw [get?_eq (Nat.mod_lt _ grid.bins_pos) (Nat.div_lt_of_lt_mul inside), index,
      Nat.div_add_mod', member]
    rfl
  · intro held
    have inside := inside_of_get?_eq_some held
    rw [get?_eq inside.1 inside.2, Option.join_eq_some_iff] at held
    refine ⟨(some power, grid.index xBin yBin), Array.mk_mem_zipIdx_iff_getElem?.mpr held, ?_⟩
    rw [pointAt?, index_mod inside.1, index_div inside.1]
    rfl

end OpticalLink.SurveyGrid
