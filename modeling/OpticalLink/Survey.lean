import OpticalLink.Message.Value

/-!
# The alignment survey

A square grid over the reach of the motors. Each cell holds the receive power
that was last measured while the motors stood in it.
-/

namespace OpticalLink

/-- The number of bins unless settings say otherwise. -/
def defaultBins : Nat := 100

/-- The largest number of bins. -/
def maxBins : Nat := 1024

/-- The coverage unless settings say otherwise. -/
def defaultCoverage : Int := 10000

/-- A square grid of measured powers, row by row. -/
structure SurveyGrid where
  /-- Bins along each axis. -/
  bins : Nat
  /-- The coordinate at which the outermost bins begin to be the only ones. -/
  coverage : Int
  cells : Array (Option Milliwatts)
  bins_pos : 0 < bins
  bins_le : bins ≤ maxBins
  coverage_pos : 0 < coverage
  size_cells : cells.size = bins * bins

/-- One measured cell. -/
structure SurveyPoint where
  x : Nat
  y : Nat
  power : Milliwatts
deriving Repr

/-- The measured cells of a grid in the order of the grid. -/
structure SurveySnapshot where
  bins : Nat
  coverage : Int
  points : List SurveyPoint
deriving Repr

namespace SurveyGrid

/-- An empty grid. The number of bins is brought into its limits and the
coverage is at least one. -/
def new (bins : Nat) (coverage : Int) : SurveyGrid where
  bins := max 1 (min bins maxBins)
  coverage := max coverage 1
  cells := Array.replicate (max 1 (min bins maxBins) * max 1 (min bins maxBins)) none
  bins_pos := by omega
  bins_le := by simp only [maxBins]; omega
  coverage_pos := by omega
  size_cells := by simp

/-- The bin of a coordinate: the middle of the grid lies at zero, and what lies
outside the coverage falls into the outermost bins. -/
def bin (grid : SurveyGrid) (coordinate : Int32) : Nat :=
  let half : Int := (grid.bins / 2 : Nat)
  let raw := (coordinate.toInt * half).tdiv grid.coverage + half
  (max 0 (min raw (grid.bins - 1))).toNat

/-- Where a cell is kept. -/
def index (grid : SurveyGrid) (xBin yBin : Nat) : Nat := yBin * grid.bins + xBin

/-- Records the power measured at a motor position and tells its cell. -/
def update (grid : SurveyGrid) (x y : Int32) (power : Milliwatts) : (Nat × Nat) × SurveyGrid :=
  let xBin := grid.bin x
  let yBin := grid.bin y
  let position := grid.index xBin yBin
  match grid with
  | ⟨bins, coverage, cells, bins_pos, bins_le, coverage_pos, size_cells⟩ =>
    ((xBin, yBin),
      ⟨bins, coverage, cells.setIfInBounds position (some power), bins_pos, bins_le,
        coverage_pos, by simpa using size_cells⟩)

/-- The power in a cell, if the cell exists and was measured. -/
def get? (grid : SurveyGrid) (xBin yBin : Nat) : Option Milliwatts :=
  if xBin < grid.bins ∧ yBin < grid.bins then (grid.cells[grid.index xBin yBin]?).join else none

/-- Forgets all measurements. -/
def reset (grid : SurveyGrid) : SurveyGrid where
  bins := grid.bins
  coverage := grid.coverage
  cells := Array.replicate (grid.bins * grid.bins) none
  bins_pos := grid.bins_pos
  bins_le := grid.bins_le
  coverage_pos := grid.coverage_pos
  size_cells := by simp

/-- The measured cell at a place of the grid. -/
def pointAt? (bins : Nat) (cell : Option Milliwatts × Nat) : Option SurveyPoint :=
  cell.1.map fun power => ⟨cell.2 % bins, cell.2 / bins, power⟩

/-- The measured cells in the order of the grid. -/
def snapshot (grid : SurveyGrid) : SurveySnapshot where
  bins := grid.bins
  coverage := grid.coverage
  points := (grid.cells.zipIdx.filterMap (pointAt? grid.bins)).toList

end SurveyGrid

end OpticalLink
