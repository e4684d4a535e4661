import OpticalLink.Proofs.Survey.Cells

/-!
# Bins of coordinates

The bin of a coordinate is its distance from the middle of the grid, scaled and truncated, and
brought into the grid at both ends. `SurveyGrid.bin_laws` says how bins lie along an axis: in the
order of the coordinates, evenly on both sides of the middle, in the outermost bins beyond the
coverage, and without a gap if the coverage has a coordinate for every bin of a half.

`SurveyGrid.Binning` lists the numbers that come up on the way. Worked out in words of 64 bits they
are the numbers without a limit, so that no bin comes of an overflow.
-/

namespace OpticalLink

/-- A number brought between two others. -/
def clamp {Number : Type} [LT Number] [DecidableLT Number] (low high number : Number) : Number :=
  if number < low then low else if high < number then high else number

namespace SurveyGrid

/-- The numbers on the way from a coordinate to its bin. -/
@[ext] structure Binning (Number : Type) where
  /-- How many bins there are. -/
  bins : Number
  /-- The bin in the middle. -/
  half : Number
  product : Number
  /-- The distance from the middle. -/
  quotient : Number
  /-- The bin as if the grid had no ends. -/
  raw : Number
  /-- The outermost bin. -/
  last : Number
  /-- The bin in the grid. -/
  clamped : Number
deriving DecidableEq, Repr

/-- The same numbers in another form. -/
def Binning.map {Number Other : Type} (convert : Number → Other) (binning : Binning Number) :
    Binning Other where
  bins := convert binning.bins
  half := convert binning.half
  product := convert binning.product
  quotient := convert binning.quotient
  raw := convert binning.raw
  last := convert binning.last
  clamped := convert binning.clamped

/-- The way to a bin without a limit to the numbers. -/
def binning (grid : SurveyGrid) (coordinate : Int32) : Binning Int :=
  let bins : Int := grid.bins
  let half := bins.tdiv 2
  let product := coordinate.toInt * half
  let quotient := product.tdiv grid.coverage
  let raw := quotient + half
  let last := bins - 1
  ⟨bins, half, product, quotient, raw, last, clamp 0 last raw⟩

/-- The way to a bin in words of 64 bits, which overflow silently. -/
def wordBinning (grid : SurveyGrid) (coordinate : Int32) : Binning Int64 :=
  let bins := Int64.ofNat grid.bins
  let half := bins / 2
  let product := coordinate.toInt64 * half
  let quotient := product / Int64.ofInt grid.coverage
  let raw := quotient + half
  let last := bins - 1
  ⟨bins, half, product, quotient, raw, last, clamp 0 last raw⟩

variable {grid : SurveyGrid} {coordinate other : Int32}

/-- What the way to a bin leads to is the bin. -/
theorem bin_eq_clamped (grid : SurveyGrid) (coordinate : Int32) :
    (grid.bin coordinate : Int) = (grid.binning coordinate).clamped := by
  have positive := grid.bins_pos
  change ((max 0 (min (grid.binning coordinate).raw (grid.bins - 1))).toNat : Int) =
    clamp 0 (grid.bins - 1 : Int) (grid.binning coordinate).raw
  rw [clamp]
  omega

/-- A number between the least and the greatest word is not wrapped. -/
theorem bmod_of_fits {number : Int} (low : Int64.minValue.toInt ≤ number)
    (high : number ≤ Int64.maxValue.toInt) : number.bmod Int64.size = number := by
  have least : Int64.minValue.toInt = -9223372036854775808 := by decide
  have greatest : Int64.maxValue.toInt = 9223372036854775807 := by decide
  rw [Int64.size]
  exact Int.bmod_eq_of_le (by omega) (by omega)

/-- Bringing words between others is bringing the numbers that they stand for between theirs. -/
theorem toInt_clamp (low high number : Int64) :
    (clamp low high number).toInt = clamp low.toInt high.toInt number.toInt := by
  simp only [clamp, Int64.lt_iff_toInt_lt]
  split
  next => rfl
  next => split <;> rfl

/-! ## Words -/

/-- There are few bins on each side of the middle. -/
theorem half_bounds (grid : SurveyGrid) (coordinate : Int32) :
    0 ≤ (grid.binning coordinate).half ∧ (grid.binning coordinate).half ≤ 512 := by
  have few := grid.bins_le
  rw [maxBins] at few
  change 0 ≤ ((grid.bins / 2 : Nat) : Int) ∧ ((grid.bins / 2 : Nat) : Int) ≤ 512
  omega

/-- The product is farthest from zero for the least coordinate and the most bins. -/
theorem product_bounds (grid : SurveyGrid) (coordinate : Int32) :
    -(2147483648 * 512) ≤ (grid.binning coordinate).product ∧
      (grid.binning coordinate).product ≤ 2147483648 * 512 := by
  obtain ⟨nonnegative, few⟩ := half_bounds grid coordinate
  have above := Int.mul_le_mul_of_nonneg_right (Int.le_of_lt coordinate.toInt_lt) nonnegative
  have below := Int.mul_le_mul_of_nonneg_right coordinate.le_toInt nonnegative
  change -(2147483648 * 512) ≤ coordinate.toInt * (grid.binning coordinate).half ∧
    coordinate.toInt * (grid.binning coordinate).half ≤ 2147483648 * 512
  omega

/-- The quotient is no farther from zero than the product. -/
theorem quotient_bounds (grid : SurveyGrid) (coordinate : Int32) :
    -(2147483648 * 512) ≤ (grid.binning coordinate).quotient ∧
      (grid.binning coordinate).quotient ≤ 2147483648 * 512 := by
  have bounds := product_bounds grid coordinate
  have smaller := Int.natAbs_tdiv_le_natAbs (grid.binning coordinate).product grid.coverage
  change -(2147483648 * 512) ≤ (grid.binning coordinate).product.tdiv grid.coverage ∧
    (grid.binning coordinate).product.tdiv grid.coverage ≤ 2147483648 * 512
  omega

/-- A coverage that a word can hold is a word other than minus one, the only divisor by which a word
can overflow. -/
theorem coverage_word (wordSized : grid.coverage ≤ Int64.maxValue.toInt) :
    (Int64.ofInt grid.coverage).toInt = grid.coverage ∧ Int64.ofInt grid.coverage ≠ -1 := by
  have positive := grid.coverage_pos
  have word : (Int64.ofInt grid.coverage).toInt = grid.coverage :=
    Int64.toInt_ofInt_of_le (by omega) (Int.lt_of_le_of_lt wordSized (by decide))
  refine ⟨word, fun same => ?_⟩
  have negative : grid.coverage = -1 := by
    rw [← word, same]
    decide
  omega

/-- In words, the way to a bin is the one without a limit, for any coverage that a word can hold. -/
theorem map_toInt_wordBinning (wordSized : grid.coverage ≤ Int64.maxValue.toInt)
    (coordinate : Int32) :
    (grid.wordBinning coordinate).map Int64.toInt = grid.binning coordinate := by
  have few := grid.bins_le
  rw [maxBins] at few
  have least : Int64.minValue.toInt = -9223372036854775808 := by decide
  have greatest : Int64.maxValue.toInt = 9223372036854775807 := by decide
  have halfBounds := half_bounds grid coordinate
  have productBounds := product_bounds grid coordinate
  have quotientBounds := quotient_bounds grid coordinate
  have raw_eq_add : (grid.binning coordinate).raw =
    (grid.binning coordinate).quotient + (grid.binning coordinate).half := rfl
  obtain ⟨coverage, dividing⟩ := coverage_word wordSized
  -- Each number is worked out of those before it, and fits a word.
  have bins : (grid.wordBinning coordinate).bins.toInt = (grid.binning coordinate).bins :=
    Int64.toInt_ofNat_of_lt (by omega)
  have half : (grid.wordBinning coordinate).half.toInt = (grid.binning coordinate).half :=
    (Int64.toInt_div_of_ne_right _ 2 (by decide)).trans (congrArg (Int.tdiv · 2) bins)
  have product : (grid.wordBinning coordinate).product.toInt =
      (grid.binning coordinate).product := by
    change (coordinate.toInt64 * (grid.wordBinning coordinate).half).toInt = _
    rw [Int64.toInt_mul, Int32.toInt_toInt64, half]
    exact @bmod_of_fits (grid.binning coordinate).product (by omega) (by omega)
  have quotient : (grid.wordBinning coordinate).quotient.toInt =
      (grid.binning coordinate).quotient := by
    change ((grid.wordBinning coordinate).product / Int64.ofInt grid.coverage).toInt = _
    rw [Int64.toInt_div_of_ne_right _ _ dividing, product, coverage]
    rfl
  have raw : (grid.wordBinning coordinate).raw.toInt = (grid.binning coordinate).raw := by
    change ((grid.wordBinning coordinate).quotient + (grid.wordBinning coordinate).half).toInt = _
    rw [Int64.toInt_add, quotient, half]
    exact @bmod_of_fits (grid.binning coordinate).raw (by omega) (by omega)
  have last : (grid.wordBinning coordinate).last.toInt = (grid.binning coordinate).last := by
    change ((grid.wordBinning coordinate).bins - 1).toInt = (grid.bins : Int) - 1
    rw [Int64.toInt_sub, bins]
    exact @bmod_of_fits ((grid.bins : Int) - 1) (by omega) (by omega)
  have clamped : (grid.wordBinning coordinate).clamped.toInt =
      (grid.binning coordinate).clamped := by
    change (clamp 0 (grid.wordBinning coordinate).last (grid.wordBinning coordinate).raw).toInt = _
    rw [toInt_clamp, last, raw]
    rfl
  exact Binning.ext bins half product quotient raw last clamped

/-! ## Bins along an axis -/

/-- The bin before it is brought into the grid, written out. -/
theorem raw_eq (grid : SurveyGrid) (coordinate : Int32) :
    (grid.binning coordinate).raw =
      (coordinate.toInt * (grid.bins / 2 : Nat)).tdiv grid.coverage + (grid.bins / 2 : Nat) := rfl

theorem last_eq (grid : SurveyGrid) (coordinate : Int32) :
    (grid.binning coordinate).last = grid.bins - 1 := rfl

/-- A bin is decided by where it would be without the ends of the grid. -/
theorem bin_eq (grid : SurveyGrid) (coordinate : Int32) :
    grid.bin coordinate = (max 0 (min (grid.binning coordinate).raw (grid.bins - 1))).toNat := rfl

/-- Bins are in the order of the coordinates. -/
theorem raw_le_raw (le : coordinate.toInt ≤ other.toInt) :
    (grid.binning coordinate).raw ≤ (grid.binning other).raw := by
  have scaled := Int.mul_le_mul_of_nonneg_right le (Int.natCast_nonneg (grid.bins / 2))
  rw [raw_eq, raw_eq]
  exact Int.add_le_add_right (Int.tdiv_le_tdiv grid.coverage_pos scaled) _

/-- Opposite coordinates are as far from the middle. -/
theorem raw_add_raw (opposite : other.toInt = -coordinate.toInt) :
    (grid.binning coordinate).raw + (grid.binning other).raw = 2 * (grid.bins / 2 : Nat) := by
  rw [raw_eq, raw_eq, opposite, Int.neg_mul, Int.neg_tdiv]
  omega

/-- From the coverage on, coordinates belong behind all bins but the last. -/
theorem le_raw (beyond : grid.coverage ≤ coordinate.toInt) :
    2 * (grid.bins / 2 : Nat) ≤ (grid.binning coordinate).raw := by
  have scaled := Int.mul_le_mul_of_nonneg_right beyond (Int.natCast_nonneg (grid.bins / 2))
  rw [Int.mul_comm] at scaled
  have far := Int.le_tdiv_of_mul_le grid.coverage_pos scaled
  rw [raw_eq]
  omega

/-- From the coverage on at the other side, coordinates belong before all bins but the first. -/
theorem raw_le (beyond : coordinate.toInt ≤ -grid.coverage) :
    (grid.binning coordinate).raw ≤ 0 := by
  have scaled := Int.mul_le_mul_of_nonneg_right beyond (Int.natCast_nonneg (grid.bins / 2))
  have far := Int.tdiv_le_tdiv grid.coverage_pos scaled
  rw [Int.neg_mul, Int.neg_tdiv, Int.mul_tdiv_cancel_left _ (Int.ne_of_gt grid.coverage_pos)] at far
  rw [raw_eq]
  omega

/-- Every distance up to half of the bins is that of some coordinate, if there are no more of them
than coordinates. -/
theorem exists_tdiv_eq {half coverage distance : Int} (positive : 0 < coverage)
    (wide : half ≤ coverage) (nonnegative : 0 ≤ distance) (near : distance ≤ half) :
    ∃ number, 0 ≤ number ∧ number ≤ coverage ∧ (number * half).tdiv coverage = distance := by
  rcases Int.lt_or_eq_of_le (Int.le_trans nonnegative near) with several | none
  · -- The first number that is far enough, which is less than one step too far.
    let number := (distance * coverage + half - 1) / half
    have scaled : distance * coverage ≤ half * coverage :=
      Int.mul_le_mul_of_nonneg_right near (Int.le_of_lt positive)
    have start : 0 ≤ distance * coverage := Int.mul_nonneg nonnegative (Int.le_of_lt positive)
    have notTooFar : half * number ≤ distance * coverage + half - 1 :=
      Int.mul_ediv_self_le (Int.ne_of_gt several)
    have farEnough : distance * coverage + half - 1 < half * number + half :=
      Int.lt_mul_ediv_self_add several
    have number_nonneg : 0 ≤ number := Int.ediv_nonneg (by omega) (Int.le_of_lt several)
    have number_lt : half * number < half * (coverage + 1) := by
      rw [Int.mul_add]
      omega
    refine ⟨number, number_nonneg,
      Int.le_of_lt_add_one (Int.lt_of_mul_lt_mul_left number_lt (Int.le_of_lt several)), ?_⟩
    rw [Int.mul_comm, Int.tdiv_eq_ediv_of_nonneg (by omega), Int.ediv_eq_iff_of_pos positive]
    omega
  · exact ⟨0, Int.le_refl 0, Int.le_of_lt positive, by rw [Int.zero_mul, Int.zero_tdiv]; omega⟩

/-- Every distance on either side is that of some coordinate. -/
theorem exists_signed_tdiv_eq {half coverage distance : Int} (positive : 0 < coverage)
    (wide : half ≤ coverage) (left : -half ≤ distance) (right : distance ≤ half) :
    ∃ number, -coverage ≤ number ∧ number ≤ coverage ∧
      (number * half).tdiv coverage = distance := by
  rcases Int.le_total 0 distance with nonnegative | nonpositive
  · obtain ⟨number, low, high, there⟩ := exists_tdiv_eq positive wide nonnegative right
    exact ⟨number, by omega, high, there⟩
  · obtain ⟨number, low, high, there⟩ :=
      exists_tdiv_eq positive wide (Int.neg_nonneg_of_nonpos nonpositive) (by omega)
    refine ⟨-number, by omega, by omega, ?_⟩
    rw [Int.neg_mul, Int.neg_tdiv, there, Int.neg_neg]

/-- Every bin is that of some coordinate within the coverage, if half of the bins are no more than
its coordinates and these can all be written. -/
theorem exists_bin_eq (wide : (grid.bins / 2 : Nat) ≤ grid.coverage)
    (narrow : grid.coverage ≤ Int32.maxValue.toInt) {xBin : Nat} (inside : xBin < grid.bins) :
    ∃ coordinate : Int32, -grid.coverage ≤ coordinate.toInt ∧
      coordinate.toInt ≤ grid.coverage ∧ grid.bin coordinate = xBin := by
  have greatest : Int32.maxValue.toInt = 2 ^ 31 - 1 := by decide
  have left : -((grid.bins / 2 : Nat) : Int) ≤ xBin - (grid.bins / 2 : Nat) := by omega
  have right : (xBin - (grid.bins / 2 : Nat) : Int) ≤ (grid.bins / 2 : Nat) := by omega
  obtain ⟨number, low, high, there⟩ := exists_signed_tdiv_eq grid.coverage_pos wide left right
  have written : (Int32.ofInt number).toInt = number :=
    Int32.toInt_ofInt_of_le (by omega) (by omega)
  refine ⟨Int32.ofInt number, by omega, by omega, ?_⟩
  rw [bin_eq, raw_eq, written, there]
  omega

/-- Bins along an axis. The way to a bin is the same in words of 64 bits as without a limit, and it
leads into the grid. Bins are in the order of the coordinates. Zero has the bin in the middle, and
the coordinates from the coverage on have the outermost bins. Where the ends of the grid are not in
the way, opposite coordinates have opposite bins. Every bin is that of some coordinate within the
coverage, if half of the bins are no more than its coordinates and these can all be written. -/
theorem bin_laws (grid : SurveyGrid) (wordSized : grid.coverage ≤ Int64.maxValue.toInt) :
    let half := grid.bins / 2
    let inGrid := fun coordinate => 0 ≤ (grid.binning coordinate).raw ∧
      (grid.binning coordinate).raw ≤ (grid.binning coordinate).last
    (∀ coordinate, (grid.wordBinning coordinate).map Int64.toInt = grid.binning coordinate ∧
      (grid.binning coordinate).clamped = grid.bin coordinate) ∧
    (∀ coordinate, grid.bin coordinate ≤ grid.bins - 1) ∧
    (∀ coordinate other, coordinate ≤ other → grid.bin coordinate ≤ grid.bin other) ∧
    grid.bin 0 = min half (grid.bins - 1) ∧
    (∀ coordinate, grid.coverage ≤ coordinate.toInt → grid.bin coordinate = grid.bins - 1) ∧
    (∀ coordinate, coordinate.toInt ≤ -grid.coverage → grid.bin coordinate = 0) ∧
    (∀ coordinate other, other.toInt = -coordinate.toInt → inGrid coordinate → inGrid other →
      grid.bin coordinate + grid.bin other = 2 * half) ∧
    (half ≤ grid.coverage → grid.coverage ≤ Int32.maxValue.toInt →
      ∀ xBin < grid.bins, ∃ coordinate : Int32, -grid.coverage ≤ coordinate.toInt ∧
        coordinate.toInt ≤ grid.coverage ∧ grid.bin coordinate = xBin) := by
  intro half inGrid
  have positive := grid.bins_pos
  refine ⟨fun coordinate => ⟨map_toInt_wordBinning wordSized coordinate,
      (grid.bin_eq_clamped coordinate).symm⟩,
    fun coordinate => Nat.le_sub_one_of_lt (grid.bin_lt coordinate), fun coordinate other le => ?_,
    ?_, fun coordinate beyond => ?_, fun coordinate beyond => ?_,
    fun coordinate other opposite inside otherInside => ?_, fun wide narrow xBin inside =>
      exists_bin_eq wide narrow inside⟩
  · have ordered := @raw_le_raw grid coordinate other (Int32.le_iff_toInt_le.mp le)
    rw [bin_eq, bin_eq]
    omega
  · have middle := @raw_add_raw grid 0 0 rfl
    rw [bin_eq]
    omega
  · have far := le_raw beyond
    rw [bin_eq]
    omega
  · have far := raw_le beyond
    rw [bin_eq]
    omega
  · have sum := @raw_add_raw grid coordinate other opposite
    simp only [inGrid, last_eq] at inside otherInside
    rw [bin_eq, bin_eq]
    omega

/-- The largest grid, with the smallest coverage that leaves no gap in it. The coordinate next to
the coverage is the last before the end of the grid. -/
theorem bin_laws_largest_grid :
    let grid := new 1024 512
    (grid.wordBinning Int32.minValue).map Int64.toInt = grid.binning Int32.minValue ∧
      grid.bin 0 = 512 ∧ grid.bin 512 = 1023 ∧ grid.bin Int32.minValue = 0 ∧
      grid.bin 1 ≤ grid.bin 2 ∧ grid.bin 511 + grid.bin (-511) = 1024 ∧
      ∃ coordinate : Int32, -512 ≤ coordinate.toInt ∧ coordinate.toInt ≤ 512 ∧
        grid.bin coordinate = 1022 := by
  intro grid
  obtain ⟨exact, -, ordered, middle, last, first, opposite, covered⟩ :=
    bin_laws grid (by decide)
  have sum := opposite 511 (-511) (by decide) (by decide) (by decide)
  exact ⟨(exact _).1, middle.trans (by decide), last 512 (by decide), first _ (by decide),
    ordered 1 2 (by decide), sum.trans (by decide),
    covered (by decide) (by decide) 1022 (by decide)⟩

end SurveyGrid

end OpticalLink
