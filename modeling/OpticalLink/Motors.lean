import OpticalLink.Message.Value

/-!
# The aiming motors

What the controller last told about the motors, and the travel within which a
position is worth keeping.
-/

namespace OpticalLink

/-- The state of the motors as last reported. -/
structure MotorStatus where
  position : Position
  encoder : EncoderReading
  /-- The largest accepted distance from zero along the first axis. -/
  rangeX : UInt32
  /-- The largest accepted distance from zero along the second axis. -/
  rangeY : UInt32
  current : Option UInt16
  lastError : Option UInt32
deriving DecidableEq, Repr

namespace MotorStatus

/-- Motors at rest in the middle of their travel, of which nothing was reported. -/
def new (rangeX rangeY : UInt32) : MotorStatus :=
  ⟨⟨0, 0, 0⟩, ⟨0, 0⟩, rangeX, rangeY, none, none⟩

/-- Whether a position lies within the travel on both axes. Limits belong to the
travel, and the third coordinate is not bounded. -/
def inRange (status : MotorStatus) (position : Position) : Bool :=
  decide (position.x.toInt.natAbs ≤ status.rangeX.toNat) &&
    decide (position.y.toInt.natAbs ≤ status.rangeY.toNat)

/-- Being in range, spelled out. -/
theorem inRange_iff (status : MotorStatus) (position : Position) :
    status.inRange position = true ↔
      position.x.toInt.natAbs ≤ status.rangeX.toNat ∧
        position.y.toInt.natAbs ≤ status.rangeY.toNat := by
  simp [inRange]

end MotorStatus

end OpticalLink
