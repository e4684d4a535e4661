import OpticalLink.Message.Value

/-!
# Optical power of the transceiver
-/

namespace OpticalLink

/-- The powers that the transceiver monitor reports. -/
structure Transceiver where
  txPower : Milliwatts
  rxPower : Milliwatts
deriving Repr, Inhabited

namespace Transceiver

/-- A transceiver of which nothing is known. -/
def dark : Transceiver := ⟨0.0, 0.0⟩

/-- The receive power in wire units, rounded to the nearest unit with halves
away from zero and held within what a reading can carry. A power that is no
number counts as none. -/
def rxReading (transceiver : Transceiver) : UInt16 :=
  let scaled := (transceiver.rxPower * powerUnitsPerMilliwatt).round
  if scaled.isNaN || scaled ≤ 0.0 then 0
  else if scaled ≥ 65535.0 then 65535
  else scaled.toUInt16

end Transceiver

end OpticalLink
