import OpticalLink.Bytes.BigEndian

/-!
# Typed field values

The values with a fixed big-endian layout. Decoding reads the layout from the
front of a field value: a shorter value decodes to nothing and longer ones are
read without regard to what follows.
-/

namespace OpticalLink

open BigEndian

/-- Where the aiming motors stand, in steps. -/
structure Position where
  x : Int32
  y : Int32
  z : Int32
deriving DecidableEq, Repr, Inhabited

namespace Position

/-- The twelve bytes of a position. -/
def encode (position : Position) : Bytes :=
  bytesSigned32 position.x ++ bytesSigned32 position.y ++ bytesSigned32 position.z

/-- The position at the front of a value. -/
def decode? (value : Bytes) : Option Position := do
  let (x, value) ← readSigned32? value
  let (y, value) ← readSigned32? value
  let (z, _) ← readSigned32? value
  return { x, y, z }

/-- Decoding undoes encoding, whatever follows. -/
@[simp] theorem decode?_encode_append (position : Position) (rest : Bytes) :
    decode? (position.encode ++ rest) = some position := by
  simp [decode?, encode, List.append_assoc]

end Position

/-- What the motor encoders count. -/
structure EncoderReading where
  x : Int32
  y : Int32
deriving DecidableEq, Repr, Inhabited

namespace EncoderReading

/-- The eight bytes of an encoder reading. -/
def encode (reading : EncoderReading) : Bytes :=
  bytesSigned32 reading.x ++ bytesSigned32 reading.y

/-- The encoder reading at the front of a value. -/
def decode? (value : Bytes) : Option EncoderReading := do
  let (x, value) ← readSigned32? value
  let (y, _) ← readSigned32? value
  return { x, y }

/-- Decoding undoes encoding, whatever follows. -/
@[simp] theorem decode?_encode_append (reading : EncoderReading) (rest : Bytes) :
    decode? (reading.encode ++ rest) = some reading := by
  simp [decode?, encode, List.append_assoc]

end EncoderReading

/-- One sample of the accelerometer. -/
structure Acceleration where
  ax : Int32
  ay : Int32
  az : Int32
deriving DecidableEq, Repr, Inhabited

namespace Acceleration

/-- The twelve bytes of a sample. -/
def encode (sample : Acceleration) : Bytes :=
  bytesSigned32 sample.ax ++ bytesSigned32 sample.ay ++ bytesSigned32 sample.az

/-- The sample at the front of a value. -/
def decode? (value : Bytes) : Option Acceleration := do
  let (ax, value) ← readSigned32? value
  let (ay, value) ← readSigned32? value
  let (az, _) ← readSigned32? value
  return { ax, ay, az }

/-- Decoding undoes encoding, whatever follows. -/
@[simp] theorem decode?_encode_append (sample : Acceleration) (rest : Bytes) :
    decode? (sample.encode ++ rest) = some sample := by
  simp [decode?, encode, List.append_assoc]

end Acceleration

/-- The crosshair offset of an optical transceiver. -/
structure SfpCalibration where
  offsetX : UInt32
  offsetY : UInt32
deriving DecidableEq, Repr, Inhabited

namespace SfpCalibration

/-- The eight bytes of a calibration. -/
def encode (calibration : SfpCalibration) : Bytes :=
  bytes32 calibration.offsetX ++ bytes32 calibration.offsetY

/-- The calibration at the front of a value. -/
def decode? (value : Bytes) : Option SfpCalibration := do
  let (offsetX, value) ← read32? value
  let (offsetY, _) ← read32? value
  return { offsetX, offsetY }

/-- Decoding undoes encoding, whatever follows. -/
@[simp] theorem decode?_encode_append (calibration : SfpCalibration) (rest : Bytes) :
    decode? (calibration.encode ++ rest) = some calibration := by
  simp [decode?, encode, List.append_assoc]

end SfpCalibration

/-- Wire units of optical power in one milliwatt. -/
def powerUnitsPerMilliwatt : Float := 10000.0

/-- Optical power in milliwatts. -/
abbrev Milliwatts := Float

/-- The power that a reading in wire units stands for. -/
def milliwattsOfReading (reading : UInt16) : Milliwatts :=
  reading.toFloat / powerUnitsPerMilliwatt

end OpticalLink
