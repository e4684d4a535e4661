import OpticalLink.Bytes.Basic

/-!
# Big-endian words

Fixed-width integers are written most significant byte first; signed ones in
two's complement. Reading takes the bytes it needs from the front and leaves
the rest to the caller.
-/

namespace OpticalLink.BigEndian

/-- The 16-bit word with the given bytes. -/
def word16 (high low : UInt8) : UInt16 :=
  UInt16.ofNat (high.toNat * 256 + low.toNat)

/-- The 32-bit word with the given bytes, most significant first. -/
def word32 (first second third fourth : UInt8) : UInt32 :=
  UInt32.ofNat
    (((first.toNat * 256 + second.toNat) * 256 + third.toNat) * 256 + fourth.toNat)

/-- The two bytes of a 16-bit word. -/
def bytes16 (word : UInt16) : Bytes :=
  [UInt8.ofNat (word.toNat / 256), UInt8.ofNat word.toNat]

/-- The four bytes of a 32-bit word. -/
def bytes32 (word : UInt32) : Bytes :=
  [UInt8.ofNat (word.toNat / 16777216), UInt8.ofNat (word.toNat / 65536),
    UInt8.ofNat (word.toNat / 256), UInt8.ofNat word.toNat]

/-- The four bytes of a signed 32-bit word. -/
def bytesSigned32 (word : Int32) : Bytes :=
  bytes32 word.toUInt32

/-- Reads a 16-bit word and returns what follows it. -/
def read16? : Bytes → Option (UInt16 × Bytes)
  | high :: low :: rest => some (word16 high low, rest)
  | _ => none

/-- Reads a 32-bit word and returns what follows it. -/
def read32? : Bytes → Option (UInt32 × Bytes)
  | first :: second :: third :: fourth :: rest =>
    some (word32 first second third fourth, rest)
  | _ => none

/-- Reads a signed 32-bit word and returns what follows it. -/
def readSigned32? (bytes : Bytes) : Option (Int32 × Bytes) :=
  (read32? bytes).map fun (word, rest) => (word.toInt32, rest)

@[simp] theorem length_bytes16 (word : UInt16) : (bytes16 word).length = 2 := rfl

@[simp] theorem length_bytes32 (word : UInt32) : (bytes32 word).length = 4 := rfl

@[simp] theorem length_bytesSigned32 (word : Int32) : (bytesSigned32 word).length = 4 := rfl

/-- Reading a written 16-bit word gives the word back. -/
@[simp] theorem read16?_bytes16_append (word : UInt16) (rest : Bytes) :
    read16? (bytes16 word ++ rest) = some (word, rest) := by
  have bound := word.toNat_lt
  simp only [bytes16, List.cons_append, List.nil_append, read16?, word16, Option.some.injEq,
    Prod.mk.injEq, and_true]
  apply UInt16.toNat_inj.mp
  simp only [UInt8.toNat_ofNat', UInt16.toNat_ofNat']
  omega

/-- Reading a written 32-bit word gives the word back. -/
@[simp] theorem read32?_bytes32_append (word : UInt32) (rest : Bytes) :
    read32? (bytes32 word ++ rest) = some (word, rest) := by
  have bound := word.toNat_lt
  simp only [bytes32, List.cons_append, List.nil_append, read32?, word32, Option.some.injEq,
    Prod.mk.injEq, and_true]
  apply UInt32.toNat_inj.mp
  simp only [UInt8.toNat_ofNat', UInt32.toNat_ofNat']
  omega

/-- A 16-bit word has one written form. -/
theorem eq_of_read16?_eq_some {bytes rest : Bytes} {word : UInt16}
    (read : read16? bytes = some (word, rest)) : bytes = bytes16 word ++ rest := by
  unfold read16? at read
  split at read
  next high low tail =>
    simp only [Option.some.injEq, Prod.mk.injEq] at read
    obtain ⟨rfl, rfl⟩ := read
    have highBound := high.toNat_lt
    have lowBound := low.toNat_lt
    simp only [bytes16, word16, List.cons_append, List.nil_append, List.cons.injEq, and_true]
    constructor <;> apply UInt8.toNat_inj.mp <;>
      simp only [UInt8.toNat_ofNat', UInt16.toNat_ofNat'] <;> omega
  next => simp at read

/-- A 32-bit word has one written form. -/
theorem eq_of_read32?_eq_some {bytes rest : Bytes} {word : UInt32}
    (read : read32? bytes = some (word, rest)) : bytes = bytes32 word ++ rest := by
  unfold read32? at read
  split at read
  next first second third fourth tail =>
    simp only [Option.some.injEq, Prod.mk.injEq] at read
    obtain ⟨rfl, rfl⟩ := read
    have firstBound := first.toNat_lt
    have secondBound := second.toNat_lt
    have thirdBound := third.toNat_lt
    have fourthBound := fourth.toNat_lt
    simp only [bytes32, word32, List.cons_append, List.nil_append, List.cons.injEq, and_true]
    refine ⟨?_, ?_, ?_, ?_⟩ <;> apply UInt8.toNat_inj.mp <;>
      simp only [UInt8.toNat_ofNat', UInt32.toNat_ofNat'] <;> omega
  next => simp at read

/-- Reading a written signed word gives the word back. -/
@[simp] theorem readSigned32?_bytesSigned32_append (word : Int32) (rest : Bytes) :
    readSigned32? (bytesSigned32 word ++ rest) = some (word, rest) := by
  simp [readSigned32?, bytesSigned32]

end OpticalLink.BigEndian
