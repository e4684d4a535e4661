import OpticalLink.Bytes.Basic

/-!
# Hexadecimal text

Every byte is two digits, high half first. Writing uses lower case; reading
accepts both cases and works on the bytes of the text, so a position in an
error counts bytes.
-/

namespace OpticalLink.Hex

/-- Why a text is not hexadecimal. -/
inductive Error where
  /-- The text cannot be cut into pairs. -/
  | oddLength
  /-- The byte at a position is no digit. -/
  | invalidByte (byte : UInt8) (position : Nat)
deriving DecidableEq, Repr

/-- The lower-case digit of a value below sixteen. -/
def digitChar (value : UInt8) : Char :=
  if value < 10 then Char.ofNat (48 + value.toNat) else Char.ofNat (87 + value.toNat)

/-- The value of one digit of either case. -/
def digitValue? (byte : UInt8) : Option UInt8 :=
  if 48 ≤ byte ∧ byte ≤ 57 then some (byte - 48)
  else if 97 ≤ byte ∧ byte ≤ 102 then some (byte - 87)
  else if 65 ≤ byte ∧ byte ≤ 70 then some (byte - 55)
  else none

/-- The two digits of a byte. -/
def digits (byte : UInt8) : List Char :=
  [digitChar (byte / 16), digitChar (byte % 16)]

/-- The digits of a byte string. -/
def encode (bytes : Bytes) : String :=
  String.ofList (bytes.flatMap digits)

/-- Reads pairs from `position` on, collecting the bytes read so far. -/
def decodePairs (collected : Array UInt8) (position : Nat) : Bytes → Except Error Bytes
  | high :: low :: rest =>
    match digitValue? high with
    | none => .error (.invalidByte high position)
    | some highValue =>
      match digitValue? low with
      | none => .error (.invalidByte low (position + 1))
      | some lowValue =>
        decodePairs (collected.push (highValue * 16 + lowValue)) (position + 2) rest
  | _ => .ok collected.toList

/-- Reads hexadecimal text. An odd number of digits is reported before any
invalid one. -/
def decode (text : Bytes) : Except Error Bytes :=
  if text.length % 2 = 0 then decodePairs #[] 0 text else .error .oddLength

end OpticalLink.Hex
