import AsmBridge.Text.Basic

/-!
# Hexadecimal numbers

Bytes and offsets are written with lower-case digits.
-/

namespace AsmBridge

namespace Hex

/-- The digits of a natural number, with zeros in front up to the width. -/
def ofNat (width n : Nat) : Text :=
  (Nat.toDigits 16 n).leftpad width '0'

/-- The two digits of a byte. -/
def ofByte (b : UInt8) : Text :=
  [Nat.digitChar (b.toNat / 16), Nat.digitChar (b.toNat % 16)]

/-- The number that little-endian bytes stand for, two digits a byte. -/
def ofLittleEndian (bytes : List UInt8) : Text :=
  bytes.reverse.flatMap ofByte

/-- The value of a hexadecimal digit, in either case. -/
def digitValue? (c : Char) : Option Nat :=
  if '0' ≤ c ∧ c ≤ '9' then some (c.toNat - '0'.toNat)
  else if 'a' ≤ c ∧ c ≤ 'f' then some (c.toNat - 'a'.toNat + 10)
  else if 'A' ≤ c ∧ c ≤ 'F' then some (c.toNat - 'A'.toNat + 10)
  else none

end Hex

end AsmBridge
