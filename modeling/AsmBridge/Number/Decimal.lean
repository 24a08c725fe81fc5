import AsmBridge.Fault
import AsmBridge.Text.DecimalDigit

/-!
# Decimal numbers

Numbers are written with ASCII digits and read with the digits of any script. A number of more than
`Decimal.digitLimit` digits is neither read nor written.
-/

namespace AsmBridge

namespace Decimal

/-- The most digits of a number that is read or written. -/
def digitLimit : Nat := 4300

/-! ## Writing -/

/-- The digits of a natural number. -/
def ofNat (n : Nat) : Text :=
  Nat.toDigits 10 n

/-- The digits of an integer, after a minus sign where it is negative. -/
def ofInt : Int → Text
  | .ofNat n => ofNat n
  | .negSucc n => '-' :: ofNat (n + 1)

/-- The text of an integer that has few enough digits. -/
def write (n : Int) : Except Fault Text :=
  if digitLimit < (ofNat n.natAbs).length then .error .tooLongToWrite else .ok (ofInt n)

/-! ## Reading -/

/-- The value of a run of digits. -/
def value (digits : Text) : Nat :=
  digits.foldl (fun n d => 10 * n + (digitValue? d).getD 0) 0

/-- The value of a run of digits that is short enough. -/
def read (digits : Text) : Except Fault Nat :=
  if digitLimit < digits.length then .error (.tooManyDigits digits.length)
  else .ok (value digits)

/-- The value of a run of digits, after a minus sign or not. -/
def readSigned : Text → Except Fault Int
  | '-' :: digits => (read digits).map fun n => -(n : Int)
  | digits => (read digits).map fun n => (n : Int)

end Decimal

end AsmBridge
