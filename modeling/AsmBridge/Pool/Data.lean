import AsmBridge.Number.Decimal
import AsmBridge.Number.Hex

/-!
# Constants in Go assembler

The bytes of all constants are written in words of eight bytes, the last one filled with zeros, and
then declared as read-only data under the name of the table.
-/

namespace AsmBridge

/-- The number of bytes of a word. -/
def wordSize : Nat := 8

/-- The bytes with zeros up to a whole number of words. -/
def padToWords (bytes : List UInt8) : List UInt8 :=
  bytes ++ List.replicate ((wordSize - bytes.length % wordSize) % wordSize) 0

/-- The words of a run of bytes. -/
def words (bytes : List UInt8) : List (List UInt8) :=
  match bytes with
  | [] => []
  | b :: rest => (b :: rest).take wordSize :: words ((b :: rest).drop wordSize)
termination_by bytes.length
decreasing_by
  simp only [List.length_drop, List.length_cons, wordSize]
  omega

/-- The line for the word at an offset. -/
def dataLine (name : Text) (offset : Nat) (word : List UInt8) : Text :=
  "DATA ".toList ++ name ++ "<>+0x".toList ++ Hex.ofNat 3 offset ++ "(SB)/8, $0x".toList ++
    Hex.ofLittleEndian word

/-- The line that declares data of a size. -/
def globalLine (name : Text) (size : Nat) : Text :=
  "GLOBL ".toList ++ name ++ "<>(SB), 8, $".toList ++ Decimal.ofNat size

/-- The lines for the constants of a table. -/
def dataLines (name : Text) (bytes : List UInt8) : List Text :=
  let padded := padToWords bytes
  ((words padded).zipIdx.map fun (word, index) => dataLine name (wordSize * index) word) ++
    [globalLine name padded.length]

end AsmBridge
