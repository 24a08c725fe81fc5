import AsmBridge.Number.Hex

/-!
# Machine code in Go assembler

Machine code is written as data directives of eight, four, two and one bytes, as large as what is left
allows.
-/

namespace AsmBridge

/-- The sizes of data directives. -/
inductive Width
  | quad
  | long
  | word
  | byte
  deriving Repr, DecidableEq

namespace Width

/-- The number of bytes. -/
def size : Width → Nat
  | quad => 8
  | long => 4
  | word => 2
  | byte => 1

/-- The name of the directive. -/
def render : Width → Text
  | quad => "QUAD".toList
  | long => "LONG".toList
  | word => "WORD".toList
  | byte => "BYTE".toList

/-- The largest size of at most `length` bytes; the smallest where there is none. -/
def largest (length : Nat) : Width :=
  if 8 ≤ length then quad else if 4 ≤ length then long else if 2 ≤ length then word else byte

theorem size_pos (w : Width) : 0 < w.size := by
  cases w <;> decide

end Width

/-- A data directive with the bytes that it stands for. -/
structure Chunk where
  width : Width
  bytes : List UInt8
  deriving Repr, DecidableEq

namespace Chunk

/-- The directives for a run of bytes. -/
def ofBytes (code : List UInt8) : List Chunk :=
  match code with
  | [] => []
  | b :: rest =>
    let width := Width.largest (b :: rest).length
    { width := width, bytes := (b :: rest).take width.size } ::
      ofBytes ((b :: rest).drop width.size)
termination_by code.length
decreasing_by
  have := Width.size_pos (Width.largest (b :: rest).length)
  simp only [List.length_drop, List.length_cons] at *
  omega

/-- The text of a directive. -/
def render (c : Chunk) : Text :=
  c.width.render ++ " $0x".toList ++ Hex.ofLittleEndian c.bytes

end Chunk

/-- The text of machine code. -/
def renderBytes (code : List UInt8) : Text :=
  List.intercalate "; ".toList ((Chunk.ofBytes code).map Chunk.render)

end AsmBridge
