import AsmBridge.Fault
import AsmBridge.Text.Blank

/-!
# Spelling of operands

Small changes to an instruction: size markers that say nothing new are removed, a shift without a
count gets its count of one, and the long form of a move gets the common mnemonic.
-/

namespace AsmBridge

/-! ## Markers -/

/-- The line without the first occurrence of a marker and the white space around what follows it. -/
def removeMarker (line marker : Text) : Text :=
  match line.cut? marker with
  | some (head, tail) => head ++ tail.trim
  | none => line

/-- As `removeMarker`, for a marker that may be empty. -/
def removeMarker? (line marker : Text) : Except Fault Text :=
  if marker.isEmpty then .error .emptyMarker else .ok (removeMarker line marker)

/-- The markers that Go assembler does not have. -/
def sizeMarkers : List Text :=
  ["ptr".toList, "xmmword".toList, "ymmword".toList, "# NOREX".toList]

/-- The line without its size markers. -/
def removeSizeMarkers (line : Text) : Text :=
  sizeMarkers.foldl removeMarker line

/-! ## Shifts -/

/-- Adds the count of one to a shift with one operand. -/
def addShiftCount (line mnemonic : Text) : Text :=
  match line.cut? mnemonic with
  | some (_, operands) => if operands.contains ',' then line else line ++ ", 1".toList
  | none => line

/-- As `addShiftCount`, for a mnemonic that may be empty. -/
def addShiftCount? (line mnemonic : Text) : Except Fault Text :=
  if mnemonic.isEmpty then .error .emptyMarker else .ok (addShiftCount line mnemonic)

/-- The shifts whose count may be missing. -/
def shiftMnemonics : List Text :=
  ["shr".toList, "sar".toList]

/-- Adds missing counts of shifts. -/
def addShiftCounts (line : Text) : Text :=
  shiftMnemonics.foldl addShiftCount line

/-! ## Moves -/

/-- Spells a move of a long immediate as a move. -/
def shortenMove (line : Text) : Text :=
  match line.cut? "movabs".toList with
  | some (head, tail) => head ++ "mov".toList ++ tail
  | none => line

end AsmBridge
