import AsmBridge.Frame.Operand
import AsmBridge.Line.Call
import AsmBridge.Line.Comment
import AsmBridge.Line.Disabled
import AsmBridge.Line.Jump
import AsmBridge.Line.Spelling

/-!
# Conversion of a line

One line of a function's body becomes one line of Go assembler, or none where it is a comment or an
alignment.
-/

namespace AsmBridge

/-- The directive that aligns code, which is dropped. -/
def alignDirective : Text := ".align".toList

/-- The changes to a line that need no knowledge of frame and constants. -/
def respell (line : Text) : Text :=
  shortenMove (addShiftCounts (removeSizeMarkers
    (disableForeign (respellCall (respellJump (respellBlockLabel line))))))

/-- The changes to the memory operands of a line. -/
def resolveOperands (table : Table) (layout : Layout) (line : Text) : Except Fault Text := do
  let line ← if table.isPresent then resolveConstant table line else .ok line
  let line ← resolveArgument layout line
  refuseBelowFrame line

/-- Converts a line of a body; there is no answer for a line that is dropped. -/
def convertLine (table : Table) (layout : Layout) (line : Text) : Except Fault (Option Text) :=
  if isCommentOnly line || (stripComment line).includes alignDirective then .ok none
  else (resolveOperands table layout (respell (stripComment line))).map some

end AsmBridge
