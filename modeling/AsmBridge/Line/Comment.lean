import AsmBridge.Text.Blank

/-!
# Comments

A comment of a listing starts with one or two `#` that white space follows, and ends with the line.
-/

namespace AsmBridge

/-- Whether a comment that runs to the end of the line starts the text. -/
def opensComment : Text → Bool
  | '#' :: '#' :: c :: r => isBlank c && Text.isOneLine r
  | '#' :: c :: r => isBlank c && Text.isOneLine r
  | _ => false

/-- The line without its comment and the white space before that. -/
def stripComment : Text → Text
  | [] => []
  | c :: r => if opensComment (Text.trimStart (c :: r)) then [] else c :: stripComment r

/-- Whether nothing of a line is left without its comment. -/
def isCommentOnly (line : Text) : Bool :=
  !line.isEmpty && (stripComment line).isEmpty

end AsmBridge
