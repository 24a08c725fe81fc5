import AsmBridge.Text.Basic

/-!
# Block labels

Inside a function the compiler names blocks `LBB` or `.LBB` with numbers. The dot is dropped, because
Go assembler has no such names.
-/

namespace AsmBridge

/-- How the name of a block starts. -/
def blockOpening : Text := "LBB".toList

/-- Whether the name of a block starts a text, with or without a dot. -/
def startsBlock : Text → Bool
  | '.' :: r => blockOpening.isPrefixOf r
  | t => blockOpening.isPrefixOf t

/-- The text up to and with its last colon. -/
def upToColon (t : Text) : Text :=
  (t.reverse.dropWhile (· != ':')).reverse

/-- The name of a block without its dot. -/
def dropDot (name : Text) : Text :=
  name.erase '.'

/-- The label, with its colon, of a line that defines a block. -/
def blockLabel? (line : Text) : Option Text :=
  if startsBlock line then
    match upToColon line.firstLine with
    | [] => none
    | c :: r => some (dropDot (c :: r))
  else none

/-- The name in a label. -/
def labelName (label : Text) : Text :=
  label.erase ':'

/-- Drops the dot of a label; any other line stays. -/
def respellBlockLabel (line : Text) : Text :=
  (blockLabel? line).getD line

end AsmBridge
