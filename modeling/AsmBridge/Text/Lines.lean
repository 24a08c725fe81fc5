import AsmBridge.Text.Basic

/-!
# Lines

A carriage return, alone or before a line feed, counts as a line feed. Besides the line feed, the
vertical tab, the form feed, three of the separator controls and three characters beyond ASCII end a
line of a listing.
-/

namespace AsmBridge

/-- Whether a character ends a line. -/
def isLineBreak (c : Char) : Bool :=
  c == '\n' || c == '\x0b' || c == '\x0c' || c == '\x1c' || c == '\x1d' || c == '\x1e' ||
    c == '\u0085' || c == '\u2028' || c == '\u2029'

namespace Text

/-- Puts a character in front of a text, which is known to start with a line feed or not. A carriage
return becomes a line feed, unless one follows. -/
def pushUnified (c : Char) : Bool × Text → Bool × Text
  | (feedFollows, t) =>
    if c == '\r' then (false, if feedFollows then t else '\n' :: t) else (c == '\n', c :: t)

/-- The text with line feeds only. -/
def unifyNewlines (t : Text) : Text :=
  (t.foldr pushUnified (false, [])).2

/-- Puts a character in front of lines: a line break starts a new line, any other character extends
the first line. -/
def pushLine (c : Char) (lines : List Text) : List Text :=
  if isLineBreak c then [] :: lines
  else
    match lines with
    | [] => [[c]]
    | line :: lines => (c :: line) :: lines

/-- The lines of a text. A line break at the end starts no line. -/
def splitLines (t : Text) : List Text :=
  t.unifyNewlines.foldr pushLine []

/-- Lines with a line feed after each. -/
def unlines (lines : List Text) : Text :=
  lines.flatMap (· ++ ['\n'])

end Text

end AsmBridge
