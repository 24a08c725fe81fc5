import AsmBridge.Line.Comment
import AsmBridge.Text.LetterCase

/-!
# Normal form of an instruction

Instructions are compared by their text without comment, in lower case, with one space between fields
and after each comma.
-/

namespace AsmBridge

/-- Puts a space after each comma. -/
def spaceCommas (t : Text) : Text :=
  t.flatMap fun c => if c == ',' then ", ".toList else [c]

/-- Removes the space before each comma. -/
def closeCommas : Text → Text
  | ' ' :: ',' :: r => ',' :: closeCommas r
  | c :: r => c :: closeCommas r
  | [] => []

/-- The fields of a line with one space between them. -/
def unwords (fields : List Text) : Text :=
  List.intercalate " ".toList fields

/-- The normal form of a line. -/
def normalize (line : Text) : Text :=
  Text.toLower (closeCommas (unwords (Text.fields (spaceCommas (stripComment line)))))

end AsmBridge
