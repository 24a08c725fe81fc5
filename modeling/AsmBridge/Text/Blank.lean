import AsmBridge.Text.Basic

/-!
# White space

The blank characters are the white space of Unicode together with the four separator controls
U+001C to U+001F. They separate the fields of a line and are trimmed from both ends of a text.
-/

namespace AsmBridge

/-- The white space of Unicode and the separator controls. -/
def CharSet.blank : CharSet :=
  [(0x9, 0xD), (0x1C, 0x20), (0x85, 0x85), (0xA0, 0xA0), (0x1680, 0x1680), (0x2000, 0x200A),
    (0x2028, 0x2029), (0x202F, 0x202F), (0x205F, 0x205F), (0x3000, 0x3000)]

/-- Whether a character is white space. -/
def isBlank (c : Char) : Bool :=
  CharSet.blank.has c

namespace Text

/-- The white space at the start. -/
def indent (t : Text) : Text :=
  t.takeWhile isBlank

/-- The text without the white space at its start. -/
def trimStart (t : Text) : Text :=
  t.dropWhile isBlank

/-- The text without the white space at its end. -/
def trimEnd (t : Text) : Text :=
  (t.reverse.dropWhile isBlank).reverse

/-- The text without the white space at both ends. -/
def trim (t : Text) : Text :=
  t.trimStart.trimEnd

/-- The pieces between runs of white space. -/
def fields (t : Text) : List Text :=
  (t.splitOnP isBlank).filter (!·.isEmpty)

end Text

end AsmBridge
