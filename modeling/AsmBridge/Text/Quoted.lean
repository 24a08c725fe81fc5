import AsmBridge.Number.Hex
import AsmBridge.Text.Printable

/-!
# Quoted text

Messages show a text between quotes: single quotes, or double quotes where the text holds a single
one and no double one. The quote itself, backslashes and characters that are not printable are
escaped.
-/

namespace AsmBridge

namespace Quoted

/-- The single quote. -/
def single : Char := '\x27'

/-- The double quote. -/
def double : Char := '\x22'

/-- A character by its code point, in the shortest of the three forms that holds it. -/
def codeEscape (c : Char) : Text :=
  if c.toNat < 0x100 then "\\x".toList ++ Hex.ofNat 2 c.toNat
  else if c.toNat < 0x10000 then "\\u".toList ++ Hex.ofNat 4 c.toNat
  else "\\U".toList ++ Hex.ofNat 8 c.toNat

/-- A character inside quotes. -/
def escape (quote c : Char) : Text :=
  if c == quote || c == '\\' then ['\\', c]
  else if c == '\t' then "\\t".toList
  else if c == '\n' then "\\n".toList
  else if c == '\r' then "\\r".toList
  else if isPrintable c then [c]
  else codeEscape c

/-- The quote that a text is shown with. -/
def quoteOf (t : Text) : Char :=
  if t.contains single && !t.contains double then double else single

end Quoted

/-- The text between quotes. -/
def Text.quoted (t : Text) : Text :=
  let quote := Quoted.quoteOf t
  quote :: t.flatMap (Quoted.escape quote) ++ [quote]

end AsmBridge
