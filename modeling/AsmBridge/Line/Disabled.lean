import AsmBridge.Text.Blank
import AsmBridge.Text.Lowercase

/-!
# Disabled lines

An instruction that has no spelling in Go assembler is left as a comment behind a fixed margin, from
which it can be assembled later. What has been respelled is in upper case, so an instruction that
still starts with a small letter is one of these.
-/

namespace AsmBridge

/-- The margin and comment mark in front of a disabled instruction. -/
def disabledMargin : Text :=
  List.replicate 33 ' ' ++ "// ".toList

/-- Disables a line. -/
def disable (line : Text) : Text :=
  disabledMargin ++ line.trim

/-- Whether a line is disabled. -/
def isDisabled (line : Text) : Bool :=
  disabledMargin.isPrefixOf line

/-- Whether a text starts with a small letter. -/
def startsLowercase : Text → Bool
  | [] => false
  | c :: _ => isLowercase c

/-- Whether a line is an instruction in small letters. A first field with a colon is a label. -/
def isForeign (line : Text) : Bool :=
  match line.fields with
  | [] => false
  | field :: _ => !field.contains ':' && startsLowercase field

/-- Disables an instruction in small letters; any other line stays. -/
def disableForeign (line : Text) : Text :=
  if isForeign line then disable line else line

end AsmBridge
