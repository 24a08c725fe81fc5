import AsmBridge.Text.Blank
import AsmBridge.Text.LetterCase
import AsmBridge.Text.WordChar

/-!
# Sections

A directive that switches the section is named by a keyword. Code stands in text sections only.
-/

namespace AsmBridge

/-- The directives that switch the section. -/
def sectionKeywords : List Text :=
  ["section".toList, "text".toList, "data".toList, "bss".toList, "rodata".toList]

/-- The name of a directive and what follows it. -/
def directive? (line : Text) : Option (Text × Text) :=
  match line.trimStart with
  | '.' :: r =>
    let name := r.takeWhile isWordChar
    let rest := Text.trimStart (r.dropWhile isWordChar)
    if !name.isEmpty && Text.isOneLine rest then some (name, Text.firstLine rest) else none
  | _ => none

/-- The keyword and the arguments of a directive that switches the section. -/
def sectionSwitch? (line : Text) : Option (Text × Text) :=
  match directive? line with
  | some (name, args) => if sectionKeywords.contains name then some (name, args) else none
  | none => none

/-- Whether the arguments of a section directive name a text section: the section `__text` of the
segment of that name, or one whose name starts with `.text`. -/
def namesTextSection (args : Text) : Bool :=
  match (args.splitOn ',').map fun part => (Text.trim part).toLower with
  | [] => false
  | name :: others =>
    if name == "__text".toList then others.head? == some "__text".toList
    else ".text".toList.isPrefixOf name

/-- Whether a directive switches to a text section. -/
def switchesToText (keyword args : Text) : Bool :=
  if keyword == "text".toList then true
  else if keyword == "section".toList then namesTextSection args
  else false

end AsmBridge
