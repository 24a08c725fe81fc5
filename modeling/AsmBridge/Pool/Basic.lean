import AsmBridge.Listing.Function
import AsmBridge.Pool.Image
import AsmBridge.Pool.Operand
import AsmBridge.Table

/-!
# Constants of a listing

The constants of all read-only sections are gathered into one run of bytes, and each label is noted
with the length that the bytes had where it was met. Lines outside these sections change nothing but
the section.
-/

namespace AsmBridge

/-! ## Directives -/

/-- What the name of a section with constants contains. -/
def constantMarkers : List Text :=
  ["rodata".toList, "literal".toList, "const".toList, "cstring".toList]

/-- The directives that switch to a section with constants. -/
def constantSections : List Text :=
  ["rodata".toList, "literal4".toList, "literal8".toList, "literal16".toList, "const".toList,
    "cstring".toList]

/-- The directives that switch to a section without constants. -/
def otherSections : List Text :=
  ["text".toList, "data".toList, "bss".toList]

/-- The directives that add nothing. -/
def ignoredDirectives : List Text :=
  ["globl".toList, "global".toList, "type".toList, "size".toList, "p2alignl".toList]

/-- The directives for numbers, and the sizes of these. -/
def numberDirectives : List (Text × Nat) :=
  [("byte".toList, 1), ("short".toList, 2), ("value".toList, 2), ("2byte".toList, 2),
    ("long".toList, 4), ("int".toList, 4), ("4byte".toList, 4), ("quad".toList, 8),
    ("8byte".toList, 8)]

/-- The directives for strings, and what ends each string. -/
def stringDirectives : List (Text × List UInt8) :=
  [("ascii".toList, []), ("asciz".toList, [0]), ("string".toList, [0])]

/-- The directives for alignment, and whether the operand is an exponent. -/
def alignmentDirectives : List (Text × Bool) :=
  [("align".toList, false), ("balign".toList, false), ("p2align".toList, true)]

/-- The directives for space. -/
def spaceDirectives : List Text :=
  ["zero".toList, "space".toList, "skip".toList]

/-- Whether the operands of a section directive name a section with constants. -/
def namesConstants (operands : List Text) : Bool :=
  let name := Text.toLower (List.intercalate ",".toList operands)
  constantMarkers.any name.includes

/-- For a directive that switches the section, whether the new one has constants. -/
def entersConstants? (directive : Text) (operands : List Text) : Option Bool :=
  if directive == "section".toList then some (namesConstants operands)
  else if otherSections.contains directive then some false
  else if constantSections.contains directive then some true
  else none

/-- The image of a directive after data of a length. -/
def Image.ofDirective (directive : Text) (operands : List Text) (length : Nat) : Image :=
  match numberDirectives.lookup directive, stringDirectives.lookup directive,
    alignmentDirectives.lookup directive with
  | some size, _, _ => ofNumbers size operands
  | none, some terminator, _ => ofStrings terminator operands
  | none, none, some isPower => ofAlignment isPower length operands
  | none, none, none =>
    if spaceDirectives.contains directive then ofSpace operands
    else { fault := some (.unknownDirective directive) }

/-! ## Pool -/

/-- What has been gathered so far. -/
structure Pool where
  /-- Whether the section has constants. -/
  inConstants : Bool := false
  data : List UInt8 := []
  /-- Offsets by name, in the order of first definition. -/
  labels : List (Text × Nat) := []
  warnings : List Text := []
  deriving Repr, DecidableEq

/-- Notes an offset under a name; a name that is there keeps its place. -/
def putLabel (name : Text) (offset : Nat) : List (Text × Nat) → List (Text × Nat)
  | [] => [(name, offset)]
  | entry :: entries =>
    if entry.1 == name then (name, offset) :: entries else entry :: putLabel name offset entries

namespace Pool

/-- The pool with an image added. -/
def add (p : Pool) (image : Image) : Pool :=
  { p with data := p.data ++ image.bytes, warnings := p.warnings ++ image.warnings }

/-- The pool after a directive, and the fault of the directive. -/
def feed (p : Pool) (directive : Text) (operands : List Text) : Pool × Option Fault :=
  match entersConstants? directive operands with
  | some inConstants => ({ p with inConstants := inConstants }, none)
  | none =>
    if !p.inConstants || ignoredDirectives.contains directive then (p, none)
    else
      let image := Image.ofDirective directive operands p.data.length
      (p.add image, image.fault)

/-- The pool with a warning about a line. -/
def warn (p : Pool) (number : Nat) (f : Fault) : Pool :=
  let warning := "Line ".toList ++ Decimal.ofNat number ++ ": ".toList ++ f.message
  { p with warnings := p.warnings ++ [warning] }

/-- The pool after a label. -/
def define (p : Pool) (name : Text) : Pool :=
  if p.inConstants then { p with labels := putLabel name p.data.length p.labels } else p

/-- The name of a label at the start of a line. -/
def label? (line : Text) : Option Text :=
  match leadingSymbol line.trimStart with
  | (c :: r, ':' :: _) => some (c :: r)
  | _ => none

/-- The pool after the line with a number. A fault about a value becomes a warning. -/
def readLine (p : Pool) (number : Nat) (line : Text) : Pool × Option Fault :=
  match label? line with
  | some name => (p.define name, none)
  | none =>
    match directive? line with
    | none => (p, none)
    | some (name, args) =>
      match p.feed name.toLower (splitOperands args) with
      | (q, none) => (q, none)
      | (q, some f) => if f.isValue then (q.warn number f, none) else (q, some f)

/-- The pool after lines that are numbered from `number` on, or at the first line with a fault. -/
def readLines (p : Pool) (number : Nat) : List Text → Pool × Option Fault
  | [] => (p, none)
  | line :: lines =>
    match p.readLine number line with
    | (q, none) => q.readLines (number + 1) lines
    | (q, some f) => (q, some f)

/-- The pool of a listing. -/
def ofListing (lines : List Text) : Except Fault Pool :=
  match ({} : Pool).readLines 1 lines with
  | (p, none) => .ok p
  | (_, some f) => .error f

/-- The table of the labels. -/
def table (p : Pool) (name : Text) : Table :=
  { name := name, labels := p.labels.map fun (label, offset) => { name := label, offset := offset } }

end Pool

end AsmBridge
