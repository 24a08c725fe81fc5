import AsmBridge.Listing.Section
import AsmBridge.Text.DecimalDigit

/-!
# Functions of a listing

A function starts at the label of a global symbol in a text section. It ends where its end marker,
another function or a section without code comes, or with the listing.
-/

namespace AsmBridge

/-! ## Lines that matter -/

/-- A symbol at the start of a text, and what follows it. -/
def leadingSymbol (t : Text) : Text × Text :=
  (t.takeWhile isSymbolChar, t.dropWhile isSymbolChar)

/-- What follows the name of the directive that declares a symbol global. -/
def afterGlobalDirective? (t : Text) : Option Text :=
  t.after? ".globl".toList <|> t.after? ".global".toList

/-- The symbol that a line declares global. -/
def globalSymbol? (line : Text) : Option Text :=
  match afterGlobalDirective? line.trimStart with
  | some (c :: r) =>
    if isBlank c then
      match leadingSymbol (Text.trimStart r) with
      | ([], _) => none
      | (symbol, _) => some symbol
    else none
  | _ => none

/-- Whether a symbol can start with the character. -/
def opensSymbol (c : Char) : Bool :=
  c.isAlpha || c == '_' || c == '$'

/-- The symbol of a label at the start of a line. -/
def functionLabel? : Text → Option Text
  | [] => none
  | c :: r =>
    if opensSymbol c then
      match leadingSymbol r with
      | (symbol, ':' :: _) => some (c :: symbol)
      | _ => none
    else none

/-- The text without a dot at its start. -/
def withoutDot : Text → Text
  | '.' :: r => r
  | t => t

/-- Whether a line is the marker that ends a function. -/
def endsFunction (line : Text) : Bool :=
  match (withoutDot line).after? "Lfunc_end".toList with
  | some (c :: r) =>
    isDecimalDigit c && (r.dropWhile isDecimalDigit).head? == some ':'
  | _ => false

/-- The symbols that a listing declares global. -/
def globalSymbols (lines : List Text) : List Text :=
  lines.filterMap globalSymbol?

/-! ## Names -/

/-- Whether a listing is for Mach-O, which has segments. -/
def isMachO (lines : List Text) : Bool :=
  lines.any (·.includes "__TEXT,".toList)

/-- The name of a symbol in C, which Mach-O puts an underscore in front of. -/
def cName (symbol : Text) (machO : Bool) : Text :=
  match symbol with
  | '_' :: name => if machO then name else symbol
  | _ => symbol

/-! ## Splitting -/

/-- What a line does to the function that is being read. -/
inductive LineRole
  /-- The section changes. -/
  | switch (toText : Bool)
  /-- A function starts, if the section is a text section. -/
  | start (symbol : Text)
  /-- The function ends. -/
  | stop
  /-- The line belongs to the function. -/
  | plain
  deriving Repr, DecidableEq

/-- The role of a line in a listing that declares `globals`. -/
def LineRole.of (globals : List Text) (line : Text) : LineRole :=
  match sectionSwitch? line with
  | some (keyword, args) => .switch (switchesToText keyword args)
  | none =>
    match functionLabel? line with
    | some symbol =>
      if globals.contains symbol then .start symbol
      else if endsFunction line then .stop
      else .plain
    | none => if endsFunction line then .stop else .plain

/-- A function of a listing. -/
structure Function where
  /-- The name in C. -/
  name : Text
  /-- The number of the line with the label, counted from one. -/
  lineNumber : Nat
  /-- The lines after the label. -/
  lines : List Text
  deriving Repr, DecidableEq

namespace Function

/-- The lines of a function, where `lines` follow its label. -/
def linesOf (globals : List Text) : List Text → List Text
  | [] => []
  | line :: lines =>
    match LineRole.of globals line with
    | .switch true => linesOf globals lines
    | .plain => line :: linesOf globals lines
    | .switch false | .start _ | .stop => []

/-- The functions among lines that are numbered from `number` on; `inText` tells whether the first
of them is in a text section. -/
def scan (globals : List Text) (machO : Bool) : Bool → Nat → List Text → List Function
  | _, _, [] => []
  | inText, number, line :: lines =>
    match LineRole.of globals line with
    | .switch toText => scan globals machO toText (number + 1) lines
    | .start symbol =>
      if inText then
        { name := cName symbol machO, lineNumber := number, lines := linesOf globals lines } ::
          scan globals machO inText (number + 1) lines
      else scan globals machO inText (number + 1) lines
    | .stop | .plain => scan globals machO inText (number + 1) lines

/-- The functions of a listing. -/
def ofListing (lines : List Text) : List Function :=
  scan (globalSymbols lines) (isMachO lines) true 1 lines

end Function

end AsmBridge
