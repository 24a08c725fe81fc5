import AsmBridge.Conversion
import AsmBridge.Declaration
import AsmBridge.Files.Path
import AsmBridge.Number.Integer
import AsmBridge.Text.Quoted

/-!
# Options

The options of the command line, the ways to spell them, and what a usage error says about them.
-/

namespace AsmBridge

/-- An option. -/
inductive Switch
  | help
  | output
  | stub
  | args
  | tableName
  | encode
  | verbose
  | version
  deriving Repr, DecidableEq

namespace Switch

/-- Whether a value follows the option. -/
def takesValue : Switch → Bool
  | output | stub | args | tableName => true
  | help | encode | verbose | version => false

/-- The spellings of an option. -/
def spellings : Switch → List Text
  | help => ["-h".toList, "--help".toList]
  | output => ["-o".toList, "--output".toList]
  | stub => ["--stub".toList]
  | args => ["--args".toList]
  | tableName => ["--table-name".toList]
  | encode => ["--encode".toList]
  | verbose => ["-v".toList, "--verbose".toList]
  | version => ["--version".toList]

/-- All options, in the order of the usage text. -/
def all : List Switch :=
  [help, output, stub, args, tableName, encode, verbose, version]

/-- All spellings with their options. -/
def dictionary : List (Text × Switch) :=
  all.flatMap fun s => s.spellings.map fun spelling => (spelling, s)

/-- The option with a spelling. -/
def ofSpelling? (spelling : Text) : Option Switch :=
  dictionary.lookup spelling

/-- The name of an option in messages. -/
def title (s : Switch) : Text :=
  List.intercalate "/".toList s.spellings

end Switch

/-- What is wrong with a command line. -/
inductive UsageError
  /-- A shortened option can be several options. -/
  | ambiguous (word : Text) (candidates : List Text)
  | valueMissing (s : Switch)
  /-- An option that takes no value has one joined to it. -/
  | valueIgnored (s : Switch) (value : Text)
  /-- An argument count has no name. -/
  | countUnnamed (value : Text)
  /-- An argument count is no integer. -/
  | countInvalid (value : Text)
  | sourceMissing
  | unrecognized (words : List Text)
  deriving Repr, DecidableEq

namespace UsageError

/-- The wording of an error about one option. -/
def about (s : Switch) (detail : Text) : Text :=
  "argument ".toList ++ s.title ++ ": ".toList ++ detail

/-- The wording of an error. -/
def message : UsageError → Text
  | ambiguous word candidates =>
    "ambiguous option: ".toList ++ word ++ " could match ".toList ++
      List.intercalate ", ".toList candidates
  | valueMissing s => about s "expected one argument".toList
  | valueIgnored s value => about s ("ignored explicit argument ".toList ++ value.quoted)
  | countUnnamed value => about .args ("expected NAME=COUNT, got ".toList ++ value.quoted)
  | countInvalid value =>
    about .args ("argument count must be an integer: ".toList ++ value.quoted)
  | sourceMissing => "the following arguments are required: source".toList
  | unrecognized words =>
    "unrecognized arguments: ".toList ++ List.intercalate " ".toList words

end UsageError

/-- What a command line says about an option with a value: nothing, the option without its value, or
the value. -/
inductive Given (α : Type)
  | absent
  | lost
  | value (a : α)
  deriving Repr, DecidableEq

namespace Given

/-- What is said by an option whose value may be lost. -/
def ofValue {α : Type} : Option α → Given α
  | none => lost
  | some a => value a

/-- The value, if there is one. -/
def value? {α : Type} : Given α → Option α
  | absent | lost => none
  | value a => some a

/-- Whether the option is there without its value. -/
def isLost {α : Type} : Given α → Bool
  | lost => true
  | absent | value _ => false

end Given

/-- What stands in a text for a value that is lost. -/
def lostText : Text :=
  "[]".toList

/-- What a command line asks for. -/
structure Options where
  source : Path
  output : Given Path := .absent
  stub : Given Path := .absent
  /-- Argument counts, those that have lost their value among them. -/
  counts : List (Option (Text × Int)) := []
  tableName : Text := defaultTableName
  encode : Bool := false
  verbose : Bool := false

/-! ## Argument counts -/

/-- The white space around an argument count, in which the separator controls do not count. -/
def isCountBlank (c : Char) : Bool :=
  isBlank c && !('\x1c' ≤ c && c ≤ '\x1f')

/-- The integer of an argument count. -/
def countValue? (t : Text) : Option Int :=
  let trimmed := ((t.dropWhile isCountBlank).reverse.dropWhile isCountBlank).reverse
  Integer.signed? Integer.decimal? (trimmed.map Integer.asciiDigit)

/-- The name and the integer of an argument count. -/
def argumentCount (value : Text) : Except UsageError (Text × Int) :=
  match value.cut? "=".toList with
  | some (c :: name, count) =>
    match countValue? count with
    | some n => .ok (c :: name, n)
    | none => .error (.countInvalid value)
  | _ => .error (.countUnnamed value)

end AsmBridge
