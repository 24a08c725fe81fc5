import AsmBridge.CommandLine.Option
import AsmBridge.Text.DecimalDigit

/-!
# Words of a command line

A word is an option, possibly shortened or with its value joined to it, a plain word, or the separator
after which all words are plain. A word that looks like an option but is none is kept for the error
message.
-/

namespace AsmBridge

/-- An option as a word has it. -/
structure Use where
  option : Switch
  spelling : Text
  /-- The value that is joined to the option. -/
  joined : Option Text := none
  deriving Repr, DecidableEq

/-- A word of a command line. -/
inductive Word
  | plain (text : Text)
  | separator
  | option (use : Use)
  | unknown (text : Text)
  deriving Repr, DecidableEq

namespace Word

/-- The separator of options from plain words, which also starts long options. -/
def dashes : Text :=
  "--".toList

/-- Whether digits run up to the end of a text. -/
def isDigits (t : Text) : Bool :=
  match t.takeWhile isDecimalDigit, t.dropWhile isDecimalDigit with
  | _ :: _, [] => true
  | _ :: _, ['\n'] => true
  | _, _ => false

/-- Whether a word is a negative number, which is no option. -/
def isNegativeNumber : Text → Bool
  | '-' :: t =>
    isDigits t ||
      match t.dropWhile isDecimalDigit with
      | '.' :: r => isDigits r
      | _ => false
  | _ => false

/-- The options whose long spelling starts with the part of a word before its equals sign. -/
def longUses (word : Text) : List Use :=
  let (opening, value) :=
    match word.cut? "=".toList with
    | some (opening, value) => (opening, some value)
    | none => (word, none)
  (Switch.dictionary.filter fun (spelling, _) => opening.isPrefixOf spelling).map
    fun (spelling, s) => { option := s, spelling := spelling, joined := value }

/-- The options whose short spelling starts a word. -/
def shortUses (word : Text) : List Use :=
  (Switch.dictionary.filter fun (spelling, _) => spelling == word.take 2).map
    fun (spelling, s) => { option := s, spelling := spelling, joined := some (word.drop 2) }

/-- The options that a word can be short for. -/
def candidates (word : Text) : List Use :=
  if dashes.isPrefixOf word then longUses word else shortUses word

/-- An option that is spelled in full up to an equals sign. -/
def fullUse? (word : Text) : Option Use :=
  match word.cut? "=".toList with
  | some (spelling, value) =>
    (Switch.ofSpelling? spelling).map fun s =>
      { option := s, spelling := spelling, joined := some value }
  | none => none

/-- A word that starts with a dash, which is not all of it, and is not spelled in full. -/
def ofDashed (word : Text) : Except UsageError Word :=
  match fullUse? word, candidates word with
  | some use, _ => .ok (option use)
  | none, [use] => .ok (option use)
  | none, [] =>
    if isNegativeNumber word || word.contains ' ' then .ok (plain word) else .ok (unknown word)
  | none, uses => .error (.ambiguous word (uses.map (·.spelling)))

/-- The meaning of a word before the separator. -/
def of (word : Text) : Except UsageError Word :=
  match word with
  | '-' :: _ :: _ =>
    match Switch.ofSpelling? word with
    | some s => .ok (option { option := s, spelling := word })
    | none => ofDashed word
  | _ => .ok (plain word)

/-- The meanings of the words of a command line. -/
def ofLine : List Text → Except UsageError (List Word)
  | [] => .ok []
  | word :: words =>
    if word == dashes then .ok (separator :: words.map plain)
    else do
      let first ← of word
      let others ← ofLine words
      return first :: others

end Word

end AsmBridge
