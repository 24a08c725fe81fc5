import AsmBridge.CommandLine.Log
import AsmBridge.CommandLine.Parse
import AsmBridge.CommandLine.Usage
import AsmBridge.Files.Job

/-!
# The program

What a command line prints and writes, and the exit code that it ends with.
-/

namespace AsmBridge

/-- What a run of the program leaves behind. -/
structure Result where
  exitCode : Nat
  output : Text := []
  errors : Text := []
  store : Store
  deriving Repr, DecidableEq

namespace Options

/-- What follows the name of the source in the default name of the output. -/
def outputEnding : Text :=
  "_amd64.s".toList

/-- The path of the output, which is nothing where the option has lost its value. -/
def outputPath (o : Options) : Except Fault (Option Path) :=
  match o.output with
  | .value path => .ok (some path)
  | .lost => .ok none
  | .absent => (o.source.renamed fun name => Path.stemOf name ++ outputEnding).map some

/-- The text of a path that may be lost. -/
def pathText : Option Path → Text
  | some path => path.render
  | none => lostText

/-- The argument counts, none of which may be lost. -/
def argumentCounts (o : Options) : Except Fault ArgumentCounts :=
  match o.counts.findIdx? Option.isNone with
  | some index => .error (.countMissing index)
  | none => .ok (ArgumentCounts.override [] (o.counts.filterMap id))

/-- How the listing is converted. -/
def settings (o : Options) (engine : Engine) : Settings :=
  { tableName := o.tableName, encode := o.encode, engine := engine }

/-- What is printed before the conversion. -/
def announcement (o : Options) (output : Option Path) : List Text :=
  if o.verbose then
    ["Translating: ".toList ++ o.source.render, "Output: ".toList ++ pathText output]
  else []

/-- What is printed about a report on the error channel. -/
def complaints (o : Options) (report : Report) : List Text :=
  (if o.verbose then report.log.map Event.describe else []) ++
    report.warnings.map ("Warning: ".toList ++ ·) ++ report.errors.map ("Error: ".toList ++ ·)

/-- What is printed after a successful conversion. -/
def summary (output : Option Path) (report : Report) : List Text :=
  ["Translated: ".toList ++ pathText output ++ " (".toList ++
    Decimal.ofNat report.subroutines.length ++ " subroutines)".toList]

/-- Converts the files that the options name. A path that is lost is missed where it is needed: that of
the Go file once the listing is read, that of the output once all has been converted. -/
def convertFiles (o : Options) (output : Option Path) (counts : ArgumentCounts) (store : Store)
    (engine : Engine) : Except Fault (Report × Store) := do
  let job : Job := { source := o.source, output := output, stub := o.stub.value?, counts := counts }
  if o.stub.isLost then
    match ← job.readSource store with
    | .error report => return (report, store)
    | .ok _ => throw .pathMissing
  let (report, after) ← job.run store (o.settings engine)
  if output.isNone && report.success then throw .pathMissing
  return (report, after)

/-- Runs the program with options. -/
def run (o : Options) (store : Store) (engine : Engine) : Except Fault Result := do
  let output ← o.outputPath
  if !(← store.isThere o.source) then
    let complaint := "Error: Source file not found: ".toList ++ o.source.render
    return { exitCode := 1, errors := Text.unlines [complaint], store := store }
  let (report, store) ← o.convertFiles output (← o.argumentCounts) store engine
  let printed := o.announcement output ++ (if report.success then summary output report else [])
  return {
    exitCode := if report.success then 0 else 1
    output := Text.unlines printed
    errors := Text.unlines (o.complaints report)
    store := store }

end Options

/-- Runs the program on the words of a command line. -/
def runCommandLine (args : List Text) (store : Store) (engine : Engine) : Except Fault Result :=
  match readCommandLine args with
  | .ok options => options.run store engine
  | .error .help => .ok { exitCode := 0, output := helpText, store := store }
  | .error .version => .ok { exitCode := 0, output := versionText, store := store }
  | .error (.error e) => .ok { exitCode := 2, errors := e.text, store := store }

end AsmBridge
