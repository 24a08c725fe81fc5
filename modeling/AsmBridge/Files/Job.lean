import AsmBridge.Conversion
import AsmBridge.Files.Store

/-!
# Conversion of files

The listing and the declarations are read from files, and the output is written to one. Nothing is
written unless every function was converted and every line assembled that should be.
-/

namespace AsmBridge

/-- The files of a conversion. -/
structure Job where
  source : Path
  output : Option Path := none
  /-- The Go file that declares the functions. -/
  stub : Option Path := none
  /-- Argument counts that go before those of the Go file. -/
  counts : ArgumentCounts := []

namespace Job

/-- The text of a file, or the report that says why it cannot be read. Faults that have nothing to do
with files end the run. -/
def readOr (store : Store) (path : Path) (title : Text) : Except Fault (Except Report Text) :=
  match store.readText path with
  | .ok text => .ok (.ok text)
  | .error fault =>
    if fault.kind = .file then .ok (.error (.failure (title ++ fault.message)))
    else .error fault

/-- The counts that the Go file declares, if there is one, and those that go before them. -/
def readCounts (job : Job) (store : Store) : Except Fault (Except Report ArgumentCounts) :=
  match job.stub with
  | none => .ok (.ok (ArgumentCounts.override [] job.counts))
  | some path =>
    (readOr store path "Failed to read stub file: ".toList).map fun text =>
      text.map fun text => (ArgumentCounts.ofDeclarations text).override job.counts

/-- Writes the output of a report that has no errors. -/
def write (job : Job) (store : Store) (report : Report) : Except Fault (Report × Store) :=
  match job.output with
  | none => .ok (report, store)
  | some path =>
    if report.success then
      match store.writeText path report.text with
      | .ok store => .ok (report, store)
      | .error fault =>
        if fault.kind = .file then
          let message := "Failed to write output file: ".toList ++ fault.message
          .ok ({ report with errors := report.errors ++ [message] }, store)
        else .error fault
    else .ok (report, store)

/-- The listing, or the report that says why it cannot be read. -/
def readSource (job : Job) (store : Store) : Except Fault (Except Report Text) := do
  if ← store.isThere job.source then
    readOr store job.source "Failed to read source file: ".toList
  else
    return .error (.failure ("Source file not found: ".toList ++ job.source.render))

/-- Converts files. -/
def run (job : Job) (store : Store) (settings : Settings) : Except Fault (Report × Store) := do
  match ← job.readSource store with
  | .error report => return (report, store)
  | .ok source =>
    match ← job.readCounts store with
    | .error report => return (report, store)
    | .ok counts => job.write store (← convert source counts settings)

end Job

end AsmBridge
