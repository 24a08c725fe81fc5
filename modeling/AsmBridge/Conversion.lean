import AsmBridge.Code.Assembler
import AsmBridge.Declaration
import AsmBridge.Listing.Shape
import AsmBridge.Pool.Basic
import AsmBridge.Pool.Data
import AsmBridge.Pool.Reference
import AsmBridge.Subroutine
import AsmBridge.Text.Lines

/-!
# Conversion of a listing

A listing becomes one file of Go assembler: a header, the constants, and the functions that could be
converted. What went wrong with a function is reported, and the others go on.
-/

namespace AsmBridge

/-! ## Reports -/

/-- Something that happened on the way, for those who want to follow it. -/
inductive Event
  | found (name : Text) (line : Nat)
  | shaped (name : Text) (epilogue : Epilogue) (offsetToFirst : Int)
  | skipped (name : Text)
  | converted (name : Text) (lines disabled : Nat)
  deriving Repr, DecidableEq

/-- The outcome of a conversion. -/
structure Report where
  /-- The output. -/
  lines : List Text := []
  /-- The functions that were converted. -/
  subroutines : List Text := []
  errors : List Text := []
  warnings : List Text := []
  log : List Event := []
  deriving Repr, DecidableEq

namespace Report

/-- Whether nothing went wrong. -/
def success (r : Report) : Bool :=
  r.errors.isEmpty

/-- The text of the output. -/
def text (r : Report) : Text :=
  Text.unlines r.lines

/-- The report on a run that ended early. -/
def failure (message : Text) : Report :=
  { errors := [message] }

end Report

/-- The lines in front of every output. -/
def fileHeader : List Text :=
  ["//+build !noasm !appengine".toList, "// Code generated by goasmify. DO NOT EDIT.".toList, [],
    "#include \"textflag.h\"".toList, []]

/-- The name of the table unless another is asked for. -/
def defaultTableName : Text :=
  "LCDATA1".toList

/-! ## Functions -/

/-- What came of a function. -/
structure Outcome where
  name : Text
  /-- The shape, if it was found. -/
  shape : Option Shape
  block : Except Fault (List Text)

namespace Outcome

/-- The lines of a function of a shape. -/
def convertShape (table : Table) (name : Text) (count : Int) (shape : Shape) :
    Except Fault (List Text) := do
  let used ← restrictTable table shape.body
  let args : StackArgs :=
    { number := count.toNat - registerCount, offsetToFirst := shape.offsetToFirst }
  convertSubroutine shape.body name shape.epilogue count.toNat args used

/-- Converts a function. -/
def ofFunction (counts : ArgumentCounts) (table : Table) (f : Function) : Outcome :=
  match counts.lookup f.name with
  | none => { name := f.name, shape := none, block := .error (.undeclared f.name) }
  | some count =>
    match Shape.ofFunction f with
    | .error fault => { name := f.name, shape := none, block := .error fault }
    | .ok shape =>
      { name := f.name, shape := some shape, block := convertShape table f.name count shape }

/-- The fault that ends the whole run, if there is one. -/
def fatal? (o : Outcome) : Option Fault :=
  match o.block with
  | .ok _ => none
  | .error fault => if fault.isLocal then none else some fault

/-- The lines of the output. -/
def lines (o : Outcome) : List Text :=
  match o.block with
  | .ok lines => lines ++ [[]]
  | .error _ => []

/-- The name, if the function was converted. -/
def converted? (o : Outcome) : Option Text :=
  match o.block with
  | .ok _ => some o.name
  | .error _ => none

/-- The error, if the function was not converted. -/
def error? (o : Outcome) : Option Text :=
  match o.block with
  | .ok _ => none
  | .error fault => some (o.name ++ ": ".toList ++ fault.message)

/-- What happened. -/
def log (o : Outcome) : List Event :=
  let shaped := o.shape.toList.map fun shape =>
    Event.shaped o.name shape.epilogue shape.offsetToFirst
  let ended :=
    match o.block with
    | .ok lines => Event.converted o.name lines.length (lines.countP isDisabled)
    | .error _ => Event.skipped o.name
  shaped ++ [ended]

end Outcome

/-! ## Listings -/

/-- The lines in front of the functions. -/
def preamble (pool : Pool) (table : Table) : List Text :=
  fileHeader ++ (if table.isPresent then dataLines table.name pool.data ++ [[]] else [])

/-- Converts a listing, without assembling disabled lines. -/
def convertListing (source : Text) (counts : ArgumentCounts) (tableName : Text) :
    Except Fault Report := do
  let lines := source.splitLines
  let pool ← Pool.ofListing lines
  let table := pool.table tableName
  let functions := Function.ofListing lines
  let outcomes := functions.map (Outcome.ofFunction counts table)
  match outcomes.findSome? Outcome.fatal? with
  | some fault => throw fault
  | none =>
    return {
      lines := preamble pool table ++ outcomes.flatMap Outcome.lines
      subroutines := outcomes.filterMap Outcome.converted?
      errors := outcomes.filterMap Outcome.error?
      warnings := pool.warnings
      log := (functions.map fun f => Event.found f.name f.lineNumber) ++
        outcomes.flatMap Outcome.log }

/-- Assembles the disabled lines of a report. Without an assembler this is an error. -/
def Report.encode (r : Report) (engine : Engine) : Report :=
  match engine.start with
  | .error fault => { r with errors := r.errors ++ [fault.message] }
  | .ok assemble =>
    let (lines, warnings) := assemble.encodeLines r.lines
    { r with
      lines := lines
      warnings := r.warnings ++ warnings.map ("not encoded: ".toList ++ ·) }

/-- How a listing is converted. -/
structure Settings where
  tableName : Text := defaultTableName
  /-- Whether disabled lines are assembled. -/
  encode : Bool := false
  engine : Engine := .missing []

/-- Converts a listing. -/
def convert (source : Text) (counts : ArgumentCounts) (settings : Settings) :
    Except Fault Report :=
  (convertListing source counts settings.tableName).map fun report =>
    if settings.encode then report.encode settings.engine else report

end AsmBridge
