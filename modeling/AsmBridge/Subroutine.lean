import AsmBridge.Frame.Sequence
import AsmBridge.Line.Conversion

/-!
# Subroutines

The body of a function is converted line by line; the compiler's exit sequence gives way to the new
one, and the new entry sequence goes in front.
-/

namespace AsmBridge

/-- Whether the line number `index` belongs to the exit sequence. -/
def Epilogue.covers (e : Epilogue) (index : Nat) : Bool :=
  e.start ≤ index && index < e.stop

/-- Whether the line number `index` is the last one of the exit sequence. -/
def Epilogue.endsAt (e : Epilogue) (index : Nat) : Bool :=
  index = e.stop - 1

/-- What takes the place of the line number `index`: the new exit sequence that of the last line of
the old one, nothing that of its other lines, and the converted line that of a line outside. -/
def convertAt (e : Epilogue) (table : Table) (layout : Layout) (index : Nat) (line : Text) :
    Except Fault (List Text) :=
  if e.covers index then
    .ok (if e.endsAt index then epilogueLines e.frame else [])
  else (convertLine table layout line).map Option.toList

/-- What takes the place of lines that are numbered from `index` on. -/
def convertFrom (e : Epilogue) (table : Table) (layout : Layout) :
    Nat → List Text → Except Fault (List Text)
  | _, [] => .ok []
  | index, line :: lines => do
    let here ← convertAt e table layout index line
    let after ← convertFrom e table layout (index + 1) lines
    return here ++ after

/-- The body of a function. -/
def convertBody (lines : List Text) (e : Epilogue) (args : StackArgs) (table : Table) :
    Except Fault (List Text) := do
  e.check lines.length
  convertFrom e table (.select args e.frame.realigned table.isPresent) 0 lines

/-- A function with `count` declared arguments. -/
def convertSubroutine (lines : List Text) (name : Text) (e : Epilogue) (count : Nat)
    (args : StackArgs) (table : Table) : Except Fault (List Text) := do
  let body ← convertBody lines e args table
  return prologueLines e.frame name count table ++ body

end AsmBridge
