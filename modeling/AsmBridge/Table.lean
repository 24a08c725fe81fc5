import AsmBridge.Text.Basic

/-!
# Constant tables

All constants of a listing stand in one table of bytes. A label names the place where a constant
starts.
-/

namespace AsmBridge

/-- The name of a constant and its offset in the table. -/
structure Label where
  name : Text
  offset : Int
  deriving Repr, DecidableEq

/-- The symbol of the table and its labels. -/
structure Table where
  name : Text := []
  labels : List Label := []
  deriving Repr, DecidableEq

namespace Table

/-- A table without labels is as good as none. -/
def isPresent (t : Table) : Bool :=
  !t.labels.isEmpty

/-- The first label of that name. -/
def lookup? (t : Table) (name : Text) : Option Label :=
  t.labels.find? (·.name == name)

/-- The table with only the labels whose names are among `names`. -/
def restrict (t : Table) (names : List Text) : Table :=
  { t with labels := t.labels.filter fun label => names.contains label.name }

end Table

end AsmBridge
