import AsmBridge.Files.Path
import AsmBridge.Text.Lines
import AsmBridge.Text.Utf8

/-!
# Stored files

A store holds files and directories by their location. A path is followed component by component, and
each step has to start in a directory. Above the working directory only directories are known.
-/

namespace AsmBridge

/-- A place: components down from the directory `up` levels above the working directory, or from the
root of all. -/
structure Location where
  up : Option Nat := some 0
  down : List Text := []
  deriving Repr, DecidableEq

namespace Location

/-- The place of the directory that holds a place. -/
def parent (l : Location) : Location :=
  match l.down with
  | [] => { l with up := l.up.map (· + 1) }
  | _ :: _ => { l with down := l.down.dropLast }

/-- The place of a name in a directory. -/
def child (l : Location) (name : Text) : Location :=
  if name == "..".toList then l.parent else { l with down := l.down ++ [name] }

/-- Where a path starts. -/
def start (p : Path) : Location :=
  if p.root.isEmpty then {} else { up := none }

end Location

/-- What is stored at a place. -/
inductive Node
  | file (bytes : List UInt8)
  | directory
  deriving Repr, DecidableEq

/-- Files and directories by location. A directory is there if something in it is. -/
structure Store where
  entries : List (Location × Node) := []
  deriving Repr, DecidableEq

namespace Store

/-- Whether a place has something stored below it. -/
def holdsBelow (s : Store) (l : Location) : Bool :=
  s.entries.any fun (other, _) => other.up == l.up && l.down.isPrefixOf other.down

/-- What is at a place. -/
def node? (s : Store) (l : Location) : Option Node :=
  match s.entries.lookup l with
  | some node => some node
  | none => if l.down.isEmpty || s.holdsBelow l then some .directory else none

/-- The most bytes of a component. -/
def nameLimit : Nat := 255

/-- The most bytes of a path. -/
def pathLimit : Nat := 4095

/-- The number of bytes of a text in a file. -/
def byteCount (t : Text) : Nat :=
  (Utf8.encode t).length

/-- The place that components lead to from a place, each step from a directory. -/
def follow (s : Store) (path : Text) (l : Location) : List Text → Except Fault Location
  | [] => .ok l
  | name :: names =>
    match s.node? l with
    | some .directory =>
      if nameLimit < byteCount name then .error (.nameTooLong path)
      else s.follow path (l.child name) names
    | some (.file _) => .error (.notDirectory path)
    | none => .error (.noSuchFile path)

/-- The place that a path leads to. -/
def locate (s : Store) (p : Path) : Except Fault Location :=
  if p.hasNull then .error .nullInPath
  else if pathLimit < byteCount p.render then .error (.nameTooLong p.render)
  else s.follow p.render (.start p) p.parts

/-- Whether something is at a path. A path that is too long is not even looked for. -/
def isThere (s : Store) (p : Path) : Except Fault Bool :=
  match s.locate p with
  | .ok l => .ok (s.node? l).isSome
  | .error (.nameTooLong path) => .error (.nameTooLong path)
  | .error _ => .ok false

/-- The bytes of the file at a path. -/
def readBytes (s : Store) (p : Path) : Except Fault (List UInt8) := do
  let l ← s.locate p
  match s.node? l with
  | some (.file bytes) => return bytes
  | some .directory => throw (.isDirectory p.render)
  | none => throw (.noSuchFile p.render)

/-- The text of the file at a path, with line feeds only. -/
def readText (s : Store) (p : Path) : Except Fault Text := do
  let bytes ← s.readBytes p
  return (← Utf8.decode bytes).unifyNewlines

/-- Entries with the node at a place put in. -/
def putEntry (l : Location) (node : Node) :
    List (Location × Node) → List (Location × Node)
  | [] => [(l, node)]
  | entry :: entries =>
    if entry.1 == l then (l, node) :: entries else entry :: putEntry l node entries

/-- The store with a file at a place. -/
def put (s : Store) (l : Location) (node : Node) : Store :=
  { entries := putEntry l node s.entries }

/-- The store with a text in the file at a path. -/
def writeText (s : Store) (p : Path) (t : Text) : Except Fault Store := do
  let l ← s.locate p
  match s.node? l with
  | some .directory => throw (.isDirectory p.render)
  | _ => return s.put l (.file (Utf8.encode t))

end Store

end AsmBridge
