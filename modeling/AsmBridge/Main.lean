import AsmBridge.CommandLine.Run

/-!
# The program on the disk

All that a run can look at is read into a store before it, and what the run put into the store is
written after it. Nothing is decided here.
-/

namespace AsmBridge

/-- The text of a place for the operating system. -/
def Location.render (l : Location) : Text :=
  let top := match l.up with
    | none => "/".toList
    | some n => "./".toList ++ (List.replicate n "../".toList).flatten
  top ++ List.intercalate "/".toList l.down

/-- What the disk has at a place in a directory. -/
def Location.load (l : Location) : IO (Option Node) := do
  try
    let bytes ← IO.FS.readBinFile (String.ofList l.render)
    return some (.file bytes.toList)
  catch
    | .inappropriateType .. => return some .directory
    | .noFileOrDirectory .. | .invalidArgument .. => return none
    | e => throw e

namespace Store

/-- The store with all places that components lead to from a place. -/
def loadBelow (s : Store) (l : Location) : List Text → IO Store
  | [] => return s
  | name :: names => do
    let l := l.child name
    match ← l.load with
    | some .directory => (s.put l .directory).loadBelow l names
    | some (.file bytes) => return s.put l (.file bytes)
    | none => return s

/-- The store with all places along a path. -/
def load (s : Store) (p : Path) : IO Store :=
  if p.hasNull then return s else s.loadBelow (.start p) p.parts

/-- Writes the files of a store that another store does not have. -/
def save (s : Store) (old : Store) : IO Unit :=
  for (l, node) in s.entries do
    match node with
    | .file bytes =>
      if old.entries.lookup l != some node then
        IO.FS.writeBinFile (String.ofList l.render) ⟨bytes.toArray⟩
    | .directory => return

end Store

/-- All paths that a run with options may follow. -/
def Options.paths (o : Options) : List Path :=
  [o.source] ++ o.stub.value?.toList ++ (o.outputPath.toOption.bind id).toList

end AsmBridge

open AsmBridge in
/-- Runs the command line, without an assembler. -/
def main (words : List String) : IO UInt32 := do
  let args := words.map String.toList
  let store ← match readCommandLine args with
    | .ok o => o.paths.foldlM Store.load {}
    | .error _ => pure {}
  match runCommandLine args store (.missing "No module named \x27keystone\x27".toList) with
  | .ok r => do
    r.store.save store
    IO.print (String.ofList r.output)
    IO.eprint (String.ofList r.errors)
    return r.exitCode.toUInt32
  | .error fault => do
    IO.eprintln (String.ofList fault.message)
    return 1
