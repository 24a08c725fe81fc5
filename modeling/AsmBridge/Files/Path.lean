import AsmBridge.Fault

/-!
# Paths

A path is a root, which is empty for relative paths, and components. Empty components and single dots
say nothing and are left out.
-/

namespace AsmBridge

/-- A path. -/
structure Path where
  /-- Nothing for a relative path, else one slash, or two where the path starts with exactly two. -/
  root : Text := []
  parts : List Text := []
  deriving Repr, DecidableEq

namespace Path

/-- The root of a path with a number of slashes in front. -/
def rootOf : Nat → Text
  | 0 => []
  | 2 => "//".toList
  | _ => "/".toList

/-- Whether a component says something. -/
def isProper (part : Text) : Bool :=
  part ≠ [] && part ≠ ['.']

/-- The path that a text stands for. -/
def parse (t : Text) : Path :=
  { root := rootOf (t.takeWhile (· == '/')).length
    parts := (t.splitOn '/').filter isProper }

/-- The text of a path, which is a dot for the working directory. -/
def render (p : Path) : Text :=
  match p.root ++ List.intercalate "/".toList p.parts with
  | [] => ".".toList
  | c :: r => c :: r

/-- The name without what follows its last dot. A dot at either end does not count. -/
def stemOf (name : Text) : Text :=
  let extension := name.reverse.takeWhile (· != '.')
  let stem := name.take (name.length - (extension.length + 1))
  if extension.isEmpty || stem.isEmpty then name else stem

/-- The path beside another one whose name is made from that one's. -/
def renamed (p : Path) (f : Text → Text) : Except Fault Path :=
  match p.parts.getLast? with
  | some name => .ok { p with parts := p.parts.dropLast ++ [f name] }
  | none => .error (.emptyFileName p.render)

/-- Whether a path holds a null character, which no file name can. -/
def hasNull (p : Path) : Bool :=
  p.parts.any (·.contains '\x00')

end Path

end AsmBridge
