import AsmBridge.Text.Blank
import AsmBridge.Text.WordChar

/-!
# Declarations of functions

A Go file declares the functions that assembler implements. The number of parameters of a declaration
is the number of arguments of the function; the Go name `_f` stands for the function `f`.
-/

namespace AsmBridge

/-- The number of parameters in a parameter list. -/
def countParameters (params : Text) : Nat :=
  ((params.splitOn ',').filter fun param => !(Text.trim param).isEmpty).length

/-- A declared name and its parameter list. -/
structure Declaration where
  name : Text
  params : Text
  deriving Repr, DecidableEq

namespace Declaration

/-- The text after white space, of which there has to be some. -/
def afterBlank? : Text → Option Text
  | [] => none
  | c :: r => if isBlank c then some (Text.trimStart r) else none

/-- What stands between parentheses at the start of a text, and what follows. -/
def parenthesized? : Text → Option (Text × Text)
  | '(' :: r =>
    match r.dropWhile (· != ')') with
    | [] => none
    | _ :: rest => some (r.takeWhile (· != ')'), rest)
  | _ => none

/-- The declaration at the start of a line, and what follows it. -/
def parse? (t : Text) : Option (Declaration × Text) :=
  match (t.trimStart.after? "func".toList).bind afterBlank? with
  | none => none
  | some r =>
    match r.takeWhile isWordChar, parenthesized? (Text.trimStart (r.dropWhile isWordChar)) with
    | c :: name, some (params, rest) => some ({ name := c :: name, params := params }, rest)
    | _, _ => none

theorem length_of_afterBlank? {t rest : Text} (h : afterBlank? t = some rest) :
    rest.length ≤ t.length := by
  unfold afterBlank? at h
  split at h
  · simp at h
  · rename_i c r
    split at h
    · simp only [Option.some.injEq] at h
      have := Text.length_dropWhile_le r isBlank
      rw [← h, List.length_cons]
      exact Nat.le_succ_of_le this
    · simp at h

theorem length_of_parenthesized? {t params rest : Text}
    (h : parenthesized? t = some (params, rest)) : rest.length < t.length := by
  unfold parenthesized? at h
  split at h
  · rename_i r
    split at h
    · simp at h
    · rename_i hdrop
      simp only [Option.some.injEq, Prod.mk.injEq] at h
      have hle := Text.length_dropWhile_le r (· != ')')
      rw [hdrop, h.2, List.length_cons] at hle
      simp only [List.length_cons]
      omega
  · simp at h

theorem length_of_parse? {t rest : Text} {d : Declaration} (h : parse? t = some (d, rest)) :
    rest.length < t.length := by
  unfold parse? at h
  split at h
  · simp at h
  · rename_i r hr
    obtain ⟨s, hs, hb⟩ := Option.bind_eq_some_iff.1 hr
    split at h
    · rename_i hp
      simp only [Option.some.injEq, Prod.mk.injEq] at h
      have h1 : t.trimStart.length ≤ t.length := Text.length_dropWhile_le t isBlank
      have h2 := Text.length_of_after? hs
      have h3 := length_of_afterBlank? hb
      have h4 := Text.length_dropWhile_le r isWordChar
      have h5 : (Text.trimStart (r.dropWhile isWordChar)).length ≤ (r.dropWhile isWordChar).length :=
        Text.length_dropWhile_le _ isBlank
      have h6 := length_of_parenthesized? hp
      rw [h.2] at h6
      omega
    · simp at h

/-- The declaration at the start of a text, if a line starts there. -/
def atLineStart? (lineStart : Bool) (t : Text) : Option (Declaration × Text) :=
  if lineStart then parse? t else none

theorem length_of_atLineStart? {lineStart : Bool} {t rest : Text} {d : Declaration}
    (h : atLineStart? lineStart t = some (d, rest)) : rest.length < t.length := by
  unfold atLineStart? at h
  split at h
  · exact length_of_parse? h
  · simp at h

/-- The declarations of a text, where `lineStart` tells whether a line starts with it. -/
def allFrom (lineStart : Bool) (t : Text) : List Declaration :=
  match t with
  | [] => []
  | c :: r =>
    match _h : atLineStart? lineStart (c :: r) with
    | some (declaration, rest) => declaration :: allFrom false rest
    | none => allFrom (c == '\n') r
termination_by t.length
decreasing_by
  · exact length_of_atLineStart? ‹_›
  · simp

/-- The name of the function that a declaration is for, which lacks an underscore at the start of the
declared name. -/
def target (d : Declaration) : Text :=
  match d.name with
  | '_' :: name => name
  | name => name

end Declaration

/-- Argument counts by function, in the order of first declaration. -/
abbrev ArgumentCounts := List (Text × Int)

namespace ArgumentCounts

/-- Notes the count of a function; a function that is there keeps its place. -/
def put (name : Text) (count : Int) : ArgumentCounts → ArgumentCounts
  | [] => [(name, count)]
  | entry :: entries =>
    if entry.1 == name then (name, count) :: entries else entry :: put name count entries

/-- The counts with others put over them. -/
def override (counts others : ArgumentCounts) : ArgumentCounts :=
  others.foldl (fun counts (name, count) => put name count counts) counts

/-- The counts that a Go file declares. A function that is declared again has the last count. -/
def ofDeclarations (source : Text) : ArgumentCounts :=
  override [] ((Declaration.allFrom true source).map fun d => (d.target, (countParameters d.params : Int)))

end ArgumentCounts

end AsmBridge
