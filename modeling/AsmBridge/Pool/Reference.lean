import AsmBridge.Fault
import AsmBridge.Frame.Operand
import AsmBridge.Table

/-!
# References to constants

A line refers to a constant by an operand relative to the instruction pointer. A function needs the
labels that its lines refer to, and none besides.
-/

namespace AsmBridge

/-- The text between the opening of an operand and its bracket, and what follows the bracket. -/
def referenceAt? (t : Text) : Option (Text × Text) :=
  match t.after? ripOpening with
  | none => none
  | some rest =>
    match rest.takeWhile (· != ']'), rest.dropWhile (· != ']') with
    | c :: r, _ :: tail => some (c :: r, tail)
    | _, _ => none

theorem length_of_referenceAt? {t name tail : Text} (h : referenceAt? t = some (name, tail)) :
    tail.length < t.length := by
  unfold referenceAt? at h
  split at h
  · simp at h
  · rename_i rest hrest
    split at h
    · rename_i hdrop
      simp only [Option.some.injEq, Prod.mk.injEq] at h
      have hafter := Text.length_of_after? hrest
      have hle := Text.length_dropWhile_le rest (· != ']')
      rw [hdrop, h.2, List.length_cons] at hle
      omega
    · simp at h

/-- The symbols that a line refers to, from left to right. -/
def references (t : Text) : List Text :=
  match t with
  | [] => []
  | c :: r =>
    match _h : referenceAt? (c :: r) with
    | some (name, tail) => name.trim :: references tail
    | none => references r
termination_by t.length
decreasing_by
  · exact length_of_referenceAt? ‹_›
  · simp

/-- The table with only the labels that lines refer to. All references have to be in the table. -/
def restrictTable (table : Table) (lines : List Text) : Except Fault Table :=
  let names := lines.flatMap references
  match names.find? fun name => (table.lookup? name).isNone with
  | some name => .error (.unresolved name)
  | none => .ok (table.restrict names)

end AsmBridge
