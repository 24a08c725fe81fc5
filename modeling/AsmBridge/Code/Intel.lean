import AsmBridge.Number.Decimal
import AsmBridge.Text.Blank
import AsmBridge.Text.DecimalDigit
import AsmBridge.Text.WordChar

/-!
# Intel syntax

An assembler reads an instruction in Intel syntax. What respelling did to a disabled instruction is
undone: comments go, an offset moves back into the brackets, and size markers get their `ptr` back.
-/

namespace AsmBridge

/-! ## Comments -/

/-- What follows the end of a comment that is open, if it ends on this line. -/
def afterComment? : Text → Option Text
  | [] => none
  | '*' :: '/' :: r => some r
  | '\n' :: _ => none
  | _ :: r => afterComment? r

/-- What follows a comment that starts the text, after white space or not. -/
def skipComment? (t : Text) : Option Text :=
  match t.trimStart with
  | '/' :: '*' :: r => afterComment? r
  | _ => none

theorem length_of_afterComment? {t rest : Text} (h : afterComment? t = some rest) :
    rest.length ≤ t.length := by
  fun_induction afterComment? t with
  | case1 => simp at h
  | case2 r =>
    simp only [Option.some.injEq] at h
    subst h
    simp only [List.length_cons]
    omega
  | case3 => simp at h
  | case4 c r _ _ ih =>
    have := ih h
    simp only [List.length_cons]
    omega

theorem length_of_skipComment? {t rest : Text} (h : skipComment? t = some rest) :
    rest.length < t.length := by
  unfold skipComment? at h
  split at h
  · rename_i r hr
    have h1 := length_of_afterComment? h
    have h2 : t.trimStart.length ≤ t.length := Text.length_dropWhile_le t isBlank
    rw [hr] at h2
    simp only [List.length_cons] at h2
    omega
  · simp at h

/-- The text without its comments and the white space before them. -/
def dropComments (t : Text) : Text :=
  match t with
  | [] => []
  | c :: r =>
    match _h : skipComment? (c :: r) with
    | some rest => dropComments rest
    | none => c :: dropComments r
termination_by t.length
decreasing_by
  · exact length_of_skipComment? ‹_›
  · simp

/-! ## Offsets -/

/-- An offset in front of a base in brackets. -/
structure Displacement where
  negative : Bool
  digits : Text
  base : Text
  deriving Repr, DecidableEq

namespace Displacement

/-- An offset without sign in front of a base in brackets at the start of a text, and what follows. -/
def unsigned? (negative : Bool) (t : Text) : Option (Displacement × Text) :=
  match t.takeWhile isDecimalDigit, t.dropWhile isDecimalDigit with
  | d :: ds, '[' :: r =>
    match r.takeWhile isWordChar, r.dropWhile isWordChar with
    | c :: base, ']' :: rest =>
      some ({ negative := negative, digits := d :: ds, base := c :: base }, rest)
    | _, _ => none
  | _, _ => none

/-- An offset in front of a base in brackets at the start of a text, and what follows. -/
def parse? : Text → Option (Displacement × Text)
  | '-' :: t => unsigned? true t
  | t => unsigned? false t

theorem length_of_unsigned? {negative : Bool} {t rest : Text} {d : Displacement}
    (h : unsigned? negative t = some (d, rest)) : rest.length < t.length := by
  unfold unsigned? at h
  split at h
  · rename_i r _ hr
    split at h
    · rename_i hrest
      simp only [Option.some.injEq, Prod.mk.injEq] at h
      have h1 := Text.length_dropWhile_le t isDecimalDigit
      have h2 := Text.length_dropWhile_le r isWordChar
      rw [hr, List.length_cons] at h1
      rw [hrest, h.2, List.length_cons] at h2
      omega
    · simp at h
  · simp at h

theorem length_of_parse? {t rest : Text} {d : Displacement} (h : parse? t = some (d, rest)) :
    rest.length < t.length := by
  unfold parse? at h
  split at h
  · have := length_of_unsigned? h
    simp only [List.length_cons]
    omega
  · exact length_of_unsigned? h

/-- The base with the offset after it, in brackets. A zero counts as positive. -/
def render (d : Displacement) : Except Fault Text := do
  let n ← Decimal.read d.digits
  let sign := if d.negative && n ≠ 0 then " - ".toList else " + ".toList
  return "[".toList ++ d.base ++ sign ++ Decimal.ofNat n ++ "]".toList

end Displacement

/-- Moves the offsets of a text into the brackets. -/
def insertOffsets (t : Text) : Except Fault Text :=
  match t with
  | [] => .ok []
  | c :: r =>
    match _h : Displacement.parse? (c :: r) with
    | some (d, rest) => do
      let operand ← d.render
      let after ← insertOffsets rest
      return operand ++ after
    | none => (insertOffsets r).map (c :: ·)
termination_by t.length
decreasing_by
  · exact Displacement.length_of_parse? ‹_›
  · simp

/-! ## Sizes -/

/-- The size markers that the assembler wants `ptr` after. -/
def pointerSizes : List Text :=
  ["byte".toList, "word".toList, "dword".toList, "qword".toList]

/-- The size marker at the start of a text, and what follows a bracket that comes after the marker and
white space. -/
def sizeBeforeBracket? (t : Text) : Option (Text × Text) :=
  pointerSizes.findSome? fun size =>
    match t.after? size with
    | some (c :: r) =>
      if isBlank c then
        match Text.trimStart r with
        | '[' :: rest => some (size, rest)
        | _ => none
      else none
    | _ => none

theorem length_of_sizeBeforeBracket? {t size rest : Text}
    (h : sizeBeforeBracket? t = some (size, rest)) : rest.length < t.length := by
  obtain ⟨s, _, hs⟩ := List.exists_of_findSome?_eq_some h
  split at hs
  · rename_i c r hafter
    split at hs
    · split at hs
      · rename_i tail htail
        simp only [Option.some.injEq, Prod.mk.injEq] at hs
        have h1 := Text.length_of_after? hafter
        have h2 : (Text.trimStart r).length ≤ r.length := Text.length_dropWhile_le r isBlank
        rw [htail, hs.2] at h2
        simp only [List.length_cons] at h1 h2
        omega
      · simp at hs
    · simp at hs
  · simp at hs

/-- The size marker at the start of a text, if no word runs up to it. -/
def sizeAt? (afterWord : Bool) (t : Text) : Option (Text × Text) :=
  if afterWord then none else sizeBeforeBracket? t

theorem length_of_sizeAt? {afterWord : Bool} {t size rest : Text}
    (h : sizeAt? afterWord t = some (size, rest)) : rest.length < t.length := by
  unfold sizeAt? at h
  split at h
  · simp at h
  · exact length_of_sizeBeforeBracket? h

/-- Puts `ptr` between size markers and brackets, where `afterWord` tells whether a word runs up to the
text. -/
def insertPointers (afterWord : Bool) (t : Text) : Text :=
  match t with
  | [] => []
  | c :: r =>
    match _h : sizeAt? afterWord (c :: r) with
    | some (size, rest) => size ++ " ptr [".toList ++ insertPointers false rest
    | none => c :: insertPointers (isWordChar c) r
termination_by t.length
decreasing_by
  · exact length_of_sizeAt? ‹_›
  · simp

/-- An instruction in Intel syntax. -/
def toIntel (t : Text) : Except Fault Text :=
  (insertOffsets (dropComments t)).map fun t => (insertPointers false t).trim

end AsmBridge
