/-!
# Text

Lines, names and file contents are lists of characters. This module holds the operations on them that
need no character classes: searching, cutting at a mark, and the first line of a text.
-/

namespace AsmBridge

/-- A text is the list of its characters. -/
abbrev Text := List Char

/-- A set of characters, as closed ranges of code points in ascending order. -/
abbrev CharSet := List (Nat × Nat)

/-- Whether a character lies in one of the ranges. -/
def CharSet.has (s : CharSet) (c : Char) : Bool :=
  s.any fun range => range.1 ≤ c.toNat && c.toNat ≤ range.2

namespace Text

/-! ## Searching -/

/-- What follows `mark` where the text starts with it. -/
def after? (t mark : Text) : Option Text :=
  if mark.isPrefixOf t then some (t.drop mark.length) else none

theorem length_of_after? {t mark rest : Text} (h : t.after? mark = some rest) :
    rest.length ≤ t.length := by
  unfold after? at h
  split at h
  · simp only [Option.some.injEq] at h
    rw [← h, List.length_drop]
    omega
  · simp at h

theorem length_dropWhile_le (t : Text) (p : Char → Bool) : (t.dropWhile p).length ≤ t.length :=
  (List.dropWhile_suffix p).length_le

/-- The text before and after the first occurrence of `mark`. -/
def cut? : Text → Text → Option (Text × Text)
  | [], mark => if mark.isEmpty then some ([], []) else none
  | c :: r, mark =>
    match after? (c :: r) mark with
    | some rest => some ([], rest)
    | none => (cut? r mark).map fun (head, tail) => (c :: head, tail)

/-- Whether `part` occurs in the text. -/
def includes (t part : Text) : Bool :=
  (t.cut? part).isSome

/-- The first answer of `f` on the text, on the text less its first character, and so on. -/
def search {α : Type} (f : Text → Option α) : Text → Option α
  | [] => none
  | c :: r =>
    match f (c :: r) with
    | some a => some a
    | none => search f r

/-! ## Lines -/

/-- The text up to its first line feed. -/
def firstLine (t : Text) : Text :=
  t.takeWhile (· != '\n')

/-- Whether nothing follows the first line but a line feed that ends it. -/
def isOneLine (t : Text) : Bool :=
  match t.dropWhile (· != '\n') with
  | [] => true
  | [_] => true
  | _ :: _ :: _ => false

end Text

end AsmBridge
