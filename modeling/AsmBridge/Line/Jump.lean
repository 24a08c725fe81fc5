import AsmBridge.Line.BlockLabel
import AsmBridge.Text.Blank
import AsmBridge.Text.LetterCase
import AsmBridge.Text.WordChar

/-!
# Jumps

A jump to a block is an instruction that starts with `j` and names a block. Its mnemonic becomes
upper case and the block loses its dot.
-/

namespace AsmBridge

/-- A jump to a block, in the words of the listing. -/
structure Jump where
  indent : Text
  mnemonic : Text
  target : Text
  deriving Repr, DecidableEq

namespace Jump

/-- Splits a word before the last place, but its end, where the name of a block starts in it. -/
def splitAtBlock : Text → Option (Text × Text)
  | [] => none
  | c :: r =>
    match splitAtBlock r with
    | some (head, tail) => some (c :: head, tail)
    | none => if blockOpening.isPrefixOf (c :: r) then some ([], c :: r) else none

/-- The jump of a line. White space may be missing between mnemonic and block. -/
def ofLine? (line : Text) : Option Jump :=
  match line.trimStart with
  | 'j' :: r =>
    let word := r.takeWhile isWordChar
    let rest := r.dropWhile isWordChar
    if startsBlock (Text.trimStart rest) then
      some { indent := line.indent, mnemonic := 'j' :: word
             target := Text.firstLine (Text.trimStart rest) }
    else
      (splitAtBlock word).map fun (head, tail) =>
        { indent := line.indent, mnemonic := 'j' :: head, target := Text.firstLine (tail ++ rest) }
  | _ => none

/-- The mnemonic in upper case. -/
def instruction (j : Jump) : Text :=
  j.mnemonic.toUpper

/-- The block that the jump goes to. -/
def label (j : Jump) : Text :=
  dropDot j.target

/-- The line of a jump. -/
def render (j : Jump) : Text :=
  j.indent ++ j.instruction ++ " ".toList ++ j.label

end Jump

/-- Respells a jump to a block; any other line stays. -/
def respellJump (line : Text) : Text :=
  match Jump.ofLine? line with
  | some jump => jump.render
  | none => line

end AsmBridge
