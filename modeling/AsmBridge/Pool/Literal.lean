import AsmBridge.Fault
import AsmBridge.Number.Integer
import AsmBridge.Pool.Escape
import AsmBridge.Text.Blank

/-!
# Numbers in directives

A number is octal with a leading zero, a character between single quotes, or an integer with a sign,
a prefix for its base and single underscores between its digits. Decimal digits may be of any script.
-/

namespace AsmBridge

namespace Literal

/-- The value of an integer that may have a prefix for its base. -/
def integer? (t : Text) : Option Int :=
  Integer.signed? Integer.prefixed? (t.map Integer.asciiDigit)

/-- The value of two or more octal digits that start with a zero. -/
def octalMagnitude? : Text → Option Nat
  | '0' :: c :: r =>
    if (c :: r).all isOctalDigit then some (valueInBase 8 (c :: r)) else none
  | _ => none

/-- The value of an octal number, after a minus sign or not. -/
def octal? : Text → Option Int
  | '-' :: r => (octalMagnitude? r).map fun n => -(n : Int)
  | t => (octalMagnitude? t).map fun n => (n : Int)

/-- Whether a text stands between single quotes. -/
def isCharacter (t : Text) : Bool :=
  3 ≤ t.length && t.head? == some '\x27' && t.getLast? == some '\x27'

/-- The code point of a text of one character. -/
def codePoint : Text → Except Fault Int
  | [c] => .ok c.toNat
  | t => .error (.notOneCharacter t.length)

/-- The value of a trimmed number. -/
def readTrimmed (t : Text) : Except Fault Int :=
  match octal? t with
  | some n => .ok n
  | none =>
    if isCharacter t then codePoint (unquote t)
    else
      match integer? t with
      | some n => .ok n
      | none => .error (.notANumber t)

/-- The value of a number. -/
def read (t : Text) : Except Fault Int :=
  readTrimmed t.trim

end Literal

end AsmBridge
