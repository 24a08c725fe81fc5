import AsmBridge.Number.Decimal
import AsmBridge.Number.Hex

/-!
# Integers as text

An integer has a sign or none, and single underscores may stand between its digits. Decimal digits may
be of any script, and there may not be more of them than `Decimal.digitLimit`.
-/

namespace AsmBridge

namespace Integer

/-- The value in a base of digits with single underscores between them, where `n` is the value of the
digits before and `gap` tells that a digit has to come next. -/
def digitsFrom (base n : Nat) (gap : Bool) : Text → Option Nat
  | [] => if gap then none else some n
  | c :: r =>
    if c == '_' then
      if gap then none else digitsFrom base n true r
    else
      match Hex.digitValue? c with
      | some d => if d < base then digitsFrom base (base * n + d) false r else none
      | none => none

/-- The value in a base of digits with single underscores between them. -/
def digits? (base : Nat) (t : Text) : Option Nat :=
  digitsFrom base 0 true t

/-- The value of decimal digits, of which there may not be too many. -/
def decimal? (t : Text) : Option Nat :=
  if Decimal.digitLimit < (t.filter (· != '_')).length then none else digits? 10 t

/-- The base that a letter after a zero stands for. -/
def base? (c : Char) : Option Nat :=
  match c.toLower with
  | 'x' => some 16
  | 'o' => some 8
  | 'b' => some 2
  | _ => none

/-- The text without an underscore at its start. -/
def dropUnderscore : Text → Text
  | '_' :: r => r
  | t => t

/-- The value of digits after a prefix for their base. Decimal digits have no prefix, and those that
start with a zero are all zeros. -/
def prefixed? : Text → Option Nat
  | '0' :: c :: r =>
    match base? c with
    | some base => digits? base (dropUnderscore r)
    | none => (decimal? ('0' :: c :: r)).filter (· == 0)
  | t => decimal? t

/-- The value of a text after a sign or none, where `magnitude?` reads what follows the sign. -/
def signed? (magnitude? : Text → Option Nat) : Text → Option Int
  | '-' :: r => (magnitude? r).map fun n => -(n : Int)
  | '+' :: r => (magnitude? r).map fun n => (n : Int)
  | t => (magnitude? t).map fun n => (n : Int)

/-- The character with a decimal digit of any script written in ASCII. -/
def asciiDigit (c : Char) : Char :=
  match digitValue? c with
  | some d => Nat.digitChar d
  | none => c

end Integer

end AsmBridge
