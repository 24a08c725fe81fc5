import AsmBridge.Text.Blank

/-!
# Operands of a directive

Commas separate the operands of a directive, and a comment ends them. Between quotes, commas and comment
marks belong to the operand, and a backslash takes the next character with it.
-/

namespace AsmBridge

/-- Whether a text is over or white space comes next. -/
def endsOrBlank : Text → Bool
  | [] => true
  | c :: _ => isBlank c

/-- Whether a comment starts a text that is the tail of a directive. -/
def opensRemark : Text → Bool
  | '#' :: '#' :: r => endsOrBlank r
  | '#' :: r => endsOrBlank r
  | _ => false

/-- Whether a character is a quote. -/
def isQuote (c : Char) : Bool :=
  c == '\x22' || c == '\x27'

/-- Puts a character in front of the first piece. -/
def pushFirst (c : Char) : List Text → List Text
  | [] => [[c]]
  | piece :: pieces => (c :: piece) :: pieces

/-- The pieces between commas, where `quote` is the quote that is open. -/
def piecesFrom (quote : Option Char) : Text → List Text
  | [] => [[]]
  | c :: r =>
    match quote with
    | some q =>
      if c == '\\' then
        match r with
        | [] => [[c]]
        | d :: r => pushFirst c (pushFirst d (piecesFrom (some q) r))
      else if c == q then pushFirst c (piecesFrom none r)
      else pushFirst c (piecesFrom (some q) r)
    | none =>
      if isQuote c then pushFirst c (piecesFrom (some c) r)
      else if c == ',' then [] :: piecesFrom none r
      else if opensRemark (c :: r) then [[]]
      else pushFirst c (piecesFrom none r)

/-- The operands of a directive: the pieces that are more than white space. -/
def splitOperands (t : Text) : List Text :=
  ((piecesFrom none t).map Text.trim).filter (!·.isEmpty)

end AsmBridge
