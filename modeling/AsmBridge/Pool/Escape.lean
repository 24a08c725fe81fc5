import AsmBridge.Number.Hex

/-!
# String and character literals

A literal stands between two quotes of one kind. Inside, a backslash starts an escape: `x` with one
or two hexadecimal digits, one to three octal digits, a letter for a control character, or any other
character for itself.
-/

namespace AsmBridge

/-- The letters that stand for control characters. -/
def letterEscapes : List (Char × Char) :=
  [('n', '\n'), ('t', '\t'), ('r', '\r'), ('b', '\x08'), ('f', '\x0c')]

/-- Whether a character is a hexadecimal digit. -/
def isHexDigit (c : Char) : Bool :=
  (Hex.digitValue? c).isSome

/-- Whether a character is an octal digit. -/
def isOctalDigit (c : Char) : Bool :=
  '0' ≤ c && c ≤ '7'

/-- The value of digits in a base. -/
def valueInBase (base : Nat) (digits : Text) : Nat :=
  digits.foldl (fun n d => base * n + (Hex.digitValue? d).getD 0) 0

/-- The character that an escape stands for, whose first character after the backslash is `c`, and
what follows the escape. -/
def readEscape (c : Char) (r : Text) : Char × Text :=
  if c == 'x' then
    match (r.take 2).takeWhile isHexDigit with
    | [] => (c, r)
    | digits => (Char.ofNat (valueInBase 16 digits), r.drop digits.length)
  else if isOctalDigit c then
    let digits := (r.take 2).takeWhile isOctalDigit
    (Char.ofNat (valueInBase 8 (c :: digits)), r.drop digits.length)
  else ((letterEscapes.lookup c).getD c, r)

theorem readEscape_length (c : Char) (r : Text) : (readEscape c r).2.length ≤ r.length := by
  unfold readEscape
  split
  · split <;> simp
  · split <;> simp

/-- The text with its escapes resolved. -/
def unescape : Text → Text
  | [] => []
  | '\\' :: c :: r => (readEscape c r).1 :: unescape (readEscape c r).2
  | c :: r => c :: unescape r
termination_by t => t.length
decreasing_by
  · have := readEscape_length c r
    simp only [List.length_cons]
    omega
  · simp

/-- Whether a text has a quote at both ends. -/
def isQuoted (t : Text) : Bool :=
  2 ≤ t.length && t.head? == t.getLast? && (t.head?.any fun c => c == '\x22' || c == '\x27')

/-- The content of a literal; a text that stands between no quotes is its own content. -/
def unquote (t : Text) : Text :=
  unescape (if isQuoted t then t.tail.dropLast else t)

end AsmBridge
