import AsmBridge.Text.CaseTable

/-!
# Upper and lower case

The full case mappings: one character may become several, and a capital sigma at the end of a word
is lowered to its final form.
-/

namespace AsmBridge

/-- The code point that a list of runs gives for `n`, which is `n` itself outside all runs. -/
def CaseRun.map (runs : List CaseRun) (n : Nat) : Nat :=
  match runs.find? (·.covers n) with
  | some run => (n + run.shift).toNat
  | none => n

/-- The upper case of a character. -/
def upperOf (c : Char) : Text :=
  if c.toNat < 0x80 then [c.toUpper]
  else
    match upperExpansions.lookup c.toNat with
    | some codes => codes.map Char.ofNat
    | none => [Char.ofNat (CaseRun.map CaseRun.upper c.toNat)]

/-- The lower case of a character that stands alone. -/
def lowerOf (c : Char) : Text :=
  if c.toNat < 0x80 then [c.toLower]
  else
    match lowerExpansions.lookup c.toNat with
    | some codes => codes.map Char.ofNat
    | none => [Char.ofNat (CaseRun.map CaseRun.lower c.toNat)]

/-- Whether the first character that casing does not look through has a case. -/
def startsCased (t : Text) : Bool :=
  match t.dropWhile CharSet.caseIgnorable.has with
  | [] => false
  | c :: _ => CharSet.cased.has c

namespace Text

/-- The text in upper case. -/
def toUpper (t : Text) : Text :=
  t.flatMap upperOf

/-- The text in lower case, where `before` is what precedes it, read backwards. -/
def lowerAfter (before : Text) : Text → Text
  | [] => []
  | c :: r =>
    let lowered :=
      if c == 'Σ' then [if startsCased before && !startsCased r then 'ς' else 'σ'] else lowerOf c
    lowered ++ lowerAfter (c :: before) r

/-- The text in lower case. -/
def toLower (t : Text) : Text :=
  lowerAfter [] t

end Text

end AsmBridge
