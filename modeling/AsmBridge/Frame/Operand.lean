import AsmBridge.Frame.Layout
import AsmBridge.Number.Decimal
import AsmBridge.Table
import AsmBridge.Text.Blank

/-!
# Memory operands

Operands relative to the instruction pointer become offsets from the table, which the base pointer
holds, and operands above the frame pointer become offsets from the stack pointer. The operand as it
was follows as a comment, together with the rest of the line.
-/

namespace AsmBridge

/-- How an operand relative to the instruction pointer starts. -/
def ripOpening : Text := "[rip + ".toList

/-- How an operand above the frame pointer starts. -/
def rbpOpening : Text := "[rbp + ".toList

/-- How an operand below the frame pointer starts. -/
def rbpMinusOpening : Text := "[rbp - ".toList

/-- An operand at an offset from a base register, before the operand that it replaces. -/
def rebased (offset base opening tail : Text) : Text :=
  offset ++ base ++ " /* ".toList ++ opening ++ tail ++ " */".toList

/-- A decimal number in ASCII digits at the start of a text, and what follows it. -/
def leadingDigits? (t : Text) : Option (Text × Text) :=
  match t.takeWhile Char.isDigit with
  | [] => none
  | d :: ds => some (d :: ds, t.dropWhile Char.isDigit)

/-- The digits of an operand that a text starts with, and what follows its bracket. -/
def offsetOperand? (opening t : Text) : Option (Text × Text) :=
  match t.after? opening with
  | none => none
  | some rest =>
    match leadingDigits? rest with
    | some (digits, ']' :: tail) => some (digits, tail)
    | _ => none

/-! ## Constants -/

/-- Replaces the first operand relative to the instruction pointer. -/
def resolveConstant (table : Table) (line : Text) : Except Fault Text :=
  match line.cut? ripOpening with
  | none => .ok line
  | some (head, tail) =>
    let symbol := Text.trim (tail.takeWhile (· != ']'))
    match table.lookup? symbol with
    | none => .error (.unresolved symbol)
    | some label =>
      (Decimal.write label.offset).map fun offset =>
        head ++ rebased offset "[rbp]".toList ripOpening tail

/-! ## Stack arguments -/

/-- The digits of an operand above the frame pointer that ends a line. -/
def finalArgument? (line : Text) : Option Text :=
  line.search fun t =>
    match offsetOperand? rbpOpening t with
    | some (digits, tail) => if tail.all isBlank then some digits else none
    | none => none

/-- Replaces the first operand above the frame pointer of a line that ends in one, by the place of
the stack argument that the last one names. -/
def resolveArgument (layout : Layout) (line : Text) : Except Fault Text :=
  match finalArgument? line, line.cut? rbpOpening with
  | some digits, some (head, tail) => do
    let offset ← Decimal.read digits
    let place ← Decimal.write (layout.resolve offset)
    return head ++ rebased place "[rsp]".toList rbpOpening tail
  | _, _ => .ok line

/-- Whether an operand lies below the frame pointer, where the compiled function keeps locals. -/
def accessesBelowFrame (line : Text) : Bool :=
  (line.search (offsetOperand? rbpMinusOpening)).isSome

/-- Refuses a line with an operand below the frame pointer. -/
def refuseBelowFrame (line : Text) : Except Fault Text :=
  if accessesBelowFrame line then .error (.belowFrame line) else .ok line

end AsmBridge
