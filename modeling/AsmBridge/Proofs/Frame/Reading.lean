import AsmBridge.Proofs.Frame.Machine
import AsmBridge.Text.Blank

/-!
# Reading of Go assembler

The statement that a line of Go assembler stands for. The reading knows operands and mnemonics, and
nothing of the sequences whose lines it reads.
-/

namespace AsmBridge

/-! ## Numbers -/

/-- The value of decimal digits. -/
def Decimal.digits? (t : Text) : Option Nat :=
  if t ≠ [] ∧ t.all Char.isDigit then some (Decimal.value t) else none

/-- The value of decimal digits, after a minus sign or not. -/
def Decimal.integer? : Text → Option Int
  | '-' :: t => (Decimal.digits? t).map fun n => -(n : Int)
  | t => (Decimal.digits? t).map fun n => (n : Int)

/-! ## Operands -/

/-- The text before and after the last occurrence of `mark`. -/
def Text.cutLast? (t mark : Text) : Option (Text × Text) :=
  (Text.cut? t.reverse mark.reverse).map fun (tail, head) => (head.reverse, tail.reverse)

/-- All registers. -/
def Register.all : List Register :=
  [.sp, .bp, .di, .si, .dx, .cx, .r8, .r9]

/-- The register of a name. -/
def Register.ofName? (t : Text) : Option Register :=
  Register.all.find? (·.render == t)

/-- What ends a reference to a symbol. -/
def symbolEnding : Text := "<>(SB)".toList

namespace Reference

/-- A reference `name+amount(FP)` or `amount(base)`, cut at its bracket. -/
def ofParts? (before base : Text) : Option Reference :=
  if base = "FP".toList then
    match before.cut? "+".toList with
    | some (_, amount) => (Decimal.digits? amount).map argument
    | none => none
  else
    match Decimal.integer? before, Register.ofName? base with
    | some amount, some r => some (offset amount r)
    | _, _ => none

/-- The reference of a text. -/
def read? (t : Text) : Option Reference :=
  if symbolEnding.isSuffixOf t then some (symbol (t.take (t.length - symbolEnding.length)))
  else
    match t.cut? "(".toList with
    | some (before, rest) =>
      match rest.cut? ")".toList with
      | some (base, []) => ofParts? before base
      | _ => none
    | none => none

end Reference

/-- The operand of a text. -/
def Operand.read? (t : Text) : Option Operand :=
  match Reference.read? t with
  | some reference => some (place (.memory reference))
  | none =>
    match t with
    | '$' :: number => (Decimal.integer? number).map immediate
    | _ => (Register.ofName? t).map fun r => place (.register r)

/-! ## Lines -/

namespace Statement

/-- The statement of a mnemonic with two operands, the target last. -/
def ofOperands? (mnemonic : Text) (source target : Operand) : Option Statement :=
  match source, target with
  | source, .place target =>
    if mnemonic = "MOVQ".toList then some (move source target)
    else if mnemonic = "ANDQ".toList then some (change .and source target)
    else if mnemonic = "SUBQ".toList then some (change .sub source target)
    else if mnemonic = "ADDQ".toList then some (change .add source target)
    else if mnemonic = "LEAQ".toList then
      match source with
      | .place (.memory reference) => some (address reference target)
      | _ => none
    else none
  | _, .immediate _ => none

/-- The statement of an instruction. -/
def ofInstruction? (t : Text) : Option Statement :=
  match t.cut? " ".toList with
  | none =>
    if t = "VZEROUPPER".toList then some clearUpper
    else if t = "RET".toList then some ret
    else none
  | some (mnemonic, operands) =>
    match operands.cutLast? ", ".toList with
    | some (source, target) =>
      match Operand.read? source, Operand.read? target with
      | some source, some target => ofOperands? mnemonic source target
      | _, _ => none
    | none => none

/-- The statement of a line. An empty line and the directive that starts a function do nothing. -/
def read? (line : Text) : Option Statement :=
  match line.trimStart with
  | [] => some nothing
  | t => if "TEXT ".toList.isPrefixOf t then some nothing else ofInstruction? t

end Statement

/-! ## Runs -/

namespace Machine

/-- How control leaves lines, where all of them can be read. -/
def run (m : Machine) (lines : List Text) : Option Ending :=
  (lines.mapM Statement.read?).map m.follow

/-- How control leaves the first lines of a function, which is entered with the stack pointer as it is. -/
def call (m : Machine) (lines : List Text) : Option Ending :=
  { m with entry := m.register .sp }.run lines

end Machine

end AsmBridge
