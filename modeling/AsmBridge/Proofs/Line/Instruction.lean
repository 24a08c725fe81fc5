import AsmBridge.Line.Conversion
import AsmBridge.Proofs.Code.Intel

/-!
# Instructions of a listing

An instruction line as the compiler writes it, and the instruction that the assembler is to be given for it. A
line is made of its parts, and each part comes with what keeps it apart from what conversion looks for.
-/

namespace AsmBridge

/-! ## Texts without a second meaning -/

/-- The texts that conversion looks for in a line. -/
def keywords : List Text :=
  ["ptr".toList, "xmmword".toList, "ymmword".toList, "shr".toList, "sar".toList, "movabs".toList, "#".toList,
    "/*".toList, "*/".toList, ".align".toList]

/-- A piece of one line with no keyword and no bracket in it. -/
structure Text.IsPlain (t : Text) : Prop where
  keywords : ∀ word ∈ keywords, ¬ word <:+: t
  opening : '[' ∉ t
  closing : ']' ∉ t
  oneLine : '\n' ∉ t

/-! ## Mnemonics -/

/-- Whether a text is a small letter with small letters and digits behind it. -/
def isMnemonic : Text → Bool
  | [] => false
  | c :: r => c.isLower && r.all fun d => d.isLower || d.isDigit

/-- The mnemonics that conversion looks for. -/
def respelledMnemonics : List Text :=
  ["shr".toList, "sar".toList, "movabs".toList]

/-- The mnemonic of an instruction that is no call. -/
structure Mnemonic where
  text : Text
  form : isMnemonic text
  notCall : ¬ callMnemonic <+: text
  notSize : text ∉ pointerSizes
  plain : text ∈ respelledMnemonics ∨ ∀ word ∈ keywords, ¬ word <:+: text

/-- The mnemonic that the assembler knows. -/
def Mnemonic.meant (m : Mnemonic) : Text :=
  if m.text = "movabs".toList then "mov".toList else m.text

/-- Whether the mnemonic is that of a shift whose count may be missing. -/
def Mnemonic.IsShift (m : Mnemonic) : Prop :=
  m.text = "shr".toList ∨ m.text = "sar".toList

instance (m : Mnemonic) : Decidable m.IsShift :=
  inferInstanceAs (Decidable (_ ∨ _))

/-! ## Memory operands -/

/-- The size of a memory operand. -/
inductive OperandSize
  | byte
  | word
  | dword
  | qword
  | xmmword
  | ymmword
  deriving Repr, DecidableEq

namespace OperandSize

/-- The word for a size. -/
def text : OperandSize → Text
  | byte => "byte".toList
  | word => "word".toList
  | dword => "dword".toList
  | qword => "qword".toList
  | xmmword => "xmmword".toList
  | ymmword => "ymmword".toList

/-- Whether the register operand says the size already. -/
def isVector : OperandSize → Bool
  | xmmword | ymmword => true
  | byte | word | dword | qword => false

end OperandSize

/-- A memory operand: what stands between the brackets, and the size in front of them, if one is written. -/
structure MemoryOperand where
  size : Option OperandSize
  address : Text
  plain : address.IsPlain

namespace MemoryOperand

/-- A size marker. -/
def marker (size : OperandSize) : Text :=
  size.text ++ " ptr ".toList

/-- The operand in the words of the listing. -/
def render (o : MemoryOperand) : Text :=
  o.size.elim [] marker ++ '[' :: (o.address ++ [']'])

/-- The marker that the assembler needs. -/
def meantMarker (o : MemoryOperand) : Text :=
  match o.size with
  | none => []
  | some size => if size.isVector then [] else marker size

/-- The address that is meant by what stands between brackets: that of a constant counts from the base of the
table, that of a stack argument from the new stack pointer. -/
def meantAddress (table : Table) (layout : Layout) (address : Text) : Text :=
  match address.after? "rip + ".toList, address.after? "rbp + ".toList with
  | some symbol, _ =>
    match if table.isPresent then table.lookup? symbol.trim else none with
    | some label => displaced "rbp".toList label.offset
    | none => address
  | none, some digits =>
    if digits ≠ [] ∧ digits.all Char.isDigit then displaced "rsp".toList (layout.resolve (Decimal.value digits))
    else address
  | none, none => address

/-- The operand that the assembler is to be given. -/
def meant (table : Table) (layout : Layout) (o : MemoryOperand) : Text :=
  o.meantMarker ++ '[' :: (meantAddress table layout o.address ++ [']'])

/-- Whether the operand can follow `operands`, which are the white space after the mnemonic and the operands
before this one. White space or a comma stands in front of it. -/
structure Follows (o : MemoryOperand) (operands : Text) : Prop where
  nonempty : operands ≠ []
  apart : ∀ c ∈ operands.getLast?, isBlank c ∨ c = ','
  /-- No size without `ptr` stands in front of it. -/
  unsized : ∀ size ∈ pointerSizes, ¬ size <:+ operands.trimEnd

end MemoryOperand

/-! ## Lines -/

/-- A line with an instruction that is neither a call nor a jump to a block, and whose only memory operand, if
there is one, is the last operand. -/
structure InstructionLine where
  indent : Text
  mnemonic : Mnemonic
  /-- The white space after the mnemonic, and the operands before the memory operand with what separates it. -/
  operands : Text
  memory : Option MemoryOperand
  /-- The white space at the end of the line. -/
  trailing : Text
  indent_blank : ∀ c ∈ indent, isBlank c
  trailing_blank : ∀ c ∈ trailing, isBlank c
  gap : ∀ c ∈ operands.head?, isBlank c
  plain : operands.IsPlain
  notJump : mnemonic.text.head? = some 'j' →
    startsBlock (operands ++ memory.elim [] MemoryOperand.render).trimStart = false
  ends : memory = none → ∀ c ∈ operands.getLast?, isBlank c = false
  follows : ∀ o ∈ memory, o.Follows operands
  /-- The one operand of a shift is a register. -/
  shift : mnemonic.IsShift → memory.isSome → ',' ∈ operands

namespace InstructionLine

/-- The instruction without the white space around it. -/
def text (l : InstructionLine) : Text :=
  l.mnemonic.text ++ (l.operands ++ l.memory.elim [] MemoryOperand.render)

/-- The line in the words of the listing. -/
def render (l : InstructionLine) : Text :=
  l.indent ++ (l.text ++ l.trailing)

/-- The count of a shift that leaves it out. -/
def impliedCount (l : InstructionLine) : Text :=
  if l.mnemonic.IsShift ∧ ',' ∉ l.operands then ", 1".toList else []

/-- The instruction that the assembler is to be given. -/
def meant (table : Table) (layout : Layout) (l : InstructionLine) : Text :=
  l.mnemonic.meant ++ (l.operands ++ l.memory.elim l.impliedCount (MemoryOperand.meant table layout))

end InstructionLine

/-! ## Lines with a constant -/

/-- A line whose only bracketed operand reads a constant, with other operands behind it or not. -/
structure ConstantLine where
  before : Text
  symbol : Text
  after : Text
  opening : ∀ t ∈ [before, symbol, after], '[' ∉ t
  closing : ∀ t ∈ [before, symbol, after], ']' ∉ t
  uncommented : ∀ t ∈ [before, symbol, after], ¬ "/*".toList <:+: t
  oneLine : ∀ t ∈ [before, symbol, after], '\n' ∉ t

namespace ConstantLine

/-- The line in the words of the listing. -/
def render (l : ConstantLine) : Text :=
  l.before ++ (ripOpening ++ (l.symbol ++ ']' :: l.after))

/-- The line up to the end of its operand, which counts from the base of the table. -/
def moved (l : ConstantLine) (offset : Int) : Text :=
  l.before ++ (Decimal.ofInt offset ++ "[rbp]".toList)

/-- What is not read as part of the comment that `symbol` and `after` are put into. -/
def outside (l : ConstantLine) : Text :=
  match (l.symbol ++ ']' :: l.after).cut? "*/".toList with
  | some (_, rest) => rest ++ " */".toList
  | none => []

end ConstantLine

end AsmBridge
