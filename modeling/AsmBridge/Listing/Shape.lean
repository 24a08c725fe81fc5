import AsmBridge.Frame.Basic
import AsmBridge.Listing.Function
import AsmBridge.Listing.Normal
import AsmBridge.Number.Decimal

/-!
# Shape of a function

The compiler's entry sequence tells how the function's frame is made, and its exit sequence is where
the function returns. Both are recognised by the normal form of their instructions.
-/

namespace AsmBridge

/-! ## Body -/

/-- Whether a text without white space at its ends starts with a local label. -/
def opensLocalLabel (t : Text) : Bool :=
  match withoutDot t with
  | 'L' :: r => (leadingSymbol r).2.head? == some ':'
  | _ => false

/-- Whether a line without comment is a directive. -/
def isDirective (line : Text) : Bool :=
  line.trim.head? == some '.' && !opensLocalLabel line.trim

/-- Whether a line holds an instruction or a label. -/
def holdsCode (line : Text) : Bool :=
  let text := stripComment line
  !text.trim.isEmpty && !isDirective text

/-- The lines that hold instructions and labels. -/
def bodyLines (lines : List Text) : List Text :=
  lines.filter holdsCode

/-! ## Instructions of the entry sequence -/

/-- Whether a text is a decimal number. -/
def isNumber (t : Text) : Bool :=
  !t.isEmpty && t.all isDecimalDigit

/-- Whether a text is a decimal number, after a minus sign or not. -/
def isSignedNumber : Text → Bool
  | '-' :: t => isNumber t
  | t => isNumber t

/-- Whether a text names a 64-bit register. -/
def isRegisterName : Text → Bool
  | 'r' :: c :: r => (c :: r).all isWordChar
  | _ => false

/-- Whether `opening` starts a text and `rest` holds of what follows. -/
def opensWith (opening : Text) (rest : Text → Bool) (t : Text) : Bool :=
  (t.after? opening).any rest

/-- An instruction of the entry sequence. -/
inductive EntryForm
  | pushFramePointer
  | setFramePointer
  | pushRegister
  /-- The stack pointer keeps the bits of a mask. -/
  | round (mask : Text)
  /-- The stack pointer loses a size. -/
  | reserve (size : Text)
  deriving Repr, DecidableEq

namespace EntryForm

/-- The instruction with a normal form. -/
def ofText? (t : Text) : Option EntryForm :=
  if t == "push rbp".toList then some pushFramePointer
  else if t == "mov rbp, rsp".toList then some setFramePointer
  else if opensWith "push ".toList isRegisterName t then some pushRegister
  else
    match t.after? "and rsp, ".toList, t.after? "sub rsp, ".toList with
    | some mask, _ => if isSignedNumber mask then some (round mask) else none
    | none, some size => if isNumber size then some (reserve size) else none
    | none, none => none

/-- The instruction of a line. -/
def ofLine? (line : Text) : Option EntryForm :=
  ofText? (normalize line)

end EntryForm

/-- What the entry sequence says about the frame. -/
structure Entry where
  pushesFramePointer : Bool := false
  realigned : Bool := false
  mask : Int := 0
  size : Int := 0
  deriving Repr, DecidableEq

namespace Entry

/-- What is known after one more instruction. -/
def step (e : Entry) : EntryForm → Except Fault Entry
  | .pushFramePointer => .ok { e with pushesFramePointer := true }
  | .setFramePointer | .pushRegister => .ok e
  | .round mask =>
    (Decimal.readSigned mask).map fun value => { e with realigned := true, mask := value }
  | .reserve size => (Decimal.read size).map fun value => { e with size := (value : Int) }

/-- What an entry sequence says. -/
def ofForms (forms : List EntryForm) : Except Fault Entry :=
  forms.foldlM step {}

/-- The offset from the frame pointer of the first stack argument, which follows the return address
and the saved frame pointer, if there is one. -/
def offsetToFirst (e : Entry) : Int :=
  if e.pushesFramePointer then 2 * slotSize else slotSize

end Entry

/-! ## Instructions of the exit sequence -/

/-- Whether a line returns. -/
def isReturn (line : Text) : Bool :=
  let t := normalize line
  t == "ret".toList || t == "retq".toList

/-- Whether a line clears the upper halves of the vector registers. -/
def clearsUpper (line : Text) : Bool :=
  normalize line == "vzeroupper".toList

/-- Whether a text is a decimal number before a bracket. -/
def isNumberInBracket (t : Text) : Bool :=
  let digits := t.takeWhile isDecimalDigit
  !digits.isEmpty && t.dropWhile isDecimalDigit == "]".toList

/-- Whether a line may stand before the return in the exit sequence. -/
def isExitForm (line : Text) : Bool :=
  let t := normalize line
  t == "vzeroupper".toList || opensWith "pop ".toList isRegisterName t ||
    t == "mov rsp, rbp".toList || opensWith "lea rsp, [rbp - ".toList isNumberInBracket t ||
    opensWith "add rsp, ".toList isNumber t

/-- The positions of the lines that return. -/
def returnPositions (body : List Text) : List Nat :=
  (body.zipIdx.filter fun (line, _) => isReturn line).map (·.2)

/-- The number of lines of the exit sequence before the return at `position`. -/
def exitLength (body : List Text) (position : Nat) : Nat :=
  ((body.take position).reverse.takeWhile isExitForm).length

/-! ## Shape -/

/-- The body of a function without its entry sequence, its exit sequence, and the offset from the
frame pointer of its first stack argument. -/
structure Shape where
  body : List Text
  epilogue : Epilogue
  offsetToFirst : Int
  deriving Repr, DecidableEq

namespace Shape

/-- The shape of a function with the entry sequence `entry`, which returns at `position`. -/
def build (entry : Entry) (body : List Text) (position : Nat) : Shape :=
  let start := position - exitLength body position
  let frame : Frame :=
    { realigned := entry.realigned, mask := entry.mask, size := entry.size
      clearsUpper := ((body.take (position + 1)).drop start).any clearsUpper }
  { body := body
    epilogue := { start := start, stop := position + 1, frame := frame }
    offsetToFirst := entry.offsetToFirst }

/-- The shape of a function, which has to return exactly once. -/
def ofFunction (f : Function) : Except Fault Shape := do
  let lines := bodyLines f.lines
  let isEntry := fun line => (EntryForm.ofLine? line).isSome
  let entry ← Entry.ofForms ((lines.takeWhile isEntry).filterMap EntryForm.ofLine?)
  let body := lines.dropWhile isEntry
  match returnPositions body with
  | [] => throw (.noReturn f.name)
  | [position] => return build entry body position
  | positions => throw (.severalReturns f.name positions.length)

end Shape

end AsmBridge
