import AsmBridge.Frame.Instruction
import AsmBridge.Frame.Layout
import AsmBridge.Table

/-!
# Entry and exit sequences

The compiler's own entry and exit sequences are replaced. The new entry sequence takes the arguments
from the stack, points the base register at the constants and reserves the frame; the exit sequence
gives the frame back.
-/

namespace AsmBridge

/-- The white space in front of a generated instruction. -/
def indentation : Text := "    ".toList

/-- A line of an entry or exit sequence. -/
inductive Item
  /-- The directive that starts a function. -/
  | header (name : Text)
  | blank
  | code (instruction : Instruction)
  deriving Repr, DecidableEq

/-- The text of a line. -/
def Item.render : Item → Text
  | header name => "TEXT ·_".toList ++ name ++ "(SB), 7, $0".toList
  | blank => []
  | code instruction => indentation ++ instruction.render

namespace Frame

/-! ## Entry -/

/-- Computes the rounded frame in the base register and saves the stack pointer right below it. -/
def saveStackPointer (f : Frame) : List Instruction :=
  [.copy .sp .bp, .and f.mask .bp, .sub f.size .bp, .store .sp (-8) .bp]

/-- Copies the stack arguments, the last one first, to below the saved stack pointer. -/
def copyArguments (count : Nat) : List Instruction :=
  (List.range' registerCount (count - registerCount)).reverse.flatMap fun index =>
    [.loadArgument index .scratch,
      .store .scratch (-8 - ((count - index : Nat) : Int) * slotSize) .bp]

/-- Loads the first arguments into their registers. -/
def loadArguments (count : Nat) : List Instruction :=
  (Register.arguments.take count).zipIdx.map fun (register, index) => .loadArgument index register

/-- Reserves the frame. -/
def reserve (f : Frame) : List Instruction :=
  if f.realigned then [.and f.mask .sp, .sub f.size .sp]
  else if f.size ≠ 0 then [.sub f.size .sp]
  else []

/-- Points the base register at the table, or else at the caller's arguments where rounding the
stack pointer would lose them. -/
def anchor (f : Frame) (table : Table) : List Item :=
  if table.isPresent then [.blank, .code (.loadTable table.name .bp), .blank]
  else if f.realigned then [.blank, .code (.copy .sp .bp), .blank]
  else []

/-- The entry sequence of a function with `count` arguments. -/
def enter (f : Frame) (name : Text) (count : Nat) (table : Table) : List Item :=
  [.header name, .blank] ++
    (if f.realigned then f.saveStackPointer.map .code else []) ++
    (if f.realigned && table.isPresent then (copyArguments count).map .code else []) ++
    (loadArguments count).map .code ++
    f.anchor table ++
    f.reserve.map .code

/-! ## Exit -/

/-- Gives the frame back. -/
def release (f : Frame) : List Instruction :=
  if f.realigned then [.load (-8) .sp .sp]
  else if f.size ≠ 0 then [.add f.size .sp]
  else []

/-- Clears what has to be cleared and returns. -/
def finish (f : Frame) : List Instruction :=
  if f.clearsUpper then [.clearUpper, .ret] else [.ret]

/-- The exit sequence. -/
def leave (f : Frame) : List Item :=
  (f.release ++ f.finish).map .code

end Frame

/-- The lines of the entry sequence. -/
def prologueLines (f : Frame) (name : Text) (count : Nat) (table : Table) : List Text :=
  (f.enter name count table).map Item.render

/-- The lines of the exit sequence. -/
def epilogueLines (f : Frame) : List Text :=
  f.leave.map Item.render

end AsmBridge
