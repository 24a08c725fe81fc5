import AsmBridge.Frame.Basic

/-!
# Places of stack arguments

The compiled function reads a stack argument at an offset from its frame pointer. Here the offset
from the new stack pointer is computed, by one of two rules.
-/

namespace AsmBridge

/-- The number of arguments that are passed in registers. -/
def registerCount : Nat := 6

/-- Where the stack arguments are after the entry sequence. -/
inductive Layout
  /-- The entry sequence copied them below the rounded frame. -/
  | copied (args : StackArgs)
  /-- They are where the caller put them. -/
  | caller (args : StackArgs)
  deriving Repr, DecidableEq

namespace Layout

/-- Arguments are copied where the stack pointer is rounded, which loses the way to the caller's
arguments, and the base pointer is taken by the table. -/
def select (args : StackArgs) (realigned tablePresent : Bool) : Layout :=
  if realigned && tablePresent then copied args else caller args

/-- The offset from the new stack pointer of what was at `offset` from the old frame pointer. Between
the copies and the frame lies one slot with the saved stack pointer; the caller's arguments follow
the return address and the slots of the arguments that the compiled function has in registers. -/
def resolve : Layout → Int → Int
  | copied args, offset => offset - (args.number + 1 + args.offsetToFirst.fdiv slotSize) * slotSize
  | caller args, offset => offset - args.offsetToFirst + slotSize + slotSize * registerCount

end Layout

end AsmBridge
