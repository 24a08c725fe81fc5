import AsmBridge.Fault

/-!
# Frames

A function that the compiler wrote expects its first six arguments in registers and the others on
the stack. In its new home all arguments are on the stack. This module holds what is known of a
function's frame; the sequences that enter and leave it are in `Frame.Sequence`, and the places of
its stack arguments in `Frame.Layout`.
-/

namespace AsmBridge

/-- The size of an argument slot, of a saved register and of a return address. -/
def slotSize : Nat := 8

/-- The local frame that a function reserves. -/
structure Frame where
  /-- Whether the stack pointer is rounded down before the frame is reserved. -/
  realigned : Bool := false
  /-- The mask that rounds the stack pointer. -/
  mask : Int := 0
  /-- The number of bytes reserved. -/
  size : Int := 0
  /-- Whether the upper halves of the vector registers are cleared on the way out. -/
  clearsUpper : Bool := false
  deriving Repr, DecidableEq

/-- The compiler's exit sequence: the lines `start` up to `stop`, which leave `frame`. -/
structure Epilogue where
  start : Int
  stop : Int
  frame : Frame := {}
  deriving Repr, DecidableEq

namespace Epilogue

/-- Whether the exit sequence lies within `count` lines. -/
def fits (e : Epilogue) (count : Int) : Bool :=
  0 ≤ e.start && e.start ≤ e.stop && e.stop ≤ count

/-- Refuses an exit sequence that does not lie within `count` lines. -/
def check (e : Epilogue) (count : Int) : Except Fault Unit :=
  if e.fits count then .ok () else .error (.epilogueRange e.start e.stop count)

end Epilogue

/-- The arguments that the compiled function finds on the stack. -/
structure StackArgs where
  number : Nat := 0
  /-- The offset of the first of them from the compiled function's frame pointer. -/
  offsetToFirst : Int := 0
  deriving Repr, DecidableEq

/-- Stack arguments, unless their number is negative. -/
def StackArgs.ofInt (number offsetToFirst : Int) : Except Fault StackArgs :=
  if number < 0 then .error (.argumentCount number)
  else .ok { number := number.toNat, offsetToFirst := offsetToFirst }

end AsmBridge
