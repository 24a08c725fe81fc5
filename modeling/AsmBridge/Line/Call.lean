import AsmBridge.Text.Blank

/-!
# Calls

The mnemonic of a call becomes upper case. Routines of the C runtime that Go code has a version of are
called by the name of that version.
-/

namespace AsmBridge

/-- The mnemonic of a call in a listing. -/
def callMnemonic : Text := "call".toList

/-- Routines of the C runtime and what is called in their place. -/
def runtimeRoutines : List (Text × Text) :=
  [("_memcpy".toList, "clib·_memcpy(SB)".toList)]

/-- What is called in place of `callee`. -/
def calleeOf (callee : Text) : Text :=
  (runtimeRoutines.lookup callee).getD callee

/-- Respells a call; any other line stays. -/
def respellCall (line : Text) : Text :=
  match line.trimStart.after? callMnemonic with
  | some callee => line.indent ++ "CALL ".toList ++ calleeOf callee.trim
  | none => line

end AsmBridge
