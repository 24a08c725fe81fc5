import AsmBridge.Frame.Basic
import AsmBridge.Number.Decimal

/-!
# Instructions of the entry and exit sequences

The few instructions that enter and leave a function, and their text in Go assembler.
-/

namespace AsmBridge

/-- The registers that the sequences use. -/
inductive Register
  | sp
  | bp
  | di
  | si
  | dx
  | cx
  | r8
  | r9
  deriving Repr, DecidableEq

namespace Register

/-- The name of a register. -/
def render : Register → Text
  | sp => "SP".toList
  | bp => "BP".toList
  | di => "DI".toList
  | si => "SI".toList
  | dx => "DX".toList
  | cx => "CX".toList
  | r8 => "R8".toList
  | r9 => "R9".toList

/-- The registers of the first arguments, in order. -/
def arguments : List Register := [di, si, dx, cx, r8, r9]

/-- The register through which stack arguments are copied. -/
def scratch : Register := di

end Register

/-- An instruction of an entry or exit sequence. -/
inductive Instruction
  /-- `target` becomes `source`. -/
  | copy (source target : Register)
  /-- The word at `offset` from `base` becomes `source`. -/
  | store (source : Register) (offset : Int) (base : Register)
  /-- `target` becomes the word at `offset` from `base`. -/
  | load (offset : Int) (base target : Register)
  /-- `target` becomes the caller's argument number `index`, counted from zero. -/
  | loadArgument (index : Nat) (target : Register)
  /-- `target` becomes the address of a table. -/
  | loadTable (symbol : Text) (target : Register)
  /-- `target` keeps the bits of `mask`. -/
  | and (mask : Int) (target : Register)
  /-- `target` loses `amount`. -/
  | sub (amount : Int) (target : Register)
  /-- `target` gains `amount`. -/
  | add (amount : Int) (target : Register)
  /-- The upper halves of the vector registers become zero. -/
  | clearUpper
  /-- Control goes back to the caller. -/
  | ret
  deriving Repr, DecidableEq

namespace Instruction

/-- A word at an offset from a register. -/
def word (offset : Int) (base : Register) : Text :=
  Decimal.ofInt offset ++ "(".toList ++ base.render ++ ")".toList

/-- The caller's argument number `index`, counted from zero. -/
def argument (index : Nat) : Text :=
  "arg".toList ++ Decimal.ofNat (index + 1) ++ "+".toList ++ Decimal.ofNat (index * slotSize) ++
    "(FP)".toList

/-- An immediate value. -/
def immediate (value : Int) : Text :=
  '$' :: Decimal.ofInt value

/-- A mnemonic with two operands, the target last. -/
def binary (mnemonic source target : Text) : Text :=
  mnemonic ++ " ".toList ++ source ++ ", ".toList ++ target

/-- The text of an instruction. -/
def render : Instruction → Text
  | copy source target => binary "MOVQ".toList source.render target.render
  | store source offset base => binary "MOVQ".toList source.render (word offset base)
  | load offset base target => binary "MOVQ".toList (word offset base) target.render
  | loadArgument index target => binary "MOVQ".toList (argument index) target.render
  | loadTable symbol target => binary "LEAQ".toList (symbol ++ "<>(SB)".toList) target.render
  | and mask target => binary "ANDQ".toList (immediate mask) target.render
  | sub amount target => binary "SUBQ".toList (immediate amount) target.render
  | add amount target => binary "ADDQ".toList (immediate amount) target.render
  | clearUpper => "VZEROUPPER".toList
  | ret => "RET".toList

end Instruction

end AsmBridge
