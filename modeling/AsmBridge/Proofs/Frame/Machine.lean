import AsmBridge.Frame.Sequence
import Mathlib.Algebra.Group.Int.Defs
import Mathlib.Algebra.Group.Nat.Defs

/-!
# The machine of the entry and exit sequences

The lines of an entry or exit sequence are instructions of Go assembler for a machine with words of 64
bits. Its registers and addresses count modulo 2 ^ 64, and its memory holds one byte at each address, so
that words at close addresses overlap.
-/

namespace AsmBridge

/-- Eight bytes: the content of a register, an address, or a word of memory. -/
abbrev Quad := BitVec 64

/-! ## Memory -/

/-- The byte at each address. -/
abbrev Memory := Quad → BitVec 8

namespace Memory

/-- The number that `count` bytes from an address on stand for, the lowest byte first. -/
def number (m : Memory) : Nat → Quad → Nat
  | 0, _ => 0
  | count + 1, a => (m a).toNat + 256 * m.number count (a + 1)

/-- The word at an address. -/
def quad (m : Memory) (a : Quad) : Quad :=
  BitVec.ofNat 64 (m.number 8 a)

/-- The memory with a word put at an address. -/
def store (m : Memory) (a value : Quad) : Memory := fun b =>
  if (b - a).toNat < 8 then BitVec.ofNat 8 (value.toNat / 256 ^ (b - a).toNat) else m b

end Memory

/-- The words at two addresses have no byte in common. -/
def Apart (a b : Quad) : Prop :=
  8 ≤ (a - b).toNat ∧ 8 ≤ (b - a).toNat

/-! ## Statements -/

/-- A reference to memory. -/
inductive Reference
  /-- At an offset from a register. -/
  | offset (amount : Int) (base : Register)
  /-- At an offset from the caller's first argument. -/
  | argument (amount : Nat)
  /-- At a symbol. -/
  | symbol (name : Text)
  deriving Repr, DecidableEq

/-- What a statement can change: a register or a word of memory. -/
inductive Place
  | register (r : Register)
  | memory (reference : Reference)
  deriving Repr, DecidableEq

/-- What a statement takes its value from. -/
inductive Operand
  | immediate (value : Int)
  | place (p : Place)
  deriving Repr, DecidableEq

/-- The ways to change a place by a value. -/
inductive Operation
  | and
  | sub
  | add
  deriving Repr, DecidableEq

/-- The meaning of a line. -/
inductive Statement
  /-- An empty line, or a directive. -/
  | nothing
  /-- `target` becomes the value of `source`. -/
  | move (source : Operand) (target : Place)
  /-- `target` becomes the address of `source`. -/
  | address (source : Reference) (target : Place)
  /-- `target` is changed by the value of `source`. -/
  | change (operation : Operation) (source : Operand) (target : Place)
  /-- The upper halves of the vector registers, which hold none of the values here, become zero. -/
  | clearUpper
  /-- Control goes back to the caller. -/
  | ret
  deriving Repr, DecidableEq

/-- What an operation makes of the value of its target. -/
def Operation.apply : Operation → Quad → Quad → Quad
  | and, old, value => old &&& value
  | sub, old, value => old - value
  | add, old, value => old + value

/-- The meaning of an instruction. -/
def Instruction.statement : Instruction → Statement
  | copy source target => .move (.place (.register source)) (.register target)
  | store source offset base => .move (.place (.register source)) (.memory (.offset offset base))
  | load offset base target => .move (.place (.memory (.offset offset base))) (.register target)
  | loadArgument index target => .move (.place (.memory (.argument (index * slotSize)))) (.register target)
  | loadTable symbol target => .address (.symbol symbol) (.register target)
  | and mask target => .change .and (.immediate mask) (.register target)
  | sub amount target => .change .sub (.immediate amount) (.register target)
  | add amount target => .change .add (.immediate amount) (.register target)
  | clearUpper => .clearUpper
  | ret => .ret

/-- The meaning of a line. -/
def Item.statement : Item → Statement
  | header _ => .nothing
  | blank => .nothing
  | code instruction => instruction.statement

/-! ## Runs -/

/-- A state of the machine. -/
structure Machine where
  register : Register → Quad
  memory : Memory
  /-- The stack pointer that the function was entered with. -/
  entry : Quad
  /-- The addresses of the symbols. -/
  symbol : Text → Quad

/-- How control leaves a sequence of statements. -/
inductive Ending
  /-- Behind the last of them. -/
  | through (m : Machine)
  /-- By a return. -/
  | returned (m : Machine)

/-- The place of the caller's argument number `index`, counted from zero, in the frame of a function that
was entered with the stack pointer `s`: the arguments follow the return address. -/
def argumentAddress (s : Quad) (index : Nat) : Quad :=
  s + 8 + BitVec.ofNat 64 (index * slotSize)

namespace Machine

/-- The machine with another value in a register. -/
def set (m : Machine) (r : Register) (value : Quad) : Machine :=
  { m with register := fun q => if q = r then value else m.register q }

/-- The machine with another word at an address. -/
def put (m : Machine) (a value : Quad) : Machine :=
  { m with memory := m.memory.store a value }

section
variable (m : Machine) (r q : Register) (a value : Quad)

@[simp] theorem register_set : (m.set r value).register r = value := by simp only [set, ↓reduceIte]

theorem register_set_of_ne (h : q ≠ r) : (m.set r value).register q = m.register q := by
  simp only [set, h, ↓reduceIte]

@[simp] theorem set_set (old : Quad) : (m.set r old).set r value = m.set r value := by
  simp only [set, mk.injEq, and_true]
  funext q
  split <;> rfl

@[simp] theorem register_put : (m.put a value).register = m.register := rfl
end

/-- The address that a reference stands for. -/
def locate (m : Machine) : Reference → Quad
  | .offset amount base => m.register base + BitVec.ofInt 64 amount
  | .argument amount => m.entry + 8 + BitVec.ofNat 64 amount
  | .symbol name => m.symbol name

/-- The value in a place. -/
def fetch (m : Machine) : Place → Quad
  | .register r => m.register r
  | .memory reference => m.memory.quad (m.locate reference)

/-- The value of an operand. -/
def value (m : Machine) : Operand → Quad
  | .immediate value => BitVec.ofInt 64 value
  | .place p => m.fetch p

/-- The machine with another value in a place. -/
def assign (m : Machine) (value : Quad) : Place → Machine
  | .register r => m.set r value
  | .memory reference => m.put (m.locate reference) value

/-- What a statement does. -/
def step (m : Machine) : Statement → Ending
  | .nothing => .through m
  | .move source target => .through (m.assign (m.value source) target)
  | .address source target => .through (m.assign (m.locate source) target)
  | .change operation source target =>
    .through (m.assign (operation.apply (m.fetch target) (m.value source)) target)
  | .clearUpper => .through m
  | .ret => .returned m

/-- What statements do, one after the other up to a return. -/
def follow (m : Machine) : List Statement → Ending
  | [] => .through m
  | s :: rest =>
    match m.step s with
    | .through next => next.follow rest
    | .returned last => .returned last

theorem follow_append {m n : Machine} {first : List Statement} (h : m.follow first = .through n)
    (second : List Statement) : m.follow (first ++ second) = n.follow second := by
  induction first generalizing m with
  | nil => cases h; rfl
  | cons s first ih =>
      simp only [follow, List.cons_append] at h ⊢
      cases hs : m.step s with
      | through next => rw [hs] at h; exact ih h
      | returned last => rw [hs] at h; cases h

end Machine

end AsmBridge
