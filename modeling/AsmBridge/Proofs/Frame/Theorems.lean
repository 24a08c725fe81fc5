import AsmBridge.Proofs.Frame.Lemmas.Operand
import AsmBridge.Proofs.Frame.Lemmas.Slot

/-!
# Entry and exit sequences do what the function needs

The lines of the sequences are run on the machine of `Proofs.Frame.Machine`, as `Machine.call` and
`Machine.run` read them. Stated are the balance of the stack pointer, the state in which the function's
body starts, and where the body finds its stack arguments.

The lemmas are in `Lemmas/`. All of them rest on the one state that the entry sequence leaves
(`Frame.Entered` in `Lemmas/Sequence.lean`).
-/

namespace AsmBridge

/-! ## Samples -/

/-- A frame of 64 bytes at a multiple of 32. -/
def Frame.sample : Frame where
  realigned := true
  mask := -32
  size := 64
  clearsUpper := true

/-- A table with one constant. -/
def Table.sample : Table where
  name := "LCDATA1".toList
  labels := [{ name := "LCPI0_0".toList, offset := 0 }]

/-- A machine with the stack pointer 4096, where each byte of memory holds the low byte of its address. -/
def Machine.sample : Machine where
  register := fun r => if r = .sp then 4096 else 0
  memory := fun a => a.setWidth 8
  entry := 0
  symbol := fun _ => 512

theorem Frame.fits_sample : Frame.sample.Fits 8 (Machine.sample.register .sp) where
  size := by decide
  below := by decide
  above := by decide

variable (f : Frame) (name : Text) (count : Int) (table : Table) (m : Machine)

/-! ## Balance -/

/-- What a body has to keep: the stack pointer and the word below it. -/
structure Machine.KeepsFrame (m n : Machine) : Prop where
  stackPointer : n.register .sp = m.register .sp
  saved : n.memory.quad (n.register .sp - 8) = m.memory.quad (m.register .sp - 8)

/-- A stack argument that is not copied is looked for where it would be without a frame, so that it is
found if and only if the entry sequence leaves the stack pointer where it was. -/
theorem Frame.callerArgument_found_iff (args : StackArgs) {k : Nat}
    (hl : Layout.select args f.realigned table.isPresent = .caller args) (hk : registerCount ≤ k) :
    let layout := Layout.select args f.realigned table.isPresent
    ∃ m₁, m.call (prologueLines f name count.toNat table) = some (.through m₁) ∧
      (∀ n : Nat, n = args.offsetOf k → (Decimal.ofNat n).length ≤ Decimal.digitLimit →
        (Decimal.ofNat (slotSize + slotSize * k)).length ≤ Decimal.digitLimit →
        layout.Rewrites n (layout.place args k)) ∧
      m₁.register .sp + BitVec.ofInt 64 (layout.place args k) = argumentAddress (f.bottom (m.register .sp)) k ∧
      (m₁.register .sp + BitVec.ofInt 64 (layout.place args k) = argumentAddress (m.register .sp) k ↔
        if f.realigned then f.rounded (m.register .sp) = m.register .sp else (2 ^ 64 : Int) ∣ f.size) := by
  intro layout
  obtain ⟨m₁, hm, he⟩ := f.call_prologueLines count.toNat table m name
  have hp : layout.place args k = (slotSize + slotSize * k : Nat) := by
    rw [show layout = .caller args from hl]
    exact Layout.place_caller args hk
  have ha : m₁.register .sp + BitVec.ofInt 64 (layout.place args k) =
      argumentAddress (f.bottom (m.register .sp)) k := by
    rw [hp, he.stackPointer, add_ofInt_slots]
  refine ⟨m₁, hm, ?_, ha, ?_⟩
  · intro n hn hlen hlen'
    refine Layout.rewrites_place hn hlen ?_
    rw [hp]
    exact hlen'
  · rw [ha, argumentAddress_inj]
    exact bottom_eq_self_iff

/-- Without a frame the first stack argument is found. -/
theorem Frame.callerArgument_found_sample :
    let args : StackArgs := { number := 1, offsetToFirst := 16 }
    Layout.select args false false = .caller args ∧ registerCount ≤ 6 ∧
      ∃ m₁, Machine.sample.call (prologueLines {} "count".toList 7 {}) = some (.through m₁) ∧
        m₁.register .sp + 56 = argumentAddress 4096 6 := by
  intro args
  obtain ⟨m₁, hm, -, -, hi⟩ := callerArgument_found_iff {} "count".toList 7 {} .sample args (k := 6) rfl (by decide)
  exact ⟨rfl, by decide, m₁, hm, hi.mpr (Int.dvd_zero _)⟩

/-- Below a frame of 32 bytes the operand of the first stack argument does not read it, but what is 32
bytes below. -/
theorem Frame.callerArgument_missed :
    let f : Frame := { size := 32 }
    let args : StackArgs := { number := 1, offsetToFirst := 16 }
    let layout := Layout.select args f.realigned false
    layout = .caller args ∧
      ∃ m₁, Machine.sample.call (prologueLines f "count".toList 7 {}) = some (.through m₁) ∧
        m₁.register .sp + BitVec.ofInt 64 (layout.place args 6) = 4120 ∧ argumentAddress 4096 6 = 4152 := by
  intro f args layout
  obtain ⟨m₁, hm, he⟩ := f.call_prologueLines 7 {} .sample "count".toList
  refine ⟨rfl, m₁, hm, ?_, by decide⟩
  rw [he.stackPointer]
  decide

end AsmBridge
