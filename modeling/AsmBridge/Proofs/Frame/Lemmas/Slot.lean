import AsmBridge.Proofs.Frame.Lemmas.Sequence

/-!
# The places of a frame are apart

The copied arguments lie right below the saved stack pointer, one below the other, so that none of them
hits another or the saved stack pointer. Where nothing wraps around the address space, they also miss all
that the caller has on the stack.
-/

namespace AsmBridge

variable {m : Memory} {base s a : Quad} {count index : Nat}

namespace Frame

/-! ## Slots -/

theorem slot_eq : slot base count index = base - BitVec.ofNat 64 (8 * (count - index) + 8) := by
  apply BitVec.eq_of_toNat_eq
  simp only [slot, slotSize, BitVec.toNat_add, BitVec.toNat_sub, BitVec.toNat_ofInt, BitVec.toNat_ofNat]
  omega

theorem mem_copied {k : Nat} : k ∈ copied count ↔ registerCount ≤ k ∧ k < count := by
  simp only [copied, List.mem_reverse, List.mem_range'_1, registerCount]
  omega

theorem nodup_copied (count : Nat) : (copied count).Nodup :=
  List.pairwise_reverse.mpr (List.Pairwise.imp Ne.symm List.nodup_range')

/-- The area of the copies and of the saved stack pointer does not meet itself. -/
def AreaFits (count : Nat) : Prop :=
  8 * (count - registerCount) + 16 ≤ 2 ^ 64

theorem AreaFits.saved (h : AreaFits count) {k : Nat} (hk : k ∈ copied count) :
    Apart (base - 8) (slot base count k) := by
  obtain ⟨hk, hc⟩ := mem_copied.mp hk
  rw [slot_eq]
  unfold AreaFits registerCount at *
  constructor <;> bv_omega

theorem AreaFits.slots (h : AreaFits count) {i j : Nat} (hi : i ∈ copied count) (hj : j ∈ copied count)
    (hij : i ≠ j) : Apart (slot base count i) (slot base count j) := by
  obtain ⟨hi, hic⟩ := mem_copied.mp hi
  obtain ⟨hj, hjc⟩ := mem_copied.mp hj
  rw [slot_eq, slot_eq]
  unfold AreaFits registerCount at *
  constructor <;> bv_omega

theorem AreaFits.pairwise (h : AreaFits count) :
    (copied count).Pairwise fun i j => Apart (slot base count i) (slot base count j) :=
  (nodup_copied count).imp_of_mem fun hi hj hij => h.slots hi hj hij

/-- The saved stack pointer survives the copies. -/
theorem AreaFits.quad_saved {f : Frame} (h : AreaFits count) (hr : f.realigned) (table : Table) :
    (f.enteredMemory count table s m).quad (f.rounded s - 8) = s := by
  have hs : (f.savedMemory s m).quad (f.rounded s - 8) = s := by
    simp only [savedMemory, hr, ↓reduceIte, Memory.quad_store]
  unfold enteredMemory
  split
  · rw [Memory.quad_copy_of_apart fun k hk => h.saved hk, hs]
  · exact hs

end Frame

/-! ## Places above the stack pointer -/

theorem add_ofInt_slots (a : Quad) (index : Nat) :
    a + BitVec.ofInt 64 (slotSize + slotSize * index : Nat) = argumentAddress a index := by
  rw [BitVec.ofInt_natCast, BitVec.ofNat_add, ← BitVec.add_assoc, Nat.mul_comm slotSize index]
  rfl

theorem argumentAddress_inj : argumentAddress a index = argumentAddress s index ↔ a = s := by
  simp only [argumentAddress, BitVec.add_left_inj]

theorem ofInt_eq_zero_iff {n : Int} : BitVec.ofInt 64 n = 0 ↔ (2 ^ 64 : Int) ∣ n := by
  rw [← BitVec.toNat_inj, BitVec.toNat_ofInt]
  change (n % ↑(2 ^ 64)).toNat = 0 ↔ _
  omega

/-- When the entry sequence leaves the stack pointer where it was. -/
theorem Frame.bottom_eq_self_iff {f : Frame} :
    f.bottom s = s ↔ if f.realigned then f.rounded s = s else (2 ^ 64 : Int) ∣ f.size := by
  unfold bottom
  split
  · exact Iff.rfl
  · rw [← ofInt_eq_zero_iff]
    constructor <;> intro h <;> bv_omega

/-! ## Frames that fit below the stack pointer -/

/-- The frame of a function with `count` arguments that is entered with the stack pointer `s`, the copies
below it and the arguments above it lie within the address space. -/
structure Frame.Fits (f : Frame) (count : Int) (s : Quad) : Prop where
  size : 0 ≤ f.size
  below : if f.realigned then
      0 ≤ ((s &&& BitVec.ofInt 64 f.mask).toNat : Int) - f.size - 8 * max (count - registerCount) 0 - 16
    else 0 ≤ (s.toNat : Int) - f.size
  above : (s.toNat : Int) + 8 + 8 * count < 2 ^ 64

theorem toNat_sub_ofInt {amount : Int} (h : 0 ≤ amount) (h' : amount ≤ a.toNat) :
    ((a - BitVec.ofInt 64 amount).toNat : Int) = a.toNat - amount := by
  obtain ⟨n, rfl⟩ := Int.eq_ofNat_of_zero_le h
  rw [BitVec.ofInt_natCast]
  bv_omega

/-- A word at or above the stack pointer has no byte in common with a word below a frame under it. -/
theorem apart_of_le {depth : Nat} (hb : base ≤ s) (ha : s ≤ a) (h : 8 ≤ depth) (h' : depth + 8 ≤ base.toNat) :
    Apart a (base - BitVec.ofNat 64 depth) := by
  constructor <;> bv_omega

namespace Frame.Fits

variable {f : Frame} {count : Int} {table : Table}

theorem toNat_rounded (h : f.Fits count s) (hr : f.realigned) :
    ((f.rounded s).toNat : Int) = (s &&& BitVec.ofInt 64 f.mask).toNat - f.size := by
  have hb := h.below
  simp only [hr, ↓reduceIte] at hb
  exact toNat_sub_ofInt h.size (by omega)

theorem rounded_le (h : f.Fits count s) (hr : f.realigned) : f.rounded s ≤ s := by
  have hm : (s &&& BitVec.ofInt 64 f.mask).toNat ≤ s.toNat := by
    rw [BitVec.toNat_and]
    exact Nat.and_le_left
  have ht := h.toNat_rounded hr
  have hz := h.size
  rw [BitVec.le_def]
  omega

theorem area_le (h : f.Fits count s) (hr : f.realigned) :
    8 * (count.toNat - registerCount) + 16 ≤ (f.rounded s).toNat := by
  have ht := h.toNat_rounded hr
  have hb := h.below
  simp only [hr, ↓reduceIte, registerCount] at hb ⊢
  omega

theorem areaFits (h : f.Fits count s) (hr : f.realigned) : AreaFits count.toNat :=
  Nat.le_trans (h.area_le hr) (Nat.le_of_lt (f.rounded s).isLt)

theorem apart_saved (h : f.Fits count s) (hr : f.realigned) (ha : s ≤ a) : Apart a (f.rounded s - 8) := by
  have hl := h.area_le hr
  change Apart a (f.rounded s - BitVec.ofNat 64 8)
  exact apart_of_le (h.rounded_le hr) ha (by decide) (by omega)

theorem apart_slot (h : f.Fits count s) (hr : f.realigned) (ha : s ≤ a) {k : Nat}
    (hk : k ∈ copied count.toNat) : Apart a (slot (f.rounded s) count.toNat k) := by
  have hl := h.area_le hr
  obtain ⟨hk, hc⟩ := mem_copied.mp hk
  rw [slot_eq]
  exact apart_of_le (h.rounded_le hr) ha (by omega) (by omega)

/-- The caller's arguments lie above the stack pointer. -/
theorem le_argumentAddress (h : f.Fits count s) {k : Nat} (hk : (k : Int) < count) :
    s ≤ argumentAddress s k := by
  have := h.above
  unfold argumentAddress slotSize
  bv_omega

/-- The entry sequence leaves all words at or above the stack pointer as they are. -/
theorem quad_above (h : f.Fits count s) (ha : s ≤ a) :
    (f.enteredMemory count.toNat table s m).quad a = m.quad a := by
  have hs : (f.savedMemory s m).quad a = m.quad a := by
    unfold savedMemory
    split
    · exact Memory.quad_store_of_apart (h.apart_saved ‹_› ha)
    · rfl
  unfold enteredMemory
  split
  · rename_i hc
    have hr : f.realigned = true := (Bool.and_eq_true_iff.mp hc).1
    rw [Memory.quad_copy_of_apart fun k hk => h.apart_slot hr ha hk, hs]
  · exact hs

/-- Every copied argument is in its slot. -/
theorem quad_slot (h : f.Fits count s) (hr : f.realigned) (ht : table.isPresent) {k : Nat}
    (hk : k ∈ copied count.toNat) :
    (f.enteredMemory count.toNat table s m).quad (slot (f.rounded s) count.toNat k) =
      m.quad (argumentAddress s k) := by
  have hc : ∀ i ∈ copied count.toNat, s ≤ argumentAddress s i := by
    intro i hi
    have := (mem_copied.mp hi).2
    exact h.le_argumentAddress (by omega)
  have hs : (f.savedMemory s m).quad (argumentAddress s k) = m.quad (argumentAddress s k) := by
    simp only [savedMemory, hr, ↓reduceIte]
    exact Memory.quad_store_of_apart (h.apart_saved hr (hc k hk))
  simp only [enteredMemory, hr, ht, Bool.and_self, ↓reduceIte]
  rw [Memory.quad_copy (h.areaFits hr).pairwise (fun i hi j hj => h.apart_slot hr (hc i hi) hj) hk, hs]

end Frame.Fits

end AsmBridge
