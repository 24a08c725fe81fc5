import AsmBridge.Proofs.Frame.Machine

/-!
# Words of memory

A word that is stored is read back, and words that have no byte in common with it stay as they are. From
this follows what a run of copies leaves in memory.
-/

namespace AsmBridge

variable {m : Memory} {a b v : Quad}

/-! ## Reading and storing -/

theorem Memory.store_inside {i : Nat} (hi : i < 8) :
    m.store a v (a + BitVec.ofNat 64 i) = BitVec.ofNat 8 (v.toNat / 256 ^ i) := by
  have h : (a + BitVec.ofNat 64 i - a).toNat = i := by bv_omega
  simp only [store, h, hi, ↓reduceIte]

theorem Memory.store_outside (h : 8 ≤ (b - a).toNat) : m.store a v b = m b := by
  simp only [store, Nat.not_lt.mpr h, ↓reduceIte]

theorem Memory.number_congr {m' : Memory} {count : Nat}
    (h : ∀ i < count, m (a + BitVec.ofNat 64 i) = m' (a + BitVec.ofNat 64 i)) :
    m.number count a = m'.number count a := by
  induction count generalizing a with
  | zero => rfl
  | succ count ih =>
      have h₀ := h 0 (Nat.succ_pos count)
      simp only [BitVec.add_zero] at h₀
      have hr : m.number count (a + 1) = m'.number count (a + 1) := by
        apply ih
        intro i hi
        have hs : a + 1 + BitVec.ofNat 64 i = a + BitVec.ofNat 64 (i + 1) := by bv_omega
        rw [hs]
        exact h (i + 1) (Nat.succ_lt_succ hi)
      simp only [number, h₀, hr]

theorem Memory.number_store {count i : Nat} (hi : i + count ≤ 8) :
    (m.store a v).number count (a + BitVec.ofNat 64 i) = v.toNat / 256 ^ i % 256 ^ count := by
  induction count generalizing i with
  | zero => simp only [number, Nat.pow_zero, Nat.mod_one]
  | succ count ih =>
      have hs : a + BitVec.ofNat 64 i + 1 = a + BitVec.ofNat 64 (i + 1) := by bv_omega
      simp only [number, store_inside (show i < 8 by omega), hs, ih (show i + 1 + count ≤ 8 by omega)]
      rw [BitVec.toNat_ofNat, Nat.pow_succ 256 i, ← Nat.div_div_eq_div_mul, Nat.pow_succ' (n := count),
        Nat.mod_mul]

theorem Memory.quad_store : (m.store a v).quad a = v := by
  have h : (m.store a v).number 8 (a + BitVec.ofNat 64 0) = v.toNat / 256 ^ 0 % 256 ^ 8 :=
    number_store (Nat.le_refl 8)
  simp only [BitVec.add_zero, Nat.pow_zero, Nat.div_one] at h
  have hv : v.toNat < 256 ^ 8 := v.isLt
  rw [quad, h, Nat.mod_eq_of_lt hv, BitVec.ofNat_toNat, BitVec.setWidth_eq]

theorem Memory.quad_store_of_apart (h : Apart b a) : (m.store a v).quad b = m.quad b := by
  have hn : (m.store a v).number 8 b = m.number 8 b := by
    apply number_congr
    intro i hi
    obtain ⟨h₁, h₂⟩ := h
    exact store_outside (by bv_omega)
  simp only [quad, hn]

/-! ## Copies -/

/-- The memory after the words at `source k` were copied to `target k`, for one `k` after the other. -/
def Memory.copy (m : Memory) (source target : Nat → Quad) : List Nat → Memory
  | [] => m
  | k :: ks => (m.store (target k) (m.quad (source k))).copy source target ks

theorem Memory.quad_copy_of_apart {source target : Nat → Quad} {ks : List Nat}
    (h : ∀ k ∈ ks, Apart b (target k)) : (m.copy source target ks).quad b = m.quad b := by
  induction ks generalizing m with
  | nil => rfl
  | cons k ks ih =>
      rw [copy, ih fun i hi => h i (List.mem_cons_of_mem k hi)]
      exact quad_store_of_apart (h k List.mem_cons_self)

/-- Copies to places that are apart from each other and from all that is copied arrive. -/
theorem Memory.quad_copy {source target : Nat → Quad} {ks : List Nat}
    (ht : ks.Pairwise fun i j => Apart (target i) (target j))
    (hs : ∀ i ∈ ks, ∀ j ∈ ks, Apart (source i) (target j)) {k : Nat} (hk : k ∈ ks) :
    (m.copy source target ks).quad (target k) = m.quad (source k) := by
  induction ks generalizing m with
  | nil => cases hk
  | cons i ks ih =>
      obtain ⟨hi, ht⟩ := List.pairwise_cons.mp ht
      rw [copy]
      rcases List.mem_cons.mp hk with rfl | hk
      · rw [quad_copy_of_apart hi, quad_store]
      · rw [ih ht (fun j hj l hl => hs j (List.mem_cons_of_mem i hj) l (List.mem_cons_of_mem i hl)) hk]
        exact quad_store_of_apart (hs k (List.mem_cons_of_mem i hk) i List.mem_cons_self)

end AsmBridge
