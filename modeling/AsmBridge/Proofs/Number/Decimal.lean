import AsmBridge.Number.Decimal
import AsmBridge.Proofs.Fault
import Mathlib.Algebra.Group.Nat.Defs
import Mathlib.Data.List.Induction

/-!
# Written numbers

The digits that are written for a number have the value of the number.
-/

namespace AsmBridge

namespace Decimal

/-! ## Values -/

theorem digitValue?_of_isDigit {c : Char} (h : c.isDigit) : digitValue? c = some (c.toNat - 48) := by
  have hc : c.toNat < 0x80 := by
    simp only [Char.isDigit, Bool.and_eq_true, decide_eq_true_eq] at h
    exact Nat.lt_of_le_of_lt h.2 (by decide)
  simp only [digitValue?, hc, h, ↓reduceIte]

theorem isDecimalDigit_of_isDigit {c : Char} (h : c.isDigit) : isDecimalDigit c = true := by
  rw [isDecimalDigit, digitValue?_of_isDigit h]
  rfl

theorem value_eq_ofDigitChars {digits : Text} (h : ∀ c ∈ digits, c.isDigit) :
    value digits = Nat.ofDigitChars 10 digits 0 := by
  have hd : ∀ n, digits.foldl (fun n d => 10 * n + (digitValue? d).getD 0) n =
      Nat.ofDigitChars 10 digits n := by
    induction digits with
    | nil => intro n; rfl
    | cons c digits ih =>
        intro n
        rw [List.foldl_cons, digitValue?_of_isDigit (h c List.mem_cons_self), Nat.ofDigitChars_cons]
        exact ih (fun d hd => h d (List.mem_cons_of_mem c hd)) _
  exact hd 0

theorem digitValue?_lt {c : Char} {d : Nat} (h : digitValue? c = some d) : d < 10 := by
  unfold digitValue? at h
  split at h
  · split at h
    · rename_i hc
      obtain ⟨-, hnine⟩ := Bool.and_eq_true_iff.mp hc
      have hhigh : c.toNat ≤ 0x39 := of_decide_eq_true hnine
      cases h
      omega
    · cases h
  · obtain ⟨start, hs, rfl⟩ := Option.map_eq_some_iff.mp h
    have hrange := List.find?_some hs
    simp only [Bool.and_eq_true, decide_eq_true_eq] at hrange
    omega

theorem value_lt (digits : Text) : value digits < 10 ^ digits.length := by
  induction digits using List.reverseRecOn with
  | nil => decide
  | append_singleton digits c ih =>
      have hc : (digitValue? c).getD 0 < 10 := by
        cases hd : digitValue? c with
        | none => decide
        | some d => exact digitValue?_lt hd
      rw [value] at ih ⊢
      rw [List.foldl_append, List.length_append, List.length_singleton, Nat.pow_succ, List.foldl_cons, List.foldl_nil]
      omega

/-! ## Digits of a natural number -/

theorem isDigit_of_mem_ofNat {n : Nat} {c : Char} (h : c ∈ ofNat n) : c.isDigit :=
  Nat.isDigit_of_mem_toDigits (by decide) (by decide) h

theorem ofNat_ne_nil {n : Nat} : ofNat n ≠ [] :=
  Nat.toDigits_ne_nil

theorem value_ofNat (n : Nat) : value (ofNat n) = n := by
  rw [value_eq_ofDigitChars fun _ => isDigit_of_mem_ofNat]
  exact Nat.ofDigitChars_ten_toDigits

/-- A number has at most `k` digits where it lies below the power `k` of ten. -/
theorem length_ofNat_le_iff {n k : Nat} (hk : 0 < k) : (ofNat n).length ≤ k ↔ n < 10 ^ k :=
  Nat.length_toDigits_le_iff (by decide) hk

theorem length_ofNat_pow (k : Nat) : (ofNat (10 ^ k)).length = k + 1 := by
  have h₁ : (ofNat (10 ^ k)).length ≤ k + 1 :=
    (length_ofNat_le_iff (Nat.succ_pos k)).mpr (Nat.pow_lt_pow_right (by decide) (Nat.lt_succ_self k))
  cases k with
  | zero => decide
  | succ k =>
      have h₂ : ¬ (ofNat (10 ^ (k + 1))).length ≤ k + 1 := by
        rw [length_ofNat_le_iff (Nat.succ_pos k)]
        exact Nat.lt_irrefl _
      omega

/-- The numbers of the address space are short enough to be read and written. -/
theorem length_ofNat_le_digitLimit {n : Nat} (h : n ≤ 2 ^ 64) : (ofNat n).length ≤ digitLimit := by
  rw [length_ofNat_le_iff (by decide)]
  calc n ≤ 2 ^ 64 := h
    _ < 10 ^ 20 := by decide
    _ ≤ 10 ^ digitLimit := Nat.pow_le_pow_right (by decide) (by decide)

/-! ## Characters of a written number -/

/-- The characters of a written number are digits and the minus sign. -/
theorem mem_ofInt {n : Int} {c : Char} (h : c ∈ ofInt n) : c = '-' ∨ c.isDigit := by
  cases n with
  | ofNat n => exact .inr (isDigit_of_mem_ofNat h)
  | negSucc n =>
      rcases List.mem_cons.mp h with rfl | h
      · exact .inl rfl
      · exact .inr (isDigit_of_mem_ofNat h)

theorem not_mem_ofInt {n : Int} {c : Char} (hm : c ≠ '-') (hd : c.isDigit = false) : c ∉ ofInt n := by
  intro h
  rcases mem_ofInt h with rfl | h
  · exact hm rfl
  · rw [hd] at h; cases h

theorem not_mem_ofNat {n : Nat} {c : Char} (hd : c.isDigit = false) : c ∉ ofNat n := by
  intro h
  rw [isDigit_of_mem_ofNat h] at hd
  cases hd

/-! ## Reading and writing -/

theorem read_ofNat {n : Nat} (h : (ofNat n).length ≤ digitLimit) : read (ofNat n) = .ok n := by
  rw [read, if_neg (Nat.not_lt.mpr h), value_ofNat]

theorem read_of_digitLimit_lt {digits : Text} (h : digitLimit < digits.length) :
    read digits = .error (.tooManyDigits digits.length) := by
  rw [read, if_pos h]

theorem write_of_length_le {n : Int} (h : (ofNat n.natAbs).length ≤ digitLimit) :
    write n = .ok (ofInt n) := by
  rw [write, if_neg (Nat.not_lt.mpr h)]

theorem eq_value_of_read {digits : Text} {n : Nat} (h : read digits = .ok n) : n = value digits := by
  unfold read at h
  split at h
  · cases h
  · cases h
    rfl

theorem eq_ofInt_of_write {n : Int} {t : Text} (h : write n = .ok t) :
    t = ofInt n ∧ (ofNat n.natAbs).length ≤ digitLimit := by
  unfold write at h
  split at h
  · cases h
  · rename_i hl
    cases h
    exact ⟨rfl, Nat.not_lt.mp hl⟩

/-- A number that is not read has too many digits. -/
theorem fault_of_read {digits : Text} {fault : Fault} (h : read digits = .error fault) :
    fault.isOverlong = true ∧ digitLimit < digits.length := by
  unfold read at h
  split at h
  · rename_i hl
    cases h
    exact ⟨rfl, hl⟩
  · cases h

theorem fault_of_write {n : Int} {fault : Fault} (h : write n = .error fault) :
    fault.isOverlong = true ∧ digitLimit < (ofNat n.natAbs).length := by
  unfold write at h
  split at h
  · rename_i hl
    cases h
    exact ⟨rfl, hl⟩
  · cases h

end Decimal

end AsmBridge
