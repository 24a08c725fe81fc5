import AsmBridge.Proofs.Entries
import AsmBridge.Proofs.Text.Blank
import AsmBridge.Text.LetterCase
import AsmBridge.Text.Lowercase

/-!
# Upper case

The upper case of a character has no other character of ASCII in it but capital letters.
-/

namespace AsmBridge

/-- Code points from U+0080 on that are characters stay what they are. -/
theorem le_toNat_ofNat {n : Nat} (hn : 0x80 ≤ n) (hv : n < 0xD800 ∨ 0xDFFF < n ∧ n < 0x110000) :
    0x80 ≤ (Char.ofNat n).toNat := by
  rw [Char.ofNat, dif_pos hv]
  exact hn

theorem isUpper_toUpper {c : Char} (h : c.isLower) : c.toUpper.isUpper := by
  have hall : ∀ c ∈ CharSet.chars [(0x61, 0x7A)], c.toUpper.isUpper := by decide
  exact hall c (mem_chars_of_isLower h)

/-- A run maps its code points to capital letters of ASCII or to characters beyond. -/
theorem CaseRun.upper_covers {run : CaseRun} (hr : run ∈ CaseRun.upper) {n : Nat} (hn : run.covers n) :
    (Char.ofNat (n + run.shift).toNat).isUpper ∨ 0x80 ≤ (Char.ofNat (n + run.shift).toNat).toNat := by
  have hall : ∀ run ∈ CaseRun.upper,
      (run.first = run.last ∧ (Char.ofNat (run.first + run.shift).toNat).isUpper) ∨ 0x80 ≤ run.first + run.shift ∧
        (run.last + run.shift < 0xD800 ∨ 0xDFFF < run.first + run.shift ∧ run.last + run.shift < 0x110000) := by
    decide +kernel
  simp only [covers, Bool.and_eq_true, decide_eq_true_eq] at hn
  rcases hall run hr with ⟨hone, hupper⟩ | ⟨hlow, hvalid⟩
  · obtain rfl : n = run.first := by omega
    exact .inl hupper
  · exact .inr (le_toNat_ofNat (by omega) (by omega))

/-- What stands in upper case is a capital letter, a character beyond ASCII or the character itself. -/
theorem mem_upperOf_cases {c d : Char} (hd : d ∈ upperOf c) :
    d.isUpper ∨ 0x80 ≤ d.toNat ∨ d = c ∧ c.toNat < 0x80 ∧ c.isLower = false := by
  unfold upperOf at hd
  split at hd
  · rename_i hascii
    rw [List.mem_singleton.mp hd]
    cases hl : c.isLower with
    | true => exact .inl (isUpper_toUpper hl)
    | false =>
        have hc : c.toUpper = c := by
          change (decide (c.val ≥ 'a'.val) && decide (c.val ≤ 'z'.val)) = false at hl
          rw [← Bool.decide_and, decide_eq_false_iff_not] at hl
          exact dif_neg hl
        exact .inr (.inr ⟨hc, hascii, rfl⟩)
  · rename_i hwide
    split at hd
    · rename_i codes hcodes
      have hall : ∀ entry ∈ upperExpansions, ∀ code ∈ entry.2,
          (Char.ofNat code).isUpper ∨ 0x80 ≤ (Char.ofNat code).toNat := by
        decide +kernel
      obtain ⟨code, hcode, rfl⟩ := List.mem_map.mp hd
      exact (hall _ (mem_of_lookup_eq_some hcodes) code hcode).imp_right .inl
    · rw [List.mem_singleton.mp hd, CaseRun.map]
      split
      · rename_i run hrun
        have hcovers : run.covers c.toNat := by simpa using List.find?_some hrun
        exact (CaseRun.upper_covers (List.mem_of_find?_eq_some hrun) hcovers).imp_right .inl
      · rw [Char.ofNat_toNat]
        exact .inr (.inl (Nat.not_lt.mp hwide))

theorem isUpper_or_of_mem_upperOf {c d : Char} (hc : isLowercase c) (hd : d ∈ upperOf c) : d.isUpper ∨ 0x80 ≤ d.toNat := by
  rcases mem_upperOf_cases hd with h | h | ⟨-, hascii, hl⟩
  · exact .inl h
  · exact .inr h
  · rw [isLowercase, if_pos hascii, hl] at hc
    cases hc

namespace Text

/-- A word in small letters has nothing of ASCII in upper case but capital letters. -/
theorem not_mem_toUpper {word : Text} (hw : ∀ c ∈ word, isLowercase c) {d : Char} (hu : d.isUpper = false)
    (hd : d.toNat < 0x80) : d ∉ word.toUpper := by
  intro hm
  obtain ⟨c, hc, hm⟩ := List.mem_flatMap.mp hm
  rcases isUpper_or_of_mem_upperOf (hw c hc) hm with h | h
  · rw [hu] at h
    cases h
  · exact absurd hd (Nat.not_lt.mpr h)

/-- A character of ASCII that is no capital letter stays, and none comes in addition. -/
theorem mem_of_mem_toUpper {t : Text} {d : Char} (hu : d.isUpper = false) (hd : d.toNat < 0x80) (h : d ∈ t.toUpper) : d ∈ t := by
  obtain ⟨c, hc, hm⟩ := List.mem_flatMap.mp h
  rcases mem_upperOf_cases hm with h | h | ⟨rfl, -⟩
  · rw [hu] at h
    cases h
  · exact absurd hd (Nat.not_lt.mpr h)
  · exact hc

end Text

end AsmBridge
