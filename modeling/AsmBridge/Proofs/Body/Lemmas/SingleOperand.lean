import AsmBridge.Proofs.Body.Lemmas.Splice
import AsmBridge.Proofs.Line.Lemmas.Bracketed
import AsmBridge.Proofs.Line.Lemmas.Comment
import AsmBridge.Proofs.Line.Lemmas.Spelling
import AsmBridge.Proofs.Text.LetterCase

/-!
# Lines with one operand in brackets

A line that has one operand in brackets keeps it while it is respelled, and a line without brackets gets none.
-/

namespace AsmBridge

/-- Whether `inner` stands in the only brackets of a line outside its comment. In front of it stands the name of no block,
as in all lines of small letters. -/
structure HasOperand (line inner : Text) : Prop where
  closed : ']' ∉ inner
  unmarked : ∀ mark ∈ ["ptr".toList, "xmmword".toList, "ymmword".toList, "movabs".toList], ¬ mark <:+: inner
  operand : ∃ before after, stripComment line = before ++ '[' :: (inner ++ ']' :: after) ∧
    '[' ∉ before ++ (inner ++ after) ∧ ¬ blockOpening <:+: before

namespace HasOperand

variable {line inner : Text} (h : HasOperand line inner)
include h

theorem infix_stripComment : '[' :: (inner ++ [']']) <:+: stripComment line := by
  obtain ⟨before, after, hs, -⟩ := h.operand
  exact ⟨before, after, by rw [hs]; simp⟩

theorem isBracketed (hn : '\n' ∉ line) : IsBracketed ('[' :: (inner ++ [']'])) where
  form := ⟨inner, rfl⟩
  unmarked := by
    have hmarks : ∀ mark ∈ "movabs".toList :: sizeMarkers, mark = "# NOREX".toList ∨
        mark ∈ ["ptr".toList, "xmmword".toList, "ymmword".toList, "movabs".toList] ∧
          '[' ∉ mark ∧ ']' ∉ mark ∧ ¬ mark <:+: [] := by
      decide
    intro mark hm
    rcases hmarks mark hm with rfl | ⟨hletters, hopen, hclose, hnil⟩
    · intro hi
      have hmark : ['#', ' '] <:+: "# NOREX".toList := by decide
      exact not_infix_stripComment hn (d := ' ') (by decide) ((hmark.trans hi).trans h.infix_stripComment)
    · exact Text.not_infix_append_cons (x := []) hopen hnil (Text.not_infix_append_cons hclose (h.unmarked mark hletters) hnil)

/-- Respelling leaves the operand, and no other brackets. -/
theorem exists_respelledLine (hn : '\n' ∉ line) : ∃ front back,
    '[' ∉ front ∧ '[' ∉ back ∧ respelledLine line = front ++ '[' :: (inner ++ ']' :: back) := by
  obtain ⟨before, after, hs, hb, hblock⟩ := h.operand
  have hlabel : blockLabel? (stripComment line) = none := by
    rw [hs]
    exact blockLabel?_append_bracket hblock _
  have hjump : respellJump (stripComment line) = stripComment line := by
    have hnone : Jump.ofLine? (stripComment line) = none := by
      rw [hs]
      exact Jump.ofLine?_append_bracket hblock _
    rw [respellJump, hnone]
  have hinfix : '[' :: (inner ++ [']']) <:+: respelledLine line :=
    (h.isBracketed hn).infix_respell hlabel (hjump.symm ▸ h.infix_stripComment)
  have hcount : (respelledLine line).count '[' ≤ 1 := by
    refine (count_bracket_respell_le hlabel).trans ?_
    simp only [List.mem_append, not_or] at hb
    obtain ⟨hbefore, hsymbol, hafter⟩ := hb
    rw [hjump, hs]
    simp [List.count_append, List.count_eq_zero_of_not_mem, hbefore, hsymbol, hafter]
  obtain ⟨front, back, he⟩ := hinfix
  rw [← he, List.count_append, List.count_append, List.count_cons_self] at hcount
  refine ⟨front, back, fun hm => ?_, fun hm => ?_, by rw [← he]; simp⟩
  · have hpos := List.count_pos_iff.mpr hm
    omega
  · have hpos := List.count_pos_iff.mpr hm
    omega

end HasOperand

/-! ## Lines without brackets -/

theorem respellBlockLabel_subset (t : Text) : respellBlockLabel t ⊆ t := by
  rw [respellBlockLabel, blockLabel?]
  split
  · split
    · exact List.Subset.refl _
    · rename_i c r hup
      have hsuffix : (c :: r).reverse <:+ t.firstLine.reverse := by
        rw [← hup, upToColon, List.reverse_reverse]
        exact List.dropWhile_suffix _
      exact List.Subset.trans List.erase_subset
        (List.Subset.trans (List.reverse_suffix.mp hsuffix).subset (List.takeWhile_prefix _).subset)
  · exact List.Subset.refl _

/-- A jump is made of a word, white space or none, and what follows up to the end of the line. -/
theorem Jump.exists_append_of_ofLine? {line : Text} {j : Jump} (h : ofLine? line = some j) :
    ∃ gap rest, line = j.indent ++ (j.mnemonic ++ (gap ++ rest)) ∧ (∀ c ∈ j.mnemonic, isWordChar c = true) ∧
      (∀ c ∈ gap, isBlank c = true) ∧ j.target = Text.firstLine rest := by
  have hline : line = line.indent ++ line.trimStart := (Text.indent_append_trimStart line).symm
  unfold ofLine? at h
  split at h
  · rename_i r hr
    have hword : ∀ c ∈ r.takeWhile isWordChar, isWordChar c = true := List.all_eq_true.mp List.all_takeWhile
    rw [hr, ← List.takeWhile_append_dropWhile (p := isWordChar) (l := r)] at hline
    simp only at h
    split at h
    · cases h
      refine ⟨Text.indent (r.dropWhile isWordChar), Text.trimStart (r.dropWhile isWordChar), ?_,
        List.forall_mem_cons.mpr ⟨by decide, hword⟩, List.all_eq_true.mp List.all_takeWhile, rfl⟩
      rw [Text.indent_append_trimStart]
      exact hline
    · obtain ⟨⟨head, tail⟩, hs, rfl⟩ := Option.map_eq_some_iff.mp h
      have hsplit := eq_append_of_splitAtBlock hs
      refine ⟨[], tail ++ r.dropWhile isWordChar, ?_, List.forall_mem_cons.mpr ⟨by decide, fun c hc => ?_⟩, by simp, rfl⟩
      · rw [hsplit] at hline
        simpa using hline
      · exact hword c (hsplit ▸ List.mem_append_left tail hc)
  · cases h

theorem bracket_not_mem_respellJump {t : Text} (h : '[' ∉ t) : '[' ∉ respellJump t := by
  unfold respellJump
  split
  · rename_i j hj
    obtain ⟨gap, rest, rfl, hword, -, htarget⟩ := Jump.exists_append_of_ofLine? hj
    simp only [List.mem_append, not_or] at h
    have hinstruction : '[' ∉ j.instruction := fun hm =>
      absurd (hword _ (Text.mem_of_mem_toUpper (by decide) (by decide) hm)) (by decide)
    have hlabel : '[' ∉ j.label := fun hm => by
      refine h.2.2.2 ((List.takeWhile_prefix _).subset (?_ : '[' ∈ Text.firstLine rest))
      exact htarget ▸ List.erase_subset hm
    simp only [Jump.render, List.mem_append, not_or]
    exact ⟨⟨⟨h.1, hinstruction⟩, by decide⟩, hlabel⟩
  · exact h

/-- Respelling puts no bracket into a line. -/
theorem bracket_not_mem_respell {t : Text} (h : '[' ∉ t) : '[' ∉ respell t := by
  rw [respell_eq_adjustOperands]
  have hjump := bracket_not_mem_respellJump fun hm => h (respellBlockLabel_subset t hm)
  refine bracket_not_mem_adjustOperands ?_
  rw [← List.count_eq_zero] at hjump ⊢
  have hle : (guardedLine t).count '[' ≤ (respellJump (respellBlockLabel t)).count '[' :=
    (count_bracket_disableForeign_le _).trans (count_bracket_respellCall_le _)
  omega

end AsmBridge
