import AsmBridge.Proofs.Line.Lemmas.Comment

/-!
# Where a line is cut

A line with a comment is cut at the first place behind which there is only white space and a comment. What is left has no
comment of its own, so that it is not cut again.
-/

namespace AsmBridge

/-- Whether white space stands behind a `#` of a text. -/
def HasMark (t : Text) : Prop :=
  ∃ c, isBlank c = true ∧ ['#', c] <:+: t

/-- White space, or none, with a comment behind it. -/
inductive IsTrailer : Text → Prop
  | mk {blanks comment : Text} (hb : ∀ c ∈ blanks, isBlank c) (hc : IsComment comment) : IsTrailer (blanks ++ comment)

/-! ## Comments as they are written -/

theorem IsComment.hasMark {comment : Text} (h : IsComment comment) : HasMark comment := by
  cases h with
  | @single c text hc ht => exact ⟨c, hc, [], text, rfl⟩
  | @double c text hc ht => exact ⟨c, hc, ['#'], text, rfl⟩

theorem HasMark.mono {t text : Text} (h : HasMark t) (hi : t <:+: text) : HasMark text := by
  obtain ⟨c, hc, hm⟩ := h
  exact ⟨c, hc, hm.trans hi⟩

theorem isComment_of_opensComment {t : Text} (hn : '\n' ∉ t) (h : opensComment t = true) : IsComment t := by
  unfold opensComment at h
  split at h
  · rw [Bool.and_eq_true] at h
    exact .double h.1 fun hm => hn (List.mem_cons_of_mem _ (List.mem_cons_of_mem _ (List.mem_cons_of_mem _ hm)))
  · rw [Bool.and_eq_true] at h
    exact .single h.1 fun hm => hn (List.mem_cons_of_mem _ (List.mem_cons_of_mem _ hm))
  · cases h

theorem IsTrailer.opensComment {t : Text} (h : IsTrailer t) : opensComment t.trimStart = true := by
  cases h with
  | mk hb hc => exact hc.opensComment_trimStart hb

theorem isTrailer_of_opensComment {t : Text} (hn : '\n' ∉ t) (h : opensComment t.trimStart = true) : IsTrailer t := by
  have hcomment : IsComment t.trimStart := isComment_of_opensComment (fun hm => hn ((List.dropWhile_suffix _).subset hm)) h
  rw [← t.indent_append_trimStart]
  exact .mk (fun c hc => List.all_eq_true.mp List.all_takeWhile c hc) hcomment

/-! ## The place of the cut -/

/-- What is cut off is a comment with all white space in front of it. -/
theorem exists_of_stripComment_ne {line : Text} (h : stripComment line ≠ line) :
    ∃ tail, line = stripComment line ++ tail ∧ opensComment tail.trimStart = true ∧
      ∀ c ∈ (stripComment line).getLast?, isBlank c = false := by
  induction line with
  | nil => exact absurd rfl h
  | cons c line ih =>
      rw [stripComment] at h ⊢
      split
      · rename_i hopens
        exact ⟨c :: line, rfl, hopens, by simp⟩
      · rename_i hopens
        rw [if_neg hopens] at h
        obtain ⟨tail, hline, htail, hlast⟩ := ih fun he => h (congrArg (c :: ·) he)
        refine ⟨tail, congrArg (c :: ·) hline, htail, fun d hd => ?_⟩
        cases hkept : stripComment line with
        | nil =>
            -- A blank in front of the comment would belong to it, and the line would be cut here.
            rw [hkept, List.nil_append] at hline
            rw [hkept, List.getLast?_singleton, Option.mem_some_iff] at hd
            subst hd
            by_contra hblank
            rw [Text.trimStart, List.dropWhile_cons, if_pos (by simpa using hblank), hline] at hopens
            exact hopens htail
        | cons e kept =>
            rw [hkept, List.getLast?_cons_cons, ← hkept] at hd
            exact hlast d hd

/-- No later place is taken where a line could be cut earlier. -/
theorem stripComment_append_prefix (front : Text) {tail : Text} (h : opensComment tail.trimStart = true) :
    stripComment (front ++ tail) <+: front := by
  induction front with
  | nil => rw [List.nil_append, stripComment_eq_nil h]
  | cons c front ih =>
      rw [List.cons_append, stripComment]
      split
      · exact List.nil_prefix
      · exact (List.prefix_cons_inj c).mpr ih

section

variable {line : Text} (hn : '\n' ∉ line)
include hn

theorem exists_isTrailer (h : stripComment line ≠ line) :
    ∃ trailer, IsTrailer trailer ∧ line = stripComment line ++ trailer ∧
      ∀ c ∈ (stripComment line).getLast?, isBlank c = false := by
  obtain ⟨tail, hline, htail, hlast⟩ := exists_of_stripComment_ne h
  have htailLine : '\n' ∉ tail := fun hm => hn (hline ▸ List.mem_append_right _ hm)
  exact ⟨tail, isTrailer_of_opensComment htailLine htail, hline, hlast⟩

theorem not_hasMark_stripComment : ¬ HasMark (stripComment line) := by
  rintro ⟨c, hc, hm⟩
  exact not_infix_stripComment hn hc hm

theorem stripComment_eq_self_iff : stripComment line = line ↔ ¬ HasMark line := by
  refine ⟨fun h => h ▸ not_hasMark_stripComment hn, fun hmark => ?_⟩
  by_contra hne
  obtain ⟨trailer, htrailer, hline, -⟩ := exists_isTrailer hn hne
  cases htrailer with
  | @mk blanks comment hb hc =>
      have hsuffix : comment <:+ line := by
        rw [hline, ← List.append_assoc]
        exact List.suffix_append _ _
      exact hmark (hc.hasMark.mono hsuffix.isInfix)

theorem stripComment_stripComment : stripComment (stripComment line) = stripComment line :=
  (stripComment_eq_self_iff fun hm => hn ((stripComment_prefix_self line).subset hm)).mpr (not_hasMark_stripComment hn)

end

theorem isCommentOnly_iff (line : Text) : isCommentOnly line = true ↔ stripComment line ≠ line ∧ stripComment line = [] := by
  rw [isCommentOnly, Bool.and_eq_true, Bool.not_eq_true', List.isEmpty_eq_false_iff, List.isEmpty_iff]
  refine and_congr_left fun h => ?_
  rw [h, ne_comm]

/-- A line is cut only where it has the mark of a comment, and then at the first place where white space, or none, and a
comment follow. What is left has no such mark, and is not cut again. -/
theorem stripComment_cut {line : Text} (hn : '\n' ∉ line) :
    let kept := stripComment line
    kept <+: line ∧ ¬ HasMark kept ∧ (kept = line ↔ ¬ HasMark line) ∧
      (kept ≠ line → (∀ c ∈ kept.getLast?, isBlank c = false) ∧ ∃ trailer, IsTrailer trailer ∧ line = kept ++ trailer) ∧
      (∀ front trailer, IsTrailer trailer → line = front ++ trailer → kept <+: front) ∧
      (isCommentOnly line = true ↔ kept ≠ line ∧ kept = []) ∧
      stripComment kept = kept ∧ isCommentOnly kept = false := by
  intro kept
  have hagain : stripComment kept = kept := stripComment_stripComment hn
  refine ⟨stripComment_prefix_self line, not_hasMark_stripComment hn, stripComment_eq_self_iff hn, fun hne => ?_,
    fun front trailer htrailer hline => ?_, isCommentOnly_iff line, hagain, ?_⟩
  · obtain ⟨trailer, htrailer, hline, hlast⟩ := exists_isTrailer hn hne
    exact ⟨hlast, trailer, htrailer, hline⟩
  · have hprefix := stripComment_append_prefix front htrailer.opensComment
    rwa [← hline] at hprefix
  · rw [← Bool.not_eq_true, isCommentOnly_iff]
    exact fun h => h.1 hagain

/-- Of three marks in a row the last two open the comment, and its own text may hold more marks. -/
theorem stripComment_cut_sample :
    let line := "mov eax, 1 ### one # more".toList
    '\n' ∉ line ∧ stripComment line = "mov eax, 1 #".toList ∧ ¬ HasMark (stripComment line) ∧
      stripComment (stripComment line) = stripComment line := by
  intro line
  have hn : '\n' ∉ line := by decide
  obtain ⟨-, hmark, -, -, -, -, hagain, -⟩ := stripComment_cut hn
  exact ⟨hn, by decide, hmark, hagain⟩

end AsmBridge
