import AsmBridge.Line.Comment
import AsmBridge.Proofs.Text.Blank
import AsmBridge.Proofs.Text.Cut
import Mathlib.Data.List.Infix

/-!
# Lines without their comments

What is left of a line stands at its start, and has no mark of a comment in it.
-/

namespace AsmBridge

/-- A comment is a mark, white space, and any text on the same line. -/
inductive IsComment : Text → Prop
  | single {c : Char} {text : Text} (hc : isBlank c) (ht : '\n' ∉ text) : IsComment ('#' :: c :: text)
  | double {c : Char} {text : Text} (hc : isBlank c) (ht : '\n' ∉ text) : IsComment ('#' :: '#' :: c :: text)

theorem stripComment_prefix_self (line : Text) : stripComment line <+: line := by
  induction line with
  | nil => exact List.prefix_refl _
  | cons c line ih =>
      rw [stripComment]
      split
      · exact List.nil_prefix
      · exact (List.prefix_cons_inj c).mpr ih

theorem head?_of_opensComment {t : Text} (h : opensComment t = true) : t.head? = some '#' := by
  unfold opensComment at h
  split at h
  · rfl
  · rfl
  · cases h

theorem stripComment_eq_nil {t : Text} (h : opensComment t.trimStart = true) : stripComment t = [] := by
  cases t with
  | nil => rfl
  | cons c t => rw [stripComment, if_pos h]

/-- What has no mark of a comment stays, unless it ends in white space, which may go with a comment that follows. -/
theorem stripComment_append {x : Text} (hmark : '#' ∉ x) (hend : ∀ c ∈ x.getLast?, isBlank c = false) (t : Text) :
    stripComment (x ++ t) = x ++ stripComment t := by
  induction x with
  | nil => rfl
  | cons c x ih =>
      have hne : Text.trimStart (c :: x) ≠ [] := fun hnil => by
        have hlast := hend _ (List.getLast?_eq_some_getLast (List.cons_ne_nil c x))
        rw [List.dropWhile_eq_nil_iff.mp hnil _ (List.getLast_mem _)] at hlast
        cases hlast
      have hstart : Text.trimStart (c :: (x ++ t)) = Text.trimStart (c :: x) ++ t :=
        Text.dropWhile_append_of_ne_nil hne t
      have hopens : opensComment (Text.trimStart (c :: (x ++ t))) = false := by
        rw [← Bool.not_eq_true]
        intro ho
        have hhead := head?_of_opensComment ho
        rw [hstart, List.head?_append_of_ne_nil _ hne] at hhead
        exact hmark ((List.dropWhile_suffix isBlank).subset (List.mem_of_head? hhead))
      have hend' : ∀ d ∈ x.getLast?, isBlank d = false := fun d hd =>
        hend d (by rw [List.getLast?_cons, Option.mem_def.mp hd]; rfl)
      rw [List.cons_append, stripComment, hopens, ih (List.not_mem_of_not_mem_cons hmark) hend']
      rfl

theorem stripComment_eq_self {t : Text} (h : '#' ∉ t) : stripComment t = t := by
  induction t with
  | nil => rfl
  | cons c t ih =>
      have hc : opensComment (Text.trimStart (c :: t)) = false := by
        rw [← Bool.not_eq_true]
        intro ho
        exact h ((List.dropWhile_suffix isBlank).subset (List.mem_of_head? (head?_of_opensComment ho)))
      rw [stripComment, hc, ih fun hm => h (List.mem_cons_of_mem c hm)]
      rfl

theorem opensComment_of_blank {d : Char} {r : Text} (hd : isBlank d) (hn : '\n' ∉ r) :
    opensComment (Text.trimStart ('#' :: d :: r)) = true := by
  have ht : Text.trimStart ('#' :: d :: r) = '#' :: d :: r := rfl
  have hhash : d ≠ '#' := fun h => absurd hd (h ▸ by decide)
  have ho : opensComment ('#' :: d :: r) = (isBlank d && Text.isOneLine r) := by
    unfold opensComment
    split
    · rename_i he
      exact absurd (List.cons.inj (List.cons.inj he).2).1 hhash
    · rename_i he
      cases he
      rfl
    · rename_i hne
      exact absurd rfl (hne d r)
  rw [ht, ho, hd, Text.isOneLine_of_not_mem hn]
  rfl

theorem IsComment.opensComment {note : Text} (h : IsComment note) : opensComment note = true := by
  cases h with
  | single hc ht => exact opensComment_of_blank hc ht
  | double hc ht =>
      change (isBlank _ && Text.isOneLine _) = true
      rw [hc, Text.isOneLine_of_not_mem ht]
      rfl

theorem IsComment.opensComment_trimStart {note : Text} (h : IsComment note) {blanks : Text} (hb : ∀ c ∈ blanks, isBlank c) :
    AsmBridge.opensComment (Text.trimStart (blanks ++ note)) = true := by
  rw [Text.trimStart_append hb, h.opensComment]
  intro c hc
  rw [head?_of_opensComment h.opensComment] at hc
  cases hc
  decide

/-- A comment goes with the white space before it. -/
theorem IsComment.stripComment_append {note : Text} (h : IsComment note) {blanks : Text} (hb : ∀ c ∈ blanks, isBlank c) :
    stripComment (blanks ++ note) = [] :=
  stripComment_eq_nil (h.opensComment_trimStart hb)

/-- A line without its comment has no mark of a comment. -/
theorem not_infix_stripComment {line : Text} (hn : '\n' ∉ line) {d : Char} (hd : isBlank d) :
    ¬ ['#', d] <:+: stripComment line := by
  induction line with
  | nil => simp [stripComment]
  | cons c line ih =>
      have hline := List.not_mem_of_not_mem_cons hn
      rw [stripComment]
      split
      · simp
      · rename_i ho
        rw [List.infix_cons_iff, not_or]
        refine ⟨fun hp => ho ?_, ih hline⟩
        obtain ⟨rfl, hblank⟩ := List.cons_prefix_cons.mp hp
        obtain ⟨r, rfl⟩ := hblank.trans (stripComment_prefix_self line)
        exact opensComment_of_blank hd (List.not_mem_of_not_mem_cons hline)

end AsmBridge
