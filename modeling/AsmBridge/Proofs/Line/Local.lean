import AsmBridge.Proofs.Line.Lemmas.Bracketed
import AsmBridge.Proofs.Line.Lemmas.Operand

/-!
# Locals in lines

An operand below the old frame pointer names a local of the compiled frame. No change to a line takes such an operand
away, so the check that comes last finds it, in whatever part of the line it has ended up.
-/

namespace AsmBridge

def localOperand (digits : Text) : Text :=
  rbpMinusOpening ++ (digits ++ [']'])

/-- Whether a text has an operand below the old frame pointer. -/
def ReadsBelowFrame (t : Text) : Prop :=
  ∃ digits : Text, digits ≠ [] ∧ (∀ c ∈ digits, c.isDigit) ∧ localOperand digits <:+: t

theorem localOperand_eq (digits : Text) : localOperand digits = '[' :: ("rbp - ".toList ++ digits ++ [']']) := by
  rw [localOperand, rbpMinusOpening_eq, List.cons_append, List.append_assoc]

theorem not_mem_localOperand {digits : Text} (hd : ∀ c ∈ digits, c.isDigit) {c : Char} (hn : c.isDigit = false)
    (hc : c ∉ "[rbp - ]".toList) : c ∉ localOperand digits := by
  intro h
  rw [localOperand, List.mem_append, List.mem_append] at h
  rcases h with h | h | h
  · exact hc (List.mem_append_left [']'] h)
  · rw [hd c h] at hn
    cases hn
  · exact hc (List.mem_append_right rbpMinusOpening h)

/-- A local has none of the marks that respelling looks for. -/
theorem isBracketed_localOperand {digits : Text} (hd : ∀ c ∈ digits, c.isDigit) : IsBracketed (localOperand digits) where
  form := ⟨_, localOperand_eq digits⟩
  unmarked := by
    have hall : ∀ mark ∈ "movabs".toList :: sizeMarkers,
        mark.any (fun c => !c.isDigit && !"[rbp - ]".toList.contains c) = true := by
      decide
    intro mark hm hi
    obtain ⟨c, hc, hl⟩ := List.any_eq_true.mp (hall mark hm)
    simp only [Bool.and_eq_true, Bool.not_eq_true', List.contains_eq_mem, decide_eq_false_iff_not] at hl
    exact not_mem_localOperand hd hl.1 hl.2 (hi.subset hc)

namespace ReadsBelowFrame

variable {t : Text}

theorem mono {s : Text} (h : ReadsBelowFrame s) (hs : s <:+: t) : ReadsBelowFrame t := by
  obtain ⟨digits, hn, hd, hi⟩ := h
  exact ⟨digits, hn, hd, hi.trans hs⟩

theorem append_left (h : ReadsBelowFrame t) (x : Text) : ReadsBelowFrame (x ++ t) :=
  h.mono (List.suffix_append x t).isInfix

theorem append_right (h : ReadsBelowFrame t) (x : Text) : ReadsBelowFrame (t ++ x) :=
  h.mono (List.prefix_append t x).isInfix

theorem bracket_mem (h : ReadsBelowFrame t) : '[' ∈ t := by
  obtain ⟨digits, -, -, hi⟩ := h
  exact hi.subset List.mem_cons_self

/-- Respelling leaves a local in a line, unless it is a label, of which nothing but the label stays. -/
theorem respell (h : ReadsBelowFrame t) (hl : blockLabel? t = none) (hn : '\n' ∉ t) : ReadsBelowFrame (respell t) := by
  obtain ⟨digits, hne, hd, hi⟩ := h
  have hb := isBracketed_localOperand hd
  exact ⟨digits, hne, hd, hb.infix_respell hl (hb.infix_respellJump (not_mem_localOperand hd (by decide) (by decide)) hn hi)⟩

end ReadsBelowFrame

/-! ## The check -/

section

variable {table : Table} {layout : Layout} {line out : Text}

theorem ReadsBelowFrame.accessesBelowFrame (h : ReadsBelowFrame line) : accessesBelowFrame line = true := by
  obtain ⟨digits, hne, hd, x, y, rfl⟩ := h
  have hb : ']' ∉ digits := fun hm => absurd (hd _ hm) (by decide)
  have ho := offsetOperand?_append_bracket rbpMinusOpening hb y
  rw [if_pos ⟨hne, List.all_eq_true.mpr hd⟩] at ho
  have hs : (offsetOperand? rbpMinusOpening (rbpMinusOpening ++ (digits ++ ']' :: y))).isSome := by
    rw [ho]
    rfl
  have hline : x ++ localOperand digits ++ y = x ++ (rbpMinusOpening ++ (digits ++ ']' :: y)) := by
    simp only [localOperand, List.append_assoc, List.cons_append, List.nil_append]
  rw [AsmBridge.accessesBelowFrame, hline]
  exact Text.isSome_search_append (List.cons_ne_nil _ _) hs x

/-- A moved operand keeps what it moved for in a comment. -/
theorem ReadsBelowFrame.rebased {offset base opening head tail : Text} (hcut : line.cut? opening = some (head, tail))
    (ho : opening ∈ [ripOpening, rbpOpening]) (h : ReadsBelowFrame line) :
    ReadsBelowFrame (head ++ rebased offset base opening tail) := by
  have hall : ∀ opening ∈ [ripOpening, rbpOpening], ']' ∉ opening ∧ '+' ∈ opening := by decide
  obtain ⟨hb, hplus⟩ := hall opening ho
  obtain ⟨digits, hne, hd, hi⟩ := h
  have hm : ¬ opening <:+: localOperand digits := fun h =>
    not_mem_localOperand hd (by decide) (by decide) (h.subset hplus)
  rcases (isBracketed_localOperand hd).infix_of_cut? hi hcut hb hm with hi | hi
  · exact append_right ⟨digits, hne, hd, hi⟩ _
  · refine append_left ?_ head
    rw [AsmBridge.rebased, List.append_assoc _ opening tail]
    exact (append_left ⟨digits, hne, hd, hi⟩ _).append_right _

theorem ReadsBelowFrame.resolveConstant (h : ReadsBelowFrame line) (ho : resolveConstant table line = .ok out) :
    ReadsBelowFrame out := by
  unfold AsmBridge.resolveConstant at ho
  split at ho
  · cases ho
    exact h
  · rename_i head tail hcut
    simp only at ho
    split at ho
    · cases ho
    · obtain ⟨offset, -, rfl⟩ := exists_of_map_eq_ok ho
      exact h.rebased hcut (by decide)

theorem ReadsBelowFrame.resolveArgument (h : ReadsBelowFrame line) (ho : resolveArgument layout line = .ok out) :
    ReadsBelowFrame out := by
  unfold AsmBridge.resolveArgument at ho
  split at ho
  · rename_i digits head tail hd hcut
    obtain ⟨n, -, ho⟩ := exists_of_bind_eq_ok ho
    obtain ⟨place, -, ho⟩ := exists_of_bind_eq_ok ho
    cases ho
    exact h.rebased hcut (by decide)
  · cases ho
    exact h

/-- A line whose operands are resolved has no local. -/
theorem not_readsBelowFrame_of_resolveOperands (h : resolveOperands table layout line = .ok out) :
    ¬ ReadsBelowFrame line := by
  intro hr
  rw [resolveOperands_eq_bind] at h
  obtain ⟨line₁, h₁, h⟩ := exists_of_bind_eq_ok h
  obtain ⟨line₂, h₂, h⟩ := exists_of_bind_eq_ok h
  have hr₁ : ReadsBelowFrame line₁ := by
    split at h₁
    · exact hr.resolveConstant h₁
    · cases h₁
      exact hr
  rw [refuseBelowFrame, (hr₁.resolveArgument h₂).accessesBelowFrame] at h
  cases h

end

end AsmBridge
