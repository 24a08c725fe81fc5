import AsmBridge.Proofs.Text.Cut
import Mathlib.Data.List.Infix

/-!
# Occurrences of a mark

A text includes a mark where the mark is a block of it. A character that a mark does not hold separates the
places where it can occur.
-/

namespace AsmBridge

namespace Text

/-! ## Blocks of a text -/

theorem after?_eq_none_iff {t mark : Text} : t.after? mark = none ↔ ¬ mark <+: t := by
  simp only [after?, ite_eq_right_iff, reduceCtorEq, imp_false, List.isPrefixOf_iff_prefix]

theorem after?_eq_none_of_head? {t mark : Text} {c : Char} (hm : mark.head? = some c) (ht : t.head? ≠ some c) :
    t.after? mark = none := by
  rw [after?_eq_none_iff]
  rintro ⟨rest, rfl⟩
  cases mark with
  | nil => cases hm
  | cons d mark => exact ht hm

theorem cut?_eq_none_iff {t mark : Text} : t.cut? mark = none ↔ ¬ mark <:+: t := by
  induction t with
  | nil =>
      cases mark with
      | nil => simp [cut?]
      | cons c mark => simp [cut?]
  | cons c t ih =>
      rw [cut?, List.infix_cons_iff, not_or, ← ih]
      cases h : after? (c :: t) mark with
      | some rest =>
          have hp : mark <+: c :: t := ⟨rest, (eq_append_of_after? h).symm⟩
          simp [hp]
      | none =>
          have hp : ¬ mark <+: c :: t := after?_eq_none_iff.mp h
          simp only [hp, not_false_eq_true, true_and, Option.map_eq_none_iff]

theorem includes_eq_false_iff {t mark : Text} : t.includes mark = false ↔ ¬ mark <:+: t := by
  rw [includes, Option.isSome_eq_false_iff, Option.isNone_iff_eq_none, cut?_eq_none_iff]

/-! ## The first occurrence -/

theorem eq_append_of_cut? {t mark head tail : Text} (h : t.cut? mark = some (head, tail)) :
    t = head ++ (mark ++ tail) := by
  induction t generalizing head with
  | nil =>
      cases mark with
      | nil =>
          cases h
          rfl
      | cons c mark => cases h
  | cons c t ih =>
      rw [cut?] at h
      split at h
      · rename_i rest hr
        cases h
        rw [List.nil_append]
        exact eq_append_of_after? hr
      · obtain ⟨⟨front, rest⟩, hc, he⟩ := Option.map_eq_some_iff.mp h
        cases he
        rw [List.cons_append, ← ih hc]

/-- The text before a cut does not hold the mark. -/
theorem not_infix_of_cut? {t mark head tail : Text} (hm : mark ≠ []) (h : t.cut? mark = some (head, tail)) :
    ¬ mark <:+: head := by
  induction t generalizing head with
  | nil =>
      cases mark with
      | nil => exact absurd rfl hm
      | cons c mark => cases h
  | cons c t ih =>
      rw [cut?] at h
      split at h
      · cases h
        rw [List.infix_nil]
        exact hm
      · rename_i hn
        obtain ⟨⟨front, rest⟩, hc, he⟩ := Option.map_eq_some_iff.mp h
        cases he
        rw [List.infix_cons_iff, not_or]
        refine ⟨?_, ih hc⟩
        -- A mark at the start of the front would have been found there.
        intro hp
        have ht : c :: t = c :: front ++ (mark ++ tail) := by
          rw [eq_append_of_cut? hc]
          rfl
        rw [after?_eq_none_iff, ht] at hn
        exact hn (hp.trans (List.prefix_append _ _))

/-- A mark whose first character occurs only once in it is cut at its first occurrence. -/
theorem cut?_of_not_infix {c : Char} {head mark : Text} (hc : c ∉ mark) (h : ¬ c :: mark <:+: head) (rest : Text) :
    cut? (head ++ (c :: mark ++ rest)) (c :: mark) = some (head, rest) := by
  obtain ⟨front, tail, ht, hf⟩ := cut?_of_mark hc head rest
  obtain rfl := hf (includes_eq_false_iff.mpr h)
  have he := eq_append_of_cut? ht
  rw [List.append_cancel_left_eq, List.append_cancel_left_eq] at he
  rw [ht, he]

/-! ## The last character -/

theorem mem_getLast?_append {x y : Text} {c : Char} (h : c ∈ (x ++ y).getLast?) :
    c ∈ y.getLast? ∨ y = [] ∧ c ∈ x.getLast? := by
  rw [List.getLast?_append] at h
  cases hy : y.getLast? with
  | none =>
      rw [hy, Option.none_or] at h
      exact .inr ⟨List.getLast?_eq_none_iff.mp hy, h⟩
  | some d =>
      rw [hy] at h
      exact .inl h

/-! ## Separators -/

theorem append_cons_inj {x y x' y' : Text} {c : Char} (hx : c ∉ x) (hx' : c ∉ x') (h : x ++ c :: y = x' ++ c :: y') :
    x = x' ∧ y = y' := by
  have hc : cut? (x ++ ([c] ++ y)) [c] = some (x, y) := cut?_append hx [] y
  have hc' : cut? (x' ++ ([c] ++ y')) [c] = some (x', y') := cut?_append hx' [] y'
  rw [show x ++ ([c] ++ y) = x' ++ ([c] ++ y') from h, hc'] at hc
  cases hc
  exact ⟨rfl, rfl⟩

/-- A mark does not reach over a place where one of the characters beside it is not in the mark. -/
theorem not_infix_append {mark x y : Text} (hx : ¬ mark <:+: x) (hy : ¬ mark <:+: y)
    (h : (∀ c ∈ x.getLast?, c ∉ mark) ∨ ∀ c ∈ y.head?, c ∉ mark) : ¬ mark <:+: x ++ y := by
  intro hm
  rcases List.infix_append_iff.mp hm with hm | hm | ⟨u, v, rfl, hu, hv⟩
  · exact hx hm
  · exact hy hm
  · cases v with
    | nil => exact hx (by rw [List.append_nil]; exact hu.isInfix)
    | cons d v =>
        rcases List.eq_nil_or_concat u with rfl | ⟨u, c, rfl⟩
        · exact hy hv.isInfix
        · rw [List.concat_eq_append] at hu h
          obtain ⟨x, rfl⟩ := hu
          obtain ⟨y, rfl⟩ := hv
          rcases h with h | h
          · exact h c (by simp) (by simp)
          · exact h d rfl (by simp)

/-- A mark cannot reach over a character that it does not hold. -/
theorem not_infix_append_cons {mark x y : Text} {c : Char} (hc : c ∉ mark) (hx : ¬ mark <:+: x)
    (hy : ¬ mark <:+: y) : ¬ mark <:+: x ++ c :: y := by
  have hcy : ¬ mark <:+: [c] ++ y := by
    refine not_infix_append ?_ hy (.inl fun d hd => ?_)
    · intro hm
      rcases (List.infix_singleton_iff _ _).mp hm with rfl | rfl
      · exact hx List.nil_infix
      · exact hc List.mem_cons_self
    · cases hd
      exact hc
  exact not_infix_append hx hcy (.inr fun d hd => by cases hd; exact hc)

theorem prefix_of_prefix_append {mark x y : Text} (h : mark <+: x ++ y) (hy : ∀ c ∈ y.head?, c ∉ mark) :
    mark <+: x := by
  rcases List.prefix_or_prefix_of_prefix h (List.prefix_append x y) with h | ⟨v, rfl⟩
  · exact h
  · rw [List.prefix_append_right_inj] at h
    cases v with
    | nil => rw [List.append_nil]
    | cons c v =>
        obtain ⟨y, rfl⟩ := h
        exact absurd (List.mem_append_right x List.mem_cons_self) (hy c rfl)

theorem takeWhile_ne_append_cons {c : Char} {x : Text} (h : c ∉ x) (rest : Text) :
    (x ++ c :: rest).takeWhile (· != c) = x := by
  refine takeWhile_append (fun d hd => ?_) (by simp)
  rw [bne_iff_ne]
  rintro rfl
  exact h hd

/-! ## Texts with one place for a mark -/

theorem after?_cons_cons (c : Char) (t mark : Text) : after? (c :: t) (c :: mark) = after? t mark := by
  simp [after?]

/-- A mark is looked for where its first character stands. -/
theorem cut?_append_cons {c : Char} {head tail : Text} (hh : c ∉ head) (ht : c ∉ tail) (mark : Text) :
    cut? (head ++ c :: tail) (c :: mark) = (tail.after? mark).map fun rest => (head, rest) := by
  induction head with
  | nil =>
      rw [List.nil_append, cut?, after?_cons_cons]
      cases tail.after? mark with
      | some rest => rfl
      | none => rw [cut?_eq_none ht]; rfl
  | cons d head ih =>
      rw [List.cons_append, cut?, after?_cons_of_ne (List.ne_of_not_mem_cons hh).symm, ih (List.not_mem_of_not_mem_cons hh)]
      cases tail.after? mark <;> rfl

/-- A text that does not hold the first character of a mark is passed over. -/
theorem cut?_append_left {c : Char} {x : Text} (h : c ∉ x) (t mark : Text) :
    cut? (x ++ t) (c :: mark) = (cut? t (c :: mark)).map fun (head, tail) => (x ++ head, tail) := by
  induction x with
  | nil => simp
  | cons d x ih =>
      rw [List.cons_append, cut?, after?_cons_of_ne (List.ne_of_not_mem_cons h).symm, ih (List.not_mem_of_not_mem_cons h),
        Option.map_map]
      rfl

/-- A search that answers at one character only answers at its only place. -/
theorem search_append_cons {α : Type} {f : Text → Option α} {c : Char} (hf : ∀ d t, d ≠ c → f (d :: t) = none)
    {head tail : Text} (hh : c ∉ head) (ht : c ∉ tail) : search f (head ++ c :: tail) = f (c :: tail) := by
  have hnone : ∀ t : Text, c ∉ t → search f t = none := by
    intro t ht
    induction t with
    | nil => rfl
    | cons d t ih =>
        rw [search, hf d t (List.ne_of_not_mem_cons ht).symm, ih (List.not_mem_of_not_mem_cons ht)]
  induction head with
  | nil =>
      rw [List.nil_append, search, hnone tail ht]
      cases f (c :: tail) <;> rfl
  | cons d head ih =>
      rw [List.cons_append, search, hf d _ (List.ne_of_not_mem_cons hh).symm, ih (List.not_mem_of_not_mem_cons hh)]

/-- What follows a mark is followed by what follows the text. -/
theorem after?_append_cons {c : Char} {mark : Text} (hc : c ∉ mark) (t rest : Text) :
    after? (t ++ c :: rest) mark = (t.after? mark).map (· ++ c :: rest) := by
  cases hm : t.after? mark with
  | some tail =>
      rw [eq_append_of_after? hm, List.append_assoc, after?_append]
      rfl
  | none =>
      rw [Option.map_none, after?_eq_none_iff]
      intro hp
      refine after?_eq_none_iff.mp hm (prefix_of_prefix_append hp fun d hd => ?_)
      cases hd
      exact hc

/-! ## Blocks that outlast a change -/

theorem infix_of_infix_append_left {c : Char} {r x y : Text} (hc : c ∉ x) (h : c :: r <:+: x ++ y) : c :: r <:+: y := by
  induction x with
  | nil => exact h
  | cons d x ih =>
      rcases List.infix_cons_iff.mp h with h | h
      · exact absurd (List.cons_prefix_cons.mp h).1 (List.ne_of_not_mem_cons hc)
      · exact ih (List.not_mem_of_not_mem_cons hc) h

theorem infix_of_infix_append_right {c : Char} {r x y : Text} (hc : c ∉ y) (h : r ++ [c] <:+: x ++ y) :
    r ++ [c] <:+: x := by
  rw [← List.reverse_infix] at h ⊢
  simp only [List.reverse_append, List.reverse_cons, List.reverse_nil, List.nil_append, List.singleton_append] at h ⊢
  exact infix_of_infix_append_left (by simpa using hc) h

/-- A block with the character `c` at its end only is on one side of a mark that it does not hold, unless the mark
holds `c`. -/
theorem infix_or_infix_of_infix_append {c : Char} {r x mark y : Text} (hc : c ∉ mark) (hm : ¬ mark <:+: r ++ [c])
    (h : r ++ [c] <:+: x ++ (mark ++ y)) : r ++ [c] <:+: x ∨ r ++ [c] <:+: mark ++ y := by
  rcases List.infix_append_iff.mp h with h | h | ⟨u, v, he, hu, hv⟩
  · exact .inl h
  · exact .inr h
  · rcases List.prefix_or_prefix_of_prefix hv (List.prefix_append mark y) with hv | hv
    · -- What lies in the mark is not the end of the block.
      rcases List.eq_nil_or_concat v with rfl | ⟨v, d, rfl⟩
      · rw [List.append_nil] at he
        exact .inl (he ▸ hu.isInfix)
      · rw [List.concat_eq_append, ← List.append_assoc] at he
        have hd : c = d := (List.append_inj' he rfl).2 |> List.singleton_inj.mp
        exact absurd (hv.subset (by simp [hd])) hc
    · exact absurd (hv.isInfix.trans (he ▸ (List.suffix_append u v).isInfix)) hm

theorem infix_erase {c : Char} {r t : Text} (hc : c ∉ r) (h : r <:+: t) : r <:+: t.erase c := by
  obtain ⟨x, y, rfl⟩ := h
  by_cases hx : c ∈ x
  · rw [List.append_assoc, List.erase_append_left _ hx, ← List.append_assoc]
    exact ⟨_, y, rfl⟩
  · rw [List.append_assoc, List.erase_append_right _ hx, List.erase_append_right _ hc, ← List.append_assoc]
    exact ⟨x, _, rfl⟩

end Text

end AsmBridge
