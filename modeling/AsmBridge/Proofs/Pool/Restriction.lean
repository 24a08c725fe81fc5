import AsmBridge.Proofs.Pool.Lemmas.Reference
import Mathlib.Data.List.Forall2

/-!
# Tables for the references of lines

The references of a line are found from left to right, each behind the one before it. A table is cut down to the labels that
lines refer to, and the first reference without a label refuses the lines.
-/

namespace AsmBridge

/-! ## References as they are written -/

/-- Whether a text has a reference behind `before`, to a name that is not empty and ends at the first closing bracket. -/
structure HasReference (t before name tail : Text) : Prop where
  text : t = before ++ (ripOpening ++ (name ++ ']' :: tail))
  nonempty : name ≠ []
  closed : ']' ∉ name

/-- The symbols that a text refers to, from left to right: the first reference, and those behind it. -/
inductive RefersTo : Text → List Text → Prop
  | done {t : Text} (h : ∀ before name tail, ¬ HasReference t before name tail) : RefersTo t []
  | next {t before name tail : Text} {names : List Text} (h : HasReference t before name tail)
      (first : ∀ other name' tail', HasReference t other name' tail' → before.length ≤ other.length)
      (rest : RefersTo tail names) : RefersTo t (name.trim :: names)

theorem HasReference.cons {t before name tail : Text} (h : HasReference t before name tail) (c : Char) :
    HasReference (c :: t) (c :: before) name tail :=
  ⟨congrArg (c :: ·) h.text, h.nonempty, h.closed⟩

theorem hasReference_nil_iff {t name tail : Text} : HasReference t [] name tail ↔ referenceAt? t = some (name, tail) := by
  refine ⟨fun h => ?_, fun h => ?_⟩
  · rw [h.text, List.nil_append]
    exact referenceAt?_append h.nonempty h.closed tail
  · obtain ⟨hn, hc, he⟩ := exists_of_referenceAt? h
    exact ⟨he, hn, hc⟩

/-- Nothing is found in front of the first reference. -/
theorem references_of_first {t before name tail : Text} (h : HasReference t before name tail)
    (first : ∀ other name' tail', HasReference t other name' tail' → before.length ≤ other.length) :
    references t = name.trim :: references tail := by
  induction before generalizing t with
  | nil => exact references_of_eq_some (hasReference_nil_iff.mp h)
  | cons c before ih =>
      obtain ⟨t, rfl⟩ : ∃ r, t = c :: r := ⟨_, h.text⟩
      have hnone : referenceAt? (c :: t) = none := by
        by_contra hsome
        obtain ⟨found, hfound⟩ := Option.ne_none_iff_exists'.mp hsome
        exact absurd (first [] found.1 found.2 (hasReference_nil_iff.mpr hfound)) (by simp)
      rw [references_of_eq_none hnone]
      refine ih ⟨(List.cons.inj h.text).2, h.nonempty, h.closed⟩ fun other name' tail' hother => ?_
      exact Nat.le_of_succ_le_succ (first (c :: other) name' tail' (hother.cons c))

theorem references_eq_nil_of_none {t : Text} (h : ∀ before name tail, ¬ HasReference t before name tail) : references t = [] := by
  induction t with
  | nil => rw [references]
  | cons c t ih =>
      have hnone : referenceAt? (c :: t) = none := by
        by_contra hsome
        obtain ⟨found, hfound⟩ := Option.ne_none_iff_exists'.mp hsome
        exact h [] found.1 found.2 (hasReference_nil_iff.mpr hfound)
      rw [references_of_eq_none hnone]
      exact ih fun before name tail hother => h (c :: before) name tail (hother.cons c)

/-- A character that opens no reference changes nothing. -/
theorem RefersTo.skip {t : Text} {names : List Text} (h : RefersTo t names) {c : Char} (hc : referenceAt? (c :: t) = none) :
    RefersTo (c :: t) names := by
  have hsplit {other name tail : Text} (hother : HasReference (c :: t) other name tail) :
      ∃ before, other = c :: before ∧ HasReference t before name tail := by
    cases other with
    | nil =>
        rw [hasReference_nil_iff.mp hother] at hc
        cases hc
    | cons d before =>
        obtain ⟨rfl, htext⟩ := List.cons.inj hother.text
        exact ⟨before, rfl, htext, hother.nonempty, hother.closed⟩
  cases h with
  | done h =>
      refine .done fun other name tail hother => ?_
      obtain ⟨before, -, hbefore⟩ := hsplit hother
      exact h before name tail hbefore
  | next h first rest =>
      refine .next (h.cons c) (fun other name' tail' hother => ?_) rest
      obtain ⟨before, rfl, hbefore⟩ := hsplit hother
      exact Nat.succ_le_succ (first before name' tail' hbefore)

theorem refersTo_references (t : Text) : RefersTo t (references t) := by
  fun_induction references t with
  | case1 =>
      refine .done fun before name tail h => ?_
      have hlength := congrArg List.length h.text
      simp at hlength
  | case2 c t name tail h ih => exact .next (hasReference_nil_iff.mpr h) (fun _ _ _ _ => Nat.zero_le _) ih
  | case3 c t h ih => exact ih.skip h

/-- The references of a text are read in one way. -/
theorem refersTo_iff {t : Text} {names : List Text} : RefersTo t names ↔ names = references t := by
  refine ⟨fun h => ?_, fun h => h ▸ refersTo_references t⟩
  induction h with
  | done h => exact (references_eq_nil_of_none h).symm
  | next h first rest ih => rw [references_of_first h first, ih]

theorem forall₂_refersTo_iff {lines : List Text} {written : List (List Text)} :
    List.Forall₂ RefersTo lines written ↔ written = lines.map references := by
  have hrefersTo : RefersTo = fun t names => references t = names := funext₂ fun t names => propext (refersTo_iff.trans eq_comm)
  rw [hrefersTo, ← List.forall₂_map_left_iff, List.forall₂_eq_eq_eq, eq_comm]

/-! ## Tables -/

/-- Lines are refused exactly where one of their references has no label in the table, and with the first such reference.
Otherwise the table is cut down to the labels that are referred to, and gives the same label for each reference. -/
theorem restrictTable_selects (table : Table) (lines : List Text) :
    ∃ written, (∀ other, List.Forall₂ RefersTo lines other ↔ other = written) ∧
      let names := written.flatten
      ((∃ fault, restrictTable table lines = .error fault) ↔ ∃ name ∈ names, ¬ table.Has name) ∧
      (∀ fault, restrictTable table lines = .error fault →
        ∃ symbol, fault = .unresolved symbol ∧ table.IsFirstUnknown names symbol) ∧
      ∀ used, restrictTable table lines = .ok used →
        used.name = table.name ∧ used.labels = table.labels.filter (fun label => label.name ∈ names) ∧
          (∀ name ∈ names, ∃ label, table.lookup? name = some label ∧ used.lookup? name = some label) ∧
          ∀ name, name ∉ names → used.lookup? name = none := by
  refine ⟨lines.map references, fun other => forall₂_refersTo_iff, ?_⟩
  intro names
  have hnames : names = lines.flatMap references := List.flatMap_def.symm
  rw [hnames]
  refine ⟨⟨?_, ?_⟩, fun fault h => restrictTable_eq_error_iff.mp h, fun used h => ?_⟩
  · rintro ⟨fault, h⟩
    obtain ⟨symbol, -, hunknown, front, back, hsplit, -⟩ := restrictTable_eq_error_iff.mp h
    exact ⟨symbol, hsplit ▸ List.mem_append_right front List.mem_cons_self, hunknown⟩
  · rintro ⟨name, hm, hunknown⟩
    cases h : restrictTable table lines with
    | error fault => exact ⟨fault, rfl⟩
    | ok used => exact absurd ((restrictTable_eq_ok_iff.mp h).1 name hm) hunknown
  · obtain ⟨-, hused⟩ := restrictTable_eq_ok_iff.mp h
    obtain ⟨hname, hlookup⟩ := exists_of_restrictTable h
    refine ⟨hname, ?_, hlookup, fun name hm => ?_⟩
    · rw [hused, Table.restrict]
      simp only [List.contains_eq_mem]
    · rw [hused]
      exact Table.lookup?_restrict_of_not_mem hm

end AsmBridge
