import AsmBridge.Text.Basic
import Mathlib.Data.List.TakeWhile

/-!
# Searches and cuts

A text is cut at the first place where a mark can start.
-/

namespace AsmBridge

namespace Text

/-! ## Searches -/

/-- A search passes over what gives no answer. -/
theorem search_append {α : Type} {f : Text → Option α} {found : Text} {a : α} (hn : found ≠ [])
    (hf : f found = some a) (head : Text)
    (h : ∀ c t, f (c :: t ++ found) = none) : search f (head ++ found) = some a := by
  induction head with
  | nil =>
      cases found with
      | nil => exact absurd rfl hn
      | cons c t => rw [List.nil_append, search, hf]
  | cons c head ih => rw [List.cons_append, search, ← List.cons_append, h c head, ih]

/-- A search answers where an answer is to be found, be it here or before. -/
theorem isSome_search_append {α : Type} {f : Text → Option α} {found : Text} (hn : found ≠ []) (hf : (f found).isSome)
    (head : Text) : (search f (head ++ found)).isSome := by
  induction head with
  | nil =>
      cases found with
      | nil => exact absurd rfl hn
      | cons c t =>
          rw [List.nil_append, search]
          cases hs : f (c :: t) with
          | none => simp [hs] at hf
          | some a => rfl
  | cons c head ih =>
      rw [List.cons_append, search]
      cases f (c :: (head ++ found)) with
      | none => exact ih
      | some a => rfl

theorem exists_of_search {α : Type} {f : Text → Option α} {t : Text} {a : α} (h : search f t = some a) :
    ∃ head rest, t = head ++ rest ∧ f rest = some a := by
  induction t with
  | nil => cases h
  | cons c t ih =>
      rw [search] at h
      split at h
      · rename_i hf
        cases h
        exact ⟨[], c :: t, rfl, hf⟩
      · obtain ⟨head, rest, rfl, hf⟩ := ih h
        exact ⟨c :: head, rest, rfl, hf⟩

/-! ## Spans -/

section

variable {p : Char → Bool} {x rest : Text} (hx : ∀ c ∈ x, p c) (hr : ∀ c ∈ rest.head?, p c = false)
include hx hr

theorem takeWhile_append : (x ++ rest).takeWhile p = x := by
  rw [List.takeWhile_append_of_pos hx]
  cases rest with
  | nil => exact List.append_nil x
  | cons c rest => simp [hr c rfl]

theorem dropWhile_append : (x ++ rest).dropWhile p = rest := by
  rw [List.dropWhile_append_of_pos hx]
  cases rest with
  | nil => rfl
  | cons c rest => simp [hr c rfl]

end

theorem takeWhile_append_cons {p : Char → Bool} {c : Char} (hc : p c = false) (x rest : Text) :
    (x ++ c :: rest).takeWhile p = x.takeWhile p := by
  induction x with
  | nil => rw [List.nil_append, List.takeWhile_cons_of_neg (by simp [hc]), List.takeWhile_nil]
  | cons d x ih => rw [List.cons_append, List.takeWhile_cons, List.takeWhile_cons, ih]

theorem dropWhile_append_cons {p : Char → Bool} {c : Char} (hc : p c = false) (x rest : Text) :
    (x ++ c :: rest).dropWhile p = x.dropWhile p ++ c :: rest := by
  induction x with
  | nil => rw [List.nil_append, List.dropWhile_cons_of_neg (by simp [hc]), List.dropWhile_nil, List.nil_append]
  | cons d x ih =>
      rw [List.cons_append, List.dropWhile_cons, List.dropWhile_cons, ih]
      split
      · rfl
      · rfl

theorem dropWhile_append_of_ne_nil {p : Char → Bool} {x : Text} (h : x.dropWhile p ≠ []) (rest : Text) :
    (x ++ rest).dropWhile p = x.dropWhile p ++ rest :=
  List.dropWhile_append.trans (if_neg fun he => h (List.isEmpty_iff.mp he))

theorem firstLine_eq_self {t : Text} (h : '\n' ∉ t) : t.firstLine = t :=
  List.takeWhile_eq_self_iff.mpr fun _ hc => bne_iff_ne.mpr (ne_of_mem_of_not_mem hc h)

theorem isOneLine_of_not_mem {t : Text} (h : '\n' ∉ t) : t.isOneLine = true := by
  have hd : t.dropWhile (· != '\n') = [] :=
    List.dropWhile_eq_nil_iff.mpr fun _ hc => bne_iff_ne.mpr (ne_of_mem_of_not_mem hc h)
  rw [isOneLine, hd]

/-! ## Cuts -/

theorem after?_append (mark rest : Text) : after? (mark ++ rest) mark = some rest := by
  simp [after?]

theorem eq_append_of_after? {t mark rest : Text} (h : t.after? mark = some rest) : t = mark ++ rest := by
  unfold after? at h
  split at h
  · rename_i hp
    obtain ⟨rest', rfl⟩ := List.isPrefixOf_iff_prefix.mp hp
    rw [List.drop_left] at h
    rw [Option.some.inj h]
  · cases h

theorem after?_cons_of_ne {c d : Char} {r mark : Text} (h : c ≠ d) : after? (c :: r) (d :: mark) = none := by
  simp [after?, h.symm]

theorem cut?_mark (c : Char) (mark rest : Text) :
    cut? (c :: mark ++ rest) (c :: mark) = some ([], rest) := by
  have h := after?_append (c :: mark) rest
  rw [List.cons_append] at h ⊢
  rw [cut?, h]

theorem cut?_append {head : Text} {c : Char} (h : c ∉ head) (mark rest : Text) :
    cut? (head ++ (c :: mark ++ rest)) (c :: mark) = some (head, rest) := by
  induction head with
  | nil => exact cut?_mark c mark rest
  | cons d head ih =>
      simp only [List.mem_cons, not_or] at h
      rw [List.cons_append, cut?, after?_cons_of_ne (Ne.symm h.1), ih h.2]
      rfl

theorem cut?_eq_none {t : Text} {c : Char} (h : c ∉ t) (mark : Text) : cut? t (c :: mark) = none := by
  induction t with
  | nil => rfl
  | cons d t ih =>
      simp only [List.mem_cons, not_or] at h
      rw [cut?, after?_cons_of_ne (Ne.symm h.1), ih h.2]
      rfl

/-- A mark whose first character occurs only once in it does not overlap with itself. -/
theorem eq_append_of_after?_mark {c d : Char} {head mark rest rest' : Text} (hc : c ∉ mark)
    (h : after? (d :: head ++ (c :: mark ++ rest)) (c :: mark) = some rest') :
    ∃ t, d :: head = c :: mark ++ t := by
  have he : d :: head ++ (c :: mark ++ rest) = c :: mark ++ rest' := eq_append_of_after? h
  rcases List.append_eq_append_iff.mp he with ⟨t, ht, hr⟩ | ⟨t, ht, -⟩
  · cases t with
    | nil => exact ⟨[], by rw [List.append_nil] at ht ⊢; exact ht.symm⟩
    | cons x t =>
        have hx : c = x := (List.cons.inj hr).1
        have hm : mark = head ++ x :: t := (List.cons.inj ht).2
        exact absurd (hm ▸ hx ▸ List.mem_append_right head List.mem_cons_self) hc
  · exact ⟨t, ht⟩

/-- A text that holds such a mark is cut, and at this mark where none lies before it. -/
theorem cut?_of_mark {c : Char} {mark : Text} (hc : c ∉ mark) (head rest : Text) :
    ∃ front tail, cut? (head ++ (c :: mark ++ rest)) (c :: mark) = some (front, tail) ∧
      (head.includes (c :: mark) = false → front = head) := by
  induction head with
  | nil => exact ⟨[], rest, cut?_mark c mark rest, fun _ => rfl⟩
  | cons d head ih =>
      obtain ⟨front, tail, hf, hi⟩ := ih
      rw [List.cons_append, cut?]
      cases ha : after? (d :: (head ++ (c :: mark ++ rest))) (c :: mark) with
      | some rest' =>
          refine ⟨[], rest', rfl, fun h => ?_⟩
          obtain ⟨t, ht⟩ := eq_append_of_after?_mark hc ha
          rw [ht, includes, cut?_mark] at h
          cases h
      | none =>
          refine ⟨d :: front, tail, by rw [hf]; rfl, fun h => ?_⟩
          rw [hi]
          cases hh : after? (d :: head) (c :: mark) with
          | some t => simp only [includes, cut?, hh, Option.isSome_some, Bool.true_eq_false] at h
          | none => simpa only [includes, cut?, hh, Option.isSome_map] using h

end Text

end AsmBridge
