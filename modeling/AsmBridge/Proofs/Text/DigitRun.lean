import AsmBridge.Proofs.Text.Blank

/-!
# Runs of digits

How many decimal digits stand side by side in a text. No part of a text has a longer run, and where texts are put together
their runs at most add up.
-/

namespace AsmBridge

namespace Text

/-- The length of the longest run of digits, where `count` digits stand in front of the text. -/
def longestRunAfter (count : Nat) : Text → Nat
  | [] => count
  | c :: t => if isDecimalDigit c then longestRunAfter (count + 1) t else max count (longestRunAfter 0 t)

/-- The length of the longest run of decimal digits of any script. -/
def longestRun (t : Text) : Nat :=
  longestRunAfter 0 t

variable {count : Nat} {c : Char}

theorem longestRunAfter_of_digit (hc : isDecimalDigit c = true) (t : Text) :
    longestRunAfter count (c :: t) = longestRunAfter (count + 1) t :=
  if_pos hc

theorem longestRunAfter_of_not_digit (hc : isDecimalDigit c = false) (t : Text) :
    longestRunAfter count (c :: t) = max count t.longestRun :=
  if_neg (Bool.eq_false_iff.mp hc)

theorem longestRunAfter_cons_congr {x y : Text} (h : ∀ count, longestRunAfter count x = longestRunAfter count y)
    (count : Nat) (c : Char) : longestRunAfter count (c :: x) = longestRunAfter count (c :: y) := by
  cases hc : isDecimalDigit c with
  | true => rw [longestRunAfter_of_digit hc, longestRunAfter_of_digit hc, h]
  | false => rw [longestRunAfter_of_not_digit hc, longestRunAfter_of_not_digit hc, longestRun, longestRun, h]

/-! ## Parts of a text -/

theorem longestRunAfter_append_cons (hc : isDecimalDigit c = false) (x y : Text) :
    longestRunAfter count (x ++ c :: y) = max (longestRunAfter count x) y.longestRun := by
  induction x generalizing count with
  | nil => exact longestRunAfter_of_not_digit hc y
  | cons d x ih =>
      cases hd : isDecimalDigit d with
      | true => rw [List.cons_append, longestRunAfter_of_digit hd, longestRunAfter_of_digit hd, ih]
      | false =>
          rw [List.cons_append, longestRunAfter_of_not_digit hd, longestRunAfter_of_not_digit hd, longestRun, longestRun, ih,
            Nat.max_assoc]

theorem longestRun_append_of_not_digit {x : Text} (hx : ∀ c ∈ x, isDecimalDigit c = false) (y : Text) :
    longestRun (x ++ y) = y.longestRun := by
  induction x with
  | nil => rfl
  | cons c x ih =>
      obtain ⟨hc, hx⟩ := List.forall_mem_cons.mp hx
      rw [List.cons_append, longestRun, longestRunAfter_of_not_digit hc, Nat.zero_max, ih hx]

theorem longestRunAfter_of_digits {t : Text} (ht : ∀ c ∈ t, isDecimalDigit c = true) :
    longestRunAfter count t = count + t.length := by
  induction t generalizing count with
  | nil => rfl
  | cons c t ih =>
      obtain ⟨hc, ht⟩ := List.forall_mem_cons.mp ht
      rw [longestRunAfter_of_digit hc, ih ht, List.length_cons]
      omega

theorem le_longestRunAfter (count : Nat) (t : Text) : count ≤ longestRunAfter count t := by
  induction t generalizing count with
  | nil => exact Nat.le_refl _
  | cons c t ih =>
      cases hc : isDecimalDigit c with
      | true =>
          rw [longestRunAfter_of_digit hc]
          exact (Nat.le_succ count).trans (ih (count + 1))
      | false =>
          rw [longestRunAfter_of_not_digit hc]
          exact Nat.le_max_left _ _

/-- Digits in front of a text add to its first run only. -/
theorem longestRunAfter_add (more count : Nat) (t : Text) :
    longestRunAfter count t ≤ longestRunAfter (more + count) t ∧
      longestRunAfter (more + count) t ≤ more + longestRunAfter count t := by
  induction t generalizing count with
  | nil => exact ⟨Nat.le_add_left _ _, Nat.le_refl _⟩
  | cons c t ih =>
      cases hc : isDecimalDigit c with
      | true =>
          rw [longestRunAfter_of_digit hc, longestRunAfter_of_digit hc]
          exact ih (count + 1)
      | false =>
          rw [longestRunAfter_of_not_digit hc, longestRunAfter_of_not_digit hc]
          omega

theorem longestRunAfter_append (count : Nat) (x y : Text) :
    longestRunAfter count x ≤ longestRunAfter count (x ++ y) ∧ y.longestRun ≤ longestRunAfter count (x ++ y) ∧
      longestRunAfter count (x ++ y) ≤ longestRunAfter count x + y.longestRun := by
  -- For all counts: a digit adds to the count, and any other character ends the run before the induction goes on.
  induction x generalizing count with
  | nil => exact ⟨le_longestRunAfter count y, longestRunAfter_add count 0 y⟩
  | cons c x ih =>
      cases hc : isDecimalDigit c with
      | true =>
          rw [List.cons_append, longestRunAfter_of_digit hc, longestRunAfter_of_digit hc]
          exact ih (count + 1)
      | false =>
          obtain ⟨hleft, hright, hsum⟩ := ih 0
          rw [List.cons_append, longestRunAfter_of_not_digit hc, longestRunAfter_of_not_digit hc]
          simp only [longestRun] at hright hsum ⊢
          omega

theorem longestRun_append_le (x y : Text) : longestRun (x ++ y) ≤ x.longestRun + y.longestRun :=
  (longestRunAfter_append 0 x y).2.2

theorem longestRun_le_of_isInfix {s t : Text} (h : s <:+: t) : s.longestRun ≤ t.longestRun := by
  obtain ⟨x, y, rfl⟩ := h
  rw [List.append_assoc]
  exact (longestRunAfter_append 0 s y).1.trans (longestRunAfter_append 0 x (s ++ y)).2.1

/-- Digits that stand side by side are no more than the longest run. -/
theorem length_le_longestRun {digits t : Text} (hd : ∀ c ∈ digits, isDecimalDigit c = true) (h : digits <:+: t) :
    digits.length ≤ t.longestRun := by
  have hrun := longestRun_le_of_isInfix h
  rwa [longestRun, longestRunAfter_of_digits hd, Nat.zero_add] at hrun

/-! ## Texts that are put together -/

/-- Whether a text is put together from `n` texts or fewer, none of which has more than `limit` digits side by side. -/
def IsJoined (limit n : Nat) (t : Text) : Prop :=
  ∃ parts : List Text, t = parts.flatten ∧ parts.length ≤ n ∧ ∀ part ∈ parts, part.longestRun ≤ limit

namespace IsJoined

variable {limit m n : Nat} {t x y : Text}

theorem of_longestRun_le (h : t.longestRun ≤ limit) : IsJoined limit 1 t :=
  ⟨[t], by simp, Nat.le_refl 1, List.forall_mem_singleton.mpr h⟩

theorem append (hx : IsJoined limit m x) (hy : IsJoined limit n y) : IsJoined limit (m + n) (x ++ y) := by
  obtain ⟨xs, rfl, hxs, hx⟩ := hx
  obtain ⟨ys, rfl, hys, hy⟩ := hy
  exact ⟨xs ++ ys, List.flatten_append.symm, by rw [List.length_append]; omega, List.forall_mem_append.mpr ⟨hx, hy⟩⟩

theorem mono (h : IsJoined limit m t) (hm : m ≤ n) : IsJoined limit n t := by
  obtain ⟨parts, ht, hl, hparts⟩ := h
  exact ⟨parts, ht, hl.trans hm, hparts⟩

/-- A cut divides one of the texts at most. -/
theorem split (h : IsJoined limit n (x ++ y)) :
    ∃ a b, a ≤ n ∧ b ≤ n ∧ a + b ≤ n + 1 ∧ IsJoined limit a x ∧ IsJoined limit b y := by
  obtain ⟨parts, he, hn, hparts⟩ := h
  -- The cut is between two of the texts, or it is inside one, which then counts on both sides.
  rcases List.flatten_eq_append_iff.mp he.symm with ⟨xs, ys, rfl, rfl, rfl⟩ | ⟨xs, u, c, v, ys, rfl, rfl, rfl⟩
  · rw [List.length_append] at hn
    obtain ⟨hxs, hys⟩ := List.forall_mem_append.mp hparts
    exact ⟨xs.length, ys.length, by omega, by omega, by omega, ⟨xs, rfl, Nat.le_refl _, hxs⟩, ⟨ys, rfl, Nat.le_refl _, hys⟩⟩
  · rw [List.length_append, List.length_cons] at hn
    obtain ⟨hxs, hcut, hys⟩ := (List.forall_mem_append.trans (and_congr_right fun _ => List.forall_mem_cons)).mp hparts
    have hu := (longestRun_le_of_isInfix (List.prefix_append u (c :: v)).isInfix).trans hcut
    have hv := (longestRun_le_of_isInfix (List.suffix_append u (c :: v)).isInfix).trans hcut
    refine ⟨xs.length + 1, 1 + ys.length, by omega, by omega, by omega, ?_, ?_⟩
    · exact append ⟨xs, rfl, Nat.le_refl _, hxs⟩ (of_longestRun_le hu)
    · exact append (of_longestRun_le hv) ⟨ys, rfl, Nat.le_refl _, hys⟩

theorem of_infix (h : IsJoined limit n t) (hs : x <:+: t) : IsJoined limit n x := by
  obtain ⟨front, back, rfl⟩ := hs
  rw [List.append_assoc] at h
  obtain ⟨-, m, -, hm, -, -, h⟩ := h.split
  obtain ⟨k, -, hk, -, -, h, -⟩ := h.split
  exact h.mono (hk.trans hm)

theorem longestRun_le (h : IsJoined limit n t) : t.longestRun ≤ n * limit := by
  obtain ⟨parts, rfl, hn, hparts⟩ := h
  refine Nat.le_trans ?_ (Nat.mul_le_mul_right limit hn)
  clear hn
  induction parts with
  | nil => exact Nat.zero_le _
  | cons part parts ih =>
      obtain ⟨hpart, hparts⟩ := List.forall_mem_cons.mp hparts
      rw [List.flatten_cons, List.length_cons, Nat.succ_mul, Nat.add_comm]
      exact (longestRun_append_le _ _).trans (Nat.add_le_add hpart (ih hparts))

end IsJoined

end Text

end AsmBridge
