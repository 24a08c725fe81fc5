import AsmBridge.Code.Intel
import AsmBridge.Proofs.Number.Decimal
import AsmBridge.Proofs.Text.Blank

/-!
# What the way back to Intel syntax changes

Each of the three steps copies a text up to the place where what it looks for starts. The lemmas say which
texts a step copies whole, and what it does where a comment, an offset or a size marker stands.
-/

namespace AsmBridge

/-! ## Comments -/

theorem opening_infix_of_skipComment? {t rest : Text} (h : skipComment? t = some rest) : "/*".toList <:+: t := by
  unfold skipComment? at h
  split at h
  · rename_i r hr
    have hs : '/' :: '*' :: r <:+ t := hr ▸ List.dropWhile_suffix isBlank
    exact (List.prefix_append "/*".toList r).isInfix.trans hs.isInfix
  · cases h

/-- A text is copied up to where a comment starts. -/
theorem dropComments_append {x y : Text} (h : ∀ s, s <:+ x → s ≠ [] → skipComment? (s ++ y) = none) :
    dropComments (x ++ y) = x ++ dropComments y := by
  induction x with
  | nil => rfl
  | cons c x ih =>
      have hc : skipComment? (c :: (x ++ y)) = none := h (c :: x) List.suffix_rfl (List.cons_ne_nil c x)
      rw [List.cons_append, dropComments]
      split
      · rename_i rest hs
        rw [hc] at hs
        cases hs
      · rw [ih fun s hs => h s (hs.trans (List.suffix_cons c x)), List.cons_append]

theorem dropComments_eq_self {t : Text} (h : ¬ "/*".toList <:+: t) : dropComments t = t := by
  have ht : dropComments (t ++ []) = t ++ dropComments [] := by
    refine dropComments_append fun s hs _ => ?_
    rw [List.append_nil, ← Option.not_isSome_iff_eq_none, Option.isSome_iff_exists]
    rintro ⟨rest, hr⟩
    exact h ((opening_infix_of_skipComment? hr).trans hs.isInfix)
  rwa [dropComments, List.append_nil] at ht

/-- A comment ends with the first end mark. -/
theorem afterComment?_eq_cut? {t : Text} (hn : '\n' ∉ t) : afterComment? t = (t.cut? "*/".toList).map (·.2) := by
  fun_induction afterComment? t with
  | case1 => rfl
  | case2 r => rfl
  | case3 r => exact absurd List.mem_cons_self hn
  | case4 c r hend _ ih =>
      have ha : Text.after? (c :: r) "*/".toList = none := by
        rw [Text.after?_eq_none_iff]
        rintro ⟨rest, hr⟩
        obtain ⟨rfl, rfl⟩ := List.cons.inj hr
        exact hend rest rfl rfl
      rw [ih (List.not_mem_of_not_mem_cons hn), Text.cut?, ha]
      cases Text.cut? r "*/".toList <;> rfl

/-- A comment cannot start before the end of a text that does not end in white space. -/
theorem skipComment?_append_eq_none {code s : Text} (hc : ¬ "/*".toList <:+: code)
    (hl : ∀ c ∈ code.getLast?, isBlank c = false) (hs : s <:+ code) (hne : s ≠ []) (t : Text) :
    skipComment? (s ++ (' ' :: t)) = none := by
  obtain ⟨c, r, hr⟩ : ∃ c r, s.dropWhile isBlank = c :: r := by
    obtain ⟨x, d, rfl⟩ := (List.eq_nil_or_concat s).resolve_left hne
    rw [List.concat_eq_append] at hs ⊢
    obtain ⟨u, rfl⟩ := hs
    have hd : isBlank d = false := hl d (by simp)
    cases hx : x.dropWhile isBlank with
    | nil => exact ⟨d, [], by simp [List.dropWhile_append, hx, hd]⟩
    | cons c r => exact ⟨c, r ++ [d], by simp [List.dropWhile_append, hx]⟩
  have ht : Text.trimStart (s ++ (' ' :: t)) = c :: (r ++ (' ' :: t)) := by
    rw [Text.trimStart, List.dropWhile_append, hr]
    rfl
  have hsuf : c :: r <:+ code := (hr ▸ List.dropWhile_suffix isBlank : c :: r <:+ s).trans hs
  unfold skipComment?
  rw [ht]
  split
  · rename_i r' heq
    obtain ⟨rfl, h⟩ := List.cons.inj heq
    cases r with
    | nil => cases h
    | cons d r =>
        obtain ⟨rfl, -⟩ := List.cons.inj h
        exact absurd ((List.prefix_append "/*".toList r).isInfix.trans hsuf.isInfix) hc
  · rfl

/-- The comment behind a text goes up to its end mark, and the space before it. -/
theorem dropComments_comment {code t body rest : Text} (hc : ¬ "/*".toList <:+: code)
    (hl : ∀ c ∈ code.getLast?, isBlank c = false) (hn : '\n' ∉ t) (ht : t.cut? "*/".toList = some (body, rest)) :
    dropComments (code ++ (" /*".toList ++ t)) = code ++ dropComments rest := by
  have hskip : skipComment? (" /*".toList ++ t) = some rest := by
    have h := afterComment?_eq_cut? hn
    rw [ht] at h
    exact h
  have hrest : dropComments (" /*".toList ++ t) = dropComments rest := by
    change dropComments (' ' :: ('/' :: '*' :: t)) = _
    rw [dropComments]
    split
    · rename_i rest' hs
      change skipComment? (" /*".toList ++ t) = some rest' at hs
      rw [hskip] at hs
      cases hs
      rfl
    · rename_i hs
      change skipComment? (" /*".toList ++ t) = none at hs
      rw [hskip] at hs
      cases hs
  have hcode : dropComments (code ++ (" /*".toList ++ t)) = code ++ dropComments (" /*".toList ++ t) :=
    dropComments_append fun s hs hne => skipComment?_append_eq_none hc hl hs hne _
  rw [hcode, hrest]

/-- A comment that ends a text goes whole. -/
theorem dropComments_lastComment {code body : Text} (hc : ¬ "/*".toList <:+: code)
    (hl : ∀ c ∈ code.getLast?, isBlank c = false) (he : ¬ "*/".toList <:+: body) (hn : '\n' ∉ body) :
    dropComments (code ++ (" /*".toList ++ (body ++ " */".toList))) = code := by
  have hbody : ¬ "*/".toList <:+: body ++ ' ' :: [] := Text.not_infix_append_cons (by decide) he (by decide)
  have hcut := Text.cut?_of_not_infix (show '*' ∉ "/".toList by decide) hbody []
  have ht : body ++ " */".toList = body ++ [' '] ++ ('*' :: "/".toList ++ []) := by
    rw [List.append_assoc]
    rfl
  rw [ht, dropComments_comment hc hl (by simp [hn]) hcut, dropComments, List.append_nil]

/-! ## Offsets -/

namespace Displacement

theorem eq_append_of_unsigned? {negative : Bool} {t rest : Text} {d : Displacement}
    (h : unsigned? negative t = some (d, rest)) :
    ∃ r, t = d.digits ++ '[' :: r ∧ ∀ c ∈ d.digits, isDecimalDigit c := by
  unfold unsigned? at h
  split at h
  · rename_i c cs r hd hr
    split at h
    · cases h
      refine ⟨r, ?_, ?_⟩
      · rw [← hd, ← hr, List.takeWhile_append_dropWhile]
      · rw [← hd]
        exact List.all_eq_true.mp List.all_takeWhile
    · cases h
  · cases h

/-- In front of the bracket of an offset stand digits and a sign only. -/
theorem eq_append_of_parse? {t rest : Text} {d : Displacement} (h : parse? t = some (d, rest)) :
    ∃ before r, t = before ++ '[' :: r ∧ ∀ c ∈ before, c = '-' ∨ isDecimalDigit c := by
  unfold parse? at h
  split at h
  · obtain ⟨r, rfl, hd⟩ := eq_append_of_unsigned? h
    refine ⟨'-' :: d.digits, r, rfl, fun c hc => ?_⟩
    rcases List.mem_cons.mp hc with hc | hc
    · exact .inl hc
    · exact .inr (hd c hc)
  · obtain ⟨r, rfl, hd⟩ := eq_append_of_unsigned? h
    exact ⟨d.digits, r, rfl, fun c hc => .inr (hd c hc)⟩

theorem parse?_eq_none_of_not_mem {t : Text} (h : '[' ∉ t) : parse? t = none := by
  rw [← Option.not_isSome_iff_eq_none, Option.isSome_iff_exists]
  rintro ⟨⟨d, rest⟩, hp⟩
  obtain ⟨before, r, rfl, -⟩ := eq_append_of_parse? hp
  exact h (List.mem_append_right before List.mem_cons_self)

/-- No offset starts before a character in front of the bracket that is in no number. -/
theorem parse?_eq_none_of_mem {x y : Text} {c : Char} (hs : c ≠ '-') (hd : isDecimalDigit c = false) (hc : c ∈ x)
    (hx : '[' ∉ x) : parse? (x ++ '[' :: y) = none := by
  rw [← Option.not_isSome_iff_eq_none, Option.isSome_iff_exists]
  rintro ⟨⟨d, rest⟩, hp⟩
  obtain ⟨before, r, he, hnumber⟩ := eq_append_of_parse? hp
  have hn : '[' ∉ before := by
    intro hm
    rcases hnumber _ hm with h | h
    · exact absurd h (by decide)
    · cases h
  obtain ⟨rfl, -⟩ := Text.append_cons_inj hx hn he
  rcases hnumber c hc with h | h
  · exact hs h
  · rw [hd] at h
    cases h

theorem parse?_bracket (t : Text) : parse? ('[' :: t) = none := by
  have hd : isDecimalDigit '[' = false := rfl
  change unsigned? false ('[' :: t) = none
  rw [unsigned?, List.takeWhile_cons_of_neg (by rw [hd]; decide)]

end Displacement

/-- A text is copied up to where an offset starts. -/
theorem insertOffsets_append {x y : Text} (h : ∀ s, s <:+ x → s ≠ [] → Displacement.parse? (s ++ y) = none) :
    insertOffsets (x ++ y) = (insertOffsets y).map (x ++ ·) := by
  induction x with
  | nil =>
      cases hy : insertOffsets y with
      | error f => rw [List.nil_append, hy]; rfl
      | ok t => rw [List.nil_append, hy]; rfl
  | cons c x ih =>
      have hc : Displacement.parse? (c :: (x ++ y)) = none := h (c :: x) List.suffix_rfl (List.cons_ne_nil c x)
      rw [List.cons_append, insertOffsets]
      split
      · rename_i d rest hs
        rw [hc] at hs
        cases hs
      · rw [ih fun s hs => h s (hs.trans (List.suffix_cons c x))]
        cases insertOffsets y with
        | error f => rfl
        | ok t => rfl

theorem insertOffsets_eq_self {t : Text} (h : '[' ∉ t) : insertOffsets t = .ok t := by
  have ht : insertOffsets (t ++ []) = (insertOffsets []).map (t ++ ·) := by
    refine insertOffsets_append fun s hs _ => ?_
    rw [List.append_nil]
    exact Displacement.parse?_eq_none_of_not_mem fun hm => h (hs.subset hm)
  rw [List.append_nil, insertOffsets] at ht
  rw [ht]
  change Except.ok (t ++ []) = .ok t
  rw [List.append_nil]

theorem insertOffsets_bracket {t : Text} (h : '[' ∉ t) : insertOffsets ('[' :: t) = .ok ('[' :: t) := by
  rw [insertOffsets]
  split
  · rename_i d rest hs
    rw [Displacement.parse?_bracket] at hs
    cases hs
  · rw [insertOffsets_eq_self h]
    rfl

/-- The address at an offset from a base, as it stands between brackets. -/
def displaced (base : Text) (offset : Int) : Text :=
  base ++ (if offset < 0 then " - ".toList else " + ".toList) ++ Decimal.ofNat offset.natAbs

namespace Displacement

theorem unsigned?_ofNat (negative : Bool) (n : Nat) {base : Text} (hn : base ≠ []) (hb : ∀ c ∈ base, isWordChar c)
    (rest : Text) :
    unsigned? negative (Decimal.ofNat n ++ '[' :: (base ++ ']' :: rest)) =
      some ({ negative := negative, digits := Decimal.ofNat n, base := base }, rest) := by
  have hd : ∀ c ∈ Decimal.ofNat n, isDecimalDigit c := fun c hc =>
    Decimal.isDecimalDigit_of_isDigit (Decimal.isDigit_of_mem_ofNat hc)
  have hopen : ∀ c ∈ ('[' :: (base ++ ']' :: rest)).head?, isDecimalDigit c = false := by
    intro c hc
    cases hc
    rfl
  have hclose : ∀ c ∈ (']' :: rest).head?, isWordChar c = false := by
    intro c hc
    cases hc
    decide
  unfold unsigned?
  rw [Text.takeWhile_append hd hopen, Text.dropWhile_append hd hopen]
  split
  · rename_i d ds r hds hr
    cases hr
    rw [Text.takeWhile_append hb hclose, Text.dropWhile_append hb hclose]
    cases base with
    | nil => exact absurd rfl hn
    | cons c base =>
        rw [hds]
        rfl
  · rename_i hno
    cases hds : Decimal.ofNat n with
    | nil => exact absurd hds Decimal.ofNat_ne_nil
    | cons d ds => exact absurd rfl (hno d ds _ hds)

theorem parse?_ofInt (n : Int) {base : Text} (hn : base ≠ []) (hb : ∀ c ∈ base, isWordChar c) (rest : Text) :
    parse? (Decimal.ofInt n ++ '[' :: (base ++ ']' :: rest)) =
      some ({ negative := decide (n < 0), digits := Decimal.ofNat n.natAbs, base := base }, rest) := by
  cases n with
  | ofNat n =>
      have hs : ∀ t, Decimal.ofNat n ++ '[' :: (base ++ ']' :: rest) ≠ '-' :: t := by
        intro t ht
        cases hd : Decimal.ofNat n with
        | nil => exact absurd hd Decimal.ofNat_ne_nil
        | cons d ds =>
            have hm : d ∈ Decimal.ofNat n := hd ▸ List.mem_cons_self
            rw [hd] at ht
            rw [(List.cons.inj ht).1] at hm
            exact absurd (Decimal.isDigit_of_mem_ofNat hm) (by decide)
      change parse? (Decimal.ofNat n ++ '[' :: (base ++ ']' :: rest)) = _
      unfold parse?
      split
      · rename_i t ht
        exact absurd ht (hs t)
      · exact unsigned?_ofNat false n hn hb rest
  | negSucc n =>
      rw [decide_eq_true (Int.negSucc_lt_zero n)]
      exact unsigned?_ofNat true (n + 1) hn hb rest

theorem render_ofInt {n : Int} (h : (Decimal.ofNat n.natAbs).length ≤ Decimal.digitLimit) (base : Text) :
    render { negative := decide (n < 0), digits := Decimal.ofNat n.natAbs, base := base } =
      .ok ('[' :: (displaced base n ++ [']'])) := by
  have hsign : (decide (n < 0) && decide (n.natAbs ≠ 0)) = decide (n < 0) := by
    by_cases hneg : n < 0
    · have hne : n.natAbs ≠ 0 := by omega
      simp only [hneg, hne, decide_true, ne_eq, not_false_eq_true, Bool.and_self]
    · simp only [hneg, decide_false, Bool.false_and]
  rw [render, Decimal.read_ofNat h]
  change Except.ok ("[".toList ++ base ++ (if (decide (n < 0) && decide (n.natAbs ≠ 0)) = true then " - ".toList
    else " + ".toList) ++ Decimal.ofNat n.natAbs ++ "]".toList) = _
  rw [hsign]
  by_cases hneg : n < 0
  · simp only [displaced, hneg, decide_true, ↓reduceIte, String.reduceToList, List.cons_append, List.nil_append, List.append_assoc]
  · simp only [displaced, hneg, decide_false, Bool.false_eq_true, ↓reduceIte, String.reduceToList, List.cons_append, List.nil_append, List.append_assoc]

end Displacement

theorem insertOffsets_of_parse? {t rest : Text} {d : Displacement} (h : Displacement.parse? t = some (d, rest)) :
    insertOffsets t = d.render >>= fun operand => insertOffsets rest >>= fun after => .ok (operand ++ after) := by
  cases t with
  | nil => cases h
  | cons c t =>
      rw [insertOffsets]
      split
      · rename_i hs
        rw [h] at hs
        cases hs
        rfl
      · rename_i hs
        rw [h] at hs
        cases hs

/-- An offset in front of a base moves into the brackets. -/
theorem insertOffsets_ofInt {n : Int} (hl : (Decimal.ofNat n.natAbs).length ≤ Decimal.digitLimit) {base : Text}
    (hn : base ≠ []) (hb : ∀ c ∈ base, isWordChar c) :
    insertOffsets (Decimal.ofInt n ++ '[' :: (base ++ [']'])) = .ok ('[' :: (displaced base n ++ [']'])) := by
  rw [insertOffsets_of_parse? (Displacement.parse?_ofInt n hn hb []), Displacement.render_ofInt hl base, insertOffsets]
  change Except.ok (_ ++ []) = _
  rw [List.append_nil]

/-- An offset with more digits than can be read is refused. -/
theorem insertOffsets_of_digitLimit_lt {n : Int} (hl : Decimal.digitLimit < (Decimal.ofNat n.natAbs).length) {base : Text}
    (hn : base ≠ []) (hb : ∀ c ∈ base, isWordChar c) :
    insertOffsets (Decimal.ofInt n ++ '[' :: (base ++ [']'])) =
      .error (.tooManyDigits (Decimal.ofNat n.natAbs).length) := by
  rw [insertOffsets_of_parse? (Displacement.parse?_ofInt n hn hb []), Displacement.render, Decimal.read_of_digitLimit_lt hl]
  rfl

/-! ## Sizes -/

/-- Whether a word runs up to the end of a text, where `afterWord` tells whether one runs up to its start. -/
def endsWord (afterWord : Bool) (t : Text) : Bool :=
  match t.getLast? with
  | none => afterWord
  | some c => isWordChar c

theorem endsWord_cons (afterWord : Bool) (c : Char) (t : Text) :
    endsWord afterWord (c :: t) = endsWord (isWordChar c) t := by
  cases t with
  | nil => rfl
  | cons d t => rfl

theorem eq_append_of_sizeBeforeBracket? {t size rest : Text} (h : sizeBeforeBracket? t = some (size, rest)) :
    size ∈ pointerSizes ∧ ∃ blanks, (∀ c ∈ blanks, isBlank c) ∧ t = size ++ (blanks ++ '[' :: rest) := by
  obtain ⟨s, hm, hs⟩ := List.exists_of_findSome?_eq_some h
  split at hs
  · rename_i c r hafter
    split at hs
    · rename_i hc
      split at hs
      · rename_i tail htail
        cases hs
        refine ⟨hm, c :: r.takeWhile isBlank, ?_, ?_⟩
        · intro d hd
          rcases List.mem_cons.mp hd with rfl | hd
          · exact hc
          · exact List.all_eq_true.mp List.all_takeWhile d hd
        · rw [Text.eq_append_of_after? hafter, List.cons_append, ← htail, Text.trimStart, List.takeWhile_append_dropWhile]
      · cases hs
    · cases hs
  · cases hs

/-- A text is copied up to where a size marker starts. -/
theorem insertPointers_append {x y : Text} {afterWord : Bool}
    (h : ∀ u s, x = u ++ s → s ≠ [] → sizeAt? (endsWord afterWord u) (s ++ y) = none) :
    insertPointers afterWord (x ++ y) = x ++ insertPointers (endsWord afterWord x) y := by
  induction x generalizing afterWord with
  | nil => rfl
  | cons c x ih =>
      have hc : sizeAt? afterWord (c :: (x ++ y)) = none := h [] (c :: x) rfl (List.cons_ne_nil c x)
      rw [List.cons_append, insertPointers]
      split
      · rename_i size rest hs
        rw [hc] at hs
        cases hs
      · rw [endsWord_cons, ih, List.cons_append]
        rintro u s rfl hs
        rw [← endsWord_cons afterWord]
        exact h (c :: u) s rfl hs

theorem sizeAt?_eq_none_of_not_mem {t : Text} (h : '[' ∉ t) (afterWord : Bool) : sizeAt? afterWord t = none := by
  rw [← Option.not_isSome_iff_eq_none, Option.isSome_iff_exists]
  rintro ⟨⟨size, rest⟩, hs⟩
  unfold sizeAt? at hs
  split at hs
  · cases hs
  · obtain ⟨-, blanks, -, rfl⟩ := eq_append_of_sizeBeforeBracket? hs
    exact h (List.mem_append_right size (List.mem_append_right blanks List.mem_cons_self))

theorem insertPointers_eq_self {t : Text} (h : '[' ∉ t) (afterWord : Bool) : insertPointers afterWord t = t := by
  have ht : insertPointers afterWord (t ++ []) = t ++ insertPointers (endsWord afterWord t) [] :=
    insertPointers_append fun u s hs _ => by
      rw [List.append_nil]
      exact sizeAt?_eq_none_of_not_mem (fun hm => h (hs ▸ List.mem_append_right u hm)) _
  rwa [insertPointers, List.append_nil] at ht

theorem isWordChar_of_mem_size {size : Text} (hs : size ∈ pointerSizes) : ∀ c ∈ size, isWordChar c := by
  have hall : ∀ size ∈ pointerSizes, ∀ c ∈ size, isWordChar c := by decide
  exact hall size hs

theorem not_isBlank_of_isWordChar {c : Char} (h : isWordChar c) : isBlank c = false := by
  rw [← Bool.not_eq_true]
  intro hb
  rw [isWordChar_of_isBlank hb] at h
  cases h

theorem bracket_not_mem_size {size blanks : Text} (hs : size ∈ pointerSizes) (hb : ∀ c ∈ blanks, isBlank c) :
    '[' ∉ size ++ blanks := by
  intro hm
  rcases List.mem_append.mp hm with hm | hm
  · exact absurd (isWordChar_of_mem_size hs _ hm) (by decide)
  · exact absurd (hb _ hm) (by decide)

theorem getLast?_append_size {size : Text} (hs : size ∈ pointerSizes) (t : Text) :
    ∀ c ∈ (t ++ size).getLast?, isBlank c = false := by
  intro c hc
  rcases Text.mem_getLast?_append hc with hc | ⟨rfl, -⟩
  · exact not_isBlank_of_isWordChar (isWordChar_of_mem_size hs c (List.mem_of_getLast? hc))
  · exact absurd hs (by decide)

/-- A size that is found in front of the first bracket is all that stands there, white space aside. -/
theorem eq_append_of_sizeAt? {afterWord : Bool} {s t size rest : Text} (hs : '[' ∉ s)
    (h : sizeAt? afterWord (s ++ '[' :: t) = some (size, rest)) :
    afterWord = false ∧ size ∈ pointerSizes ∧ ∃ blanks, (∀ c ∈ blanks, isBlank c) ∧ s = size ++ blanks := by
  unfold sizeAt? at h
  split at h
  · cases h
  · rename_i hword
    obtain ⟨hsize, blanks, hb, he⟩ := eq_append_of_sizeBeforeBracket? h
    rw [← List.append_assoc] at he
    obtain ⟨rfl, -⟩ := Text.append_cons_inj hs (bracket_not_mem_size hsize hb) he
    exact ⟨Bool.not_eq_true _ ▸ hword, hsize, blanks, hb, rfl⟩

theorem insertPointers_bracket {t : Text} (ht : '[' ∉ t) (afterWord : Bool) :
    insertPointers afterWord ('[' :: t) = '[' :: t := by
  rw [insertPointers]
  split
  · rename_i size rest hs
    obtain ⟨-, hsize, blanks, -, he⟩ := eq_append_of_sizeAt? (s := []) List.not_mem_nil hs
    rw [(List.append_eq_nil_iff.mp he.symm).1] at hsize
    exact absurd hsize (by decide)
  · rw [insertPointers_eq_self ht]

/-- A bracket that no size marker stands in front of is copied, with the text before it. -/
theorem insertPointers_bare {front blanks t : Text} (hf : '[' ∉ front) (hb : ∀ c ∈ blanks, isBlank c)
    (hl : ∀ c ∈ front.getLast?, isBlank c = false)
    (h : ∀ u, ∀ size ∈ pointerSizes, front = u ++ size → endsWord false u = true) (ht : '[' ∉ t) :
    insertPointers false (front ++ (blanks ++ '[' :: t)) = front ++ (blanks ++ '[' :: t) := by
  have hfb : '[' ∉ front ++ blanks := by
    intro hm
    rcases List.mem_append.mp hm with hm | hm
    · exact hf hm
    · exact absurd (hb _ hm) (by decide)
  rw [← List.append_assoc, insertPointers_append, insertPointers_bracket ht]
  intro u s hs _
  -- A marker at `s` would be the last word of the front.
  rw [← Option.not_isSome_iff_eq_none, Option.isSome_iff_exists]
  rintro ⟨⟨size, rest⟩, hm⟩
  obtain ⟨hend, hsize, blanks', hb', rfl⟩ := eq_append_of_sizeAt? (fun hm => hfb (hs ▸ List.mem_append_right u hm)) hm
  have hfront : front = u ++ size := by
    rw [← Text.trimEnd_append hb hl, hs, ← List.append_assoc, Text.trimEnd_append hb' (getLast?_append_size hsize u)]
  rw [h u size hsize hfront] at hend
  cases hend

theorem sizeBeforeBracket?_size {size : Text} (hs : size ∈ pointerSizes) (t : Text) :
    sizeBeforeBracket? (size ++ (' ' :: '[' :: t)) = some (size, t) := by
  simp only [pointerSizes, List.mem_cons, List.not_mem_nil, or_false] at hs
  rcases hs with rfl | rfl | rfl | rfl <;> rfl

theorem insertPointers_marker {size t : Text} (hs : size ∈ pointerSizes) (ht : '[' ∉ t) :
    insertPointers false (size ++ (' ' :: '[' :: t)) = size ++ (" ptr [".toList ++ t) := by
  have hsome := sizeBeforeBracket?_size hs t
  cases hsize : size ++ (' ' :: '[' :: t) with
  | nil => simp at hsize
  | cons c r =>
      rw [hsize] at hsome
      rw [insertPointers]
      split
      · rename_i size' rest hm
        change sizeBeforeBracket? (c :: r) = some (size', rest) at hm
        rw [hsome] at hm
        cases hm
        rw [insertPointers_eq_self ht, List.append_assoc]
      · rename_i hm
        change sizeBeforeBracket? (c :: r) = none at hm
        rw [hsome] at hm
        cases hm

/-- A size marker that no word runs up to gets its `ptr`. -/
theorem insertPointers_size {x size t : Text} (hx : '[' ∉ x) (hl : ∀ c ∈ x.getLast?, isWordChar c = false)
    (hs : size ∈ pointerSizes) (ht : '[' ∉ t) :
    insertPointers false (x ++ (size ++ (' ' :: '[' :: t))) = x ++ (size ++ (" ptr [".toList ++ t)) := by
  have hend : endsWord false x = false := by
    unfold endsWord
    split
    · rfl
    · rename_i c hc
      exact hl c hc
  rw [insertPointers_append, hend, insertPointers_marker hs ht]
  intro u s hxs hne
  -- A marker at `s` would reach over the last character of `x`, which is in no word.
  rw [← Option.not_isSome_iff_eq_none, Option.isSome_iff_exists]
  rintro ⟨⟨size', rest⟩, hm⟩
  have hns : '[' ∉ s ++ size ++ [' '] := by
    rw [List.append_assoc]
    intro hm
    rcases List.mem_append.mp hm with hm | hm
    · exact hx (hxs ▸ List.mem_append_right u hm)
    · exact bracket_not_mem_size hs (by decide) hm
  rw [show s ++ (size ++ (' ' :: '[' :: t)) = s ++ size ++ [' '] ++ '[' :: t by simp] at hm
  obtain ⟨-, hsize', blanks, hb, he⟩ := eq_append_of_sizeAt? hns hm
  have hword : s ++ size = size' := by
    have hs' := Text.trimEnd_append hb (getLast?_append_size hsize' [])
    rw [List.nil_append, ← he, Text.trimEnd_append (by decide) (getLast?_append_size hs s)] at hs'
    exact hs'
  obtain ⟨v, d, rfl⟩ := (List.eq_nil_or_concat s).resolve_left hne
  rw [List.concat_eq_append] at hxs hword
  have hd : isWordChar d = false := hl d (by rw [hxs]; simp)
  rw [isWordChar_of_mem_size hsize' d (by rw [← hword]; simp)] at hd
  cases hd

end AsmBridge
