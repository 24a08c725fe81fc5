import AsmBridge.Proofs.Line.Lemmas.Assembly

/-!
# Stack arguments in lines

A memory operand above the old frame pointer reads a stack argument. It is found anew where it ends its line, and stays
as it is where something follows.
-/

namespace AsmBridge

/-! ## Operands above the frame pointer -/

/-- Whether a text has an operand above the frame pointer. -/
def ReadsAboveFrame (t : Text) : Prop :=
  ∃ digits : Text, digits ≠ [] ∧ (∀ c ∈ digits, c.isDigit) ∧ rbpOpening ++ (digits ++ [']']) <:+: t

/-- Whether a line has such an operand outside its comments. -/
def ExposesArgument (line : Text) : Prop :=
  ReadsAboveFrame (dropComments line)

/-- Whether a line ends in an operand above the frame pointer, at the offset `digits`. -/
def EndsInArgument (line digits : Text) : Prop :=
  (digits ≠ [] ∧ digits.all Char.isDigit) ∧
    ∃ head blanks, blanks.all isBlank ∧ line = head ++ (rbpOpening ++ (digits ++ ']' :: blanks))

/-- The text before and after the start of the operand that is taken for a constant. -/
def constantCut? (table : Table) (line : Text) : Option (Text × Text) :=
  if table.isPresent then line.cut? ripOpening else none

/-- Whether an operand of a line is put elsewhere, so that the rest of the line is put into a comment. -/
def MovesOperand (table : Table) (line : Text) : Prop :=
  (constantCut? table line).isSome ∨ ∃ digits, EndsInArgument line digits

/-- Whether an operand above the frame pointer is left as it is: one before a constant, or, in a line without constant,
one that does not end the line. -/
def LeavesArgument (table : Table) (line : Text) : Prop :=
  match constantCut? table line with
  | some (head, _) => ReadsAboveFrame head
  | none => ExposesArgument line ∧ ¬ ∃ digits, EndsInArgument line digits

/-- A line that neither starts nor ends a comment. -/
structure Text.IsUncommented (t : Text) : Prop where
  opening : ¬ "/*".toList <:+: t
  closing : ¬ "*/".toList <:+: t
  oneLine : '\n' ∉ t

theorem ReadsAboveFrame.mono {s t : Text} (h : ReadsAboveFrame s) (hs : s <:+: t) : ReadsAboveFrame t := by
  obtain ⟨digits, hn, hd, hi⟩ := h
  exact ⟨digits, hn, hd, hi.trans hs⟩

theorem ReadsAboveFrame.opening_infix {t : Text} (h : ReadsAboveFrame t) : rbpOpening <:+: t := by
  obtain ⟨digits, -, -, hi⟩ := h
  exact (List.prefix_append rbpOpening _).isInfix.trans hi

/-- An operand that moved is not above the frame pointer. -/
theorem not_infix_moved {base : Text} (hb : base ∈ ["rbp".toList, "rsp".toList]) (n : Int) :
    ¬ rbpOpening <:+: Decimal.ofInt n ++ '[' :: (base ++ [']']) := by
  have hall : ∀ base ∈ ["rbp".toList, "rsp".toList],
      '[' ∉ base ++ [']'] ∧ Text.after? (base ++ [']']) "rbp + ".toList = none := by
    decide
  have hsign : '[' ∉ Decimal.ofInt n := Decimal.not_mem_ofInt (by decide) (by decide)
  rw [← Text.cut?_eq_none_iff, rbpOpening_eq,
    Text.cut?_append_cons hsign (hall base hb).1, (hall base hb).2]
  rfl

/-- The number in front of an operand that moved does not end an operand above the frame pointer. -/
theorem eq_nil_of_prefix_moved {digits u v rest : Text} {n : Int} (hd : ∀ c ∈ digits, c.isDigit) (hu : u ≠ [])
    (he : rbpOpening ++ (digits ++ [']']) = u ++ v) (hv : v <+: Decimal.ofInt n ++ '[' :: rest) : v = [] := by
  have hbracket : '[' ∉ v := by
    obtain ⟨c, u, rfl⟩ := List.exists_cons_of_ne_nil hu
    have htail : "rbp + ".toList ++ (digits ++ [']']) = u ++ v := (List.cons.inj he).2
    intro hm
    have hm' : '[' ∈ "rbp + ".toList ++ (digits ++ [']']) := htail ▸ List.mem_append_right u hm
    rw [List.mem_append, List.mem_append] at hm'
    rcases hm' with h | h | h
    · exact absurd h (by decide)
    · exact absurd (hd _ h) (by decide)
    · exact absurd h (by decide)
  have hnumber : v <+: Decimal.ofInt n := by
    refine Text.prefix_of_prefix_append hv fun d hd => ?_
    cases hd
    exact hbracket
  rcases List.eq_nil_or_concat v with rfl | ⟨v, d, rfl⟩
  · rfl
  · rw [List.concat_eq_append] at he hnumber
    have hlast := congrArg List.getLast? he
    simp only [← List.append_assoc, List.getLast?_concat, Option.some.injEq] at hlast
    subst hlast
    exact absurd (hnumber.subset (List.mem_append_right v List.mem_cons_self))
      (Decimal.not_mem_ofInt (by decide) (by decide))

/-- An operand that moved adds no operand above the frame pointer. -/
theorem readsAboveFrame_moved_iff {front base : Text} {n : Int} (hb : base ∈ ["rbp".toList, "rsp".toList]) :
    ReadsAboveFrame (front ++ (Decimal.ofInt n ++ '[' :: (base ++ [']']))) ↔ ReadsAboveFrame front := by
  refine ⟨?_, fun h => h.mono (List.prefix_append _ _).isInfix⟩
  rintro ⟨digits, hn, hd, hi⟩
  have hmoved := not_infix_moved hb n
  have hopening : rbpOpening <:+: rbpOpening ++ (digits ++ [']']) := (List.prefix_append _ _).isInfix
  rcases List.infix_append_iff.mp hi with h | h | ⟨u, v, he, hu, hv⟩
  · exact ⟨digits, hn, hd, h⟩
  · exact absurd (hopening.trans h) hmoved
  · rcases eq_or_ne u [] with rfl | hne
    · rw [List.nil_append] at he
      exact absurd (he ▸ hopening |>.trans hv.isInfix) hmoved
    · obtain rfl := eq_nil_of_prefix_moved hd hne he hv
      rw [List.append_nil] at he
      exact ⟨digits, hn, hd, he ▸ hu.isInfix⟩

/-! ## Lines that are resolved -/

section

variable {table : Table} {layout : Layout} {line out : Text}

/-- An operand that moved, with the rest of the line in a comment. -/
def commented (front : Text) (n : Int) (base opening tail : Text) : Text :=
  front ++ rebased (Decimal.ofInt n) ('[' :: (base ++ [']'])) opening tail

/-- A line whose operand moved has an operand above the frame pointer only in front of it. -/
theorem exposesArgument_commented_iff {front base opening tail : Text} (n : Int)
    (hb : base ∈ ["rbp".toList, "rsp".toList]) (hu : Text.IsUncommented (front ++ (opening ++ tail))) :
    ExposesArgument (commented front n base opening tail) ↔ ReadsAboveFrame front := by
  have hline : commented front n base opening tail = front ++ (Decimal.ofInt n ++ '[' :: (base ++ [']'])) ++
      (" /*".toList ++ ((' ' :: (opening ++ tail)) ++ " */".toList)) := by
    simp only [commented, rebased, String.reduceToList, List.append_assoc, List.cons_append, List.nil_append]
  have hopen : ¬ "/*".toList <:+: front := fun h => hu.opening (h.trans (List.prefix_append _ _).isInfix)
  have hclose : ¬ "*/".toList <:+: ' ' :: (opening ++ tail) := by
    refine Text.not_infix_append_cons (x := []) (by decide) (by decide) fun h => ?_
    exact hu.closing (h.trans (List.suffix_append _ _).isInfix)
  have hn : '\n' ∉ ' ' :: (opening ++ tail) := by
    rw [List.mem_cons, not_or]
    exact ⟨by decide, fun h => hu.oneLine (List.mem_append_right front h)⟩
  rw [ExposesArgument, hline, dropComments_lastComment (not_infix_append_moved hopen n hb)
    (not_isBlank_getLast?_moved front n base) hclose hn, readsAboveFrame_moved_iff hb]

theorem resolveConstant_of_cut {head tail : Text} (hc : line.cut? ripOpening = some (head, tail))
    (h : resolveConstant table line = .ok out) :
    ∃ label, table.lookup? (Text.trim (tail.takeWhile (· != ']'))) = some label ∧
      out = commented head label.offset "rbp".toList ripOpening tail := by
  unfold resolveConstant at h
  rw [hc] at h
  simp only at h
  split at h
  · cases h
  · rename_i label hl
    obtain ⟨offset, hw, rfl⟩ := exists_of_map_eq_ok h
    obtain ⟨rfl, -⟩ := Decimal.eq_ofInt_of_write hw
    exact ⟨label, hl, rfl⟩

theorem EndsInArgument.infix_line {line digits : Text} (h : EndsInArgument line digits) :
    rbpOpening <:+: line ∧ digits <:+: line := by
  obtain ⟨-, head, blanks, -, rfl⟩ := h
  exact ⟨⟨head, digits ++ ']' :: blanks, by simp only [List.append_assoc]⟩,
    head ++ rbpOpening, ']' :: blanks, by simp only [List.append_assoc]⟩

/-- The number that ends a line is read, and its place is written where the first operand above the frame pointer starts. -/
theorem EndsInArgument.exists_bind {digits : Text} (h : EndsInArgument line digits) (layout : Layout) :
    ∃ head tail, line.cut? rbpOpening = some (head, tail) ∧ resolveArgument layout line = (do
      let offset ← Decimal.read digits
      let place ← Decimal.write (layout.resolve offset)
      return head ++ rebased place "[rsp]".toList rbpOpening tail) := by
  obtain ⟨⟨head, tail⟩, hcut⟩ : ∃ parts, line.cut? rbpOpening = some parts :=
    Option.ne_none_iff_exists'.mp fun hnone => Text.cut?_eq_none_iff.mp hnone h.infix_line.1
  refine ⟨head, tail, hcut, ?_⟩
  rw [resolveArgument, finalArgument?_eq_some_iff.mpr h, hcut]

theorem resolveArgument_of_endsInArgument {digits : Text} (hd : EndsInArgument line digits)
    (h : resolveArgument layout line = .ok out) : ∃ head tail, line.cut? rbpOpening = some (head, tail) ∧
      out = commented head (layout.resolve (Decimal.value digits)) "rsp".toList rbpOpening tail := by
  obtain ⟨head, tail, hcut, hline⟩ := hd.exists_bind layout
  rw [hline] at h
  obtain ⟨n, hr, h⟩ := exists_of_bind_eq_ok h
  obtain ⟨place, hw, h⟩ := exists_of_bind_eq_ok h
  cases h
  obtain rfl := Decimal.eq_value_of_read hr
  obtain ⟨rfl, -⟩ := Decimal.eq_ofInt_of_write hw
  exact ⟨head, tail, hcut, rfl⟩

theorem resolveArgument_eq_ok (layout : Layout) (hd : ¬ ∃ digits, EndsInArgument line digits) :
    resolveArgument layout line = .ok line := by
  have hn : finalArgument? line = none := by
    rw [← Option.not_isSome_iff_eq_none, Option.isSome_iff_exists]
    rintro ⟨digits, hf⟩
    exact hd ⟨digits, finalArgument?_eq_some_iff.mp hf⟩
  rw [resolveArgument, hn]

theorem resolveArgument_of_not_endsInArgument (hd : ¬ ∃ digits, EndsInArgument line digits)
    (h : resolveArgument layout line = .ok out) : out = line := by
  rw [resolveArgument_eq_ok layout hd] at h
  cases h
  rfl

/-- A line whose operand moved ends in a comment. -/
theorem not_endsInArgument_commented (front : Text) (n : Int) (base opening tail : Text) :
    ¬ ∃ digits, EndsInArgument (commented front n base opening tail) digits := by
  rintro ⟨digits, -, head, blanks, hb, he⟩
  have hlast : (commented front n base opening tail).getLast? = some '/' := by
    have hend : commented front n base opening tail =
        front ++ (Decimal.ofInt n ++ ('[' :: (base ++ [']']) ++ (" /* ".toList ++ (opening ++ (tail ++ " *".toList))))) ++
          ['/'] := by
      simp only [commented, rebased, String.reduceToList, List.append_assoc, List.cons_append, List.nil_append]
    rw [hend, List.getLast?_concat]
  rw [he] at hlast
  rcases List.eq_nil_or_concat blanks with rfl | ⟨blanks, c, rfl⟩
  · simp only [← List.append_assoc, List.getLast?_concat, Option.some.injEq] at hlast
    exact absurd hlast (by decide)
  · have hc : isBlank c = true := List.all_eq_true.mp hb c (by simp)
    simp only [List.concat_eq_append, ← List.cons_append, ← List.append_assoc, List.getLast?_concat,
      Option.some.injEq] at hlast
    rw [hlast] at hc
    exact absurd hc (by decide)

theorem constantCut?_eq_some_iff {head tail : Text} : constantCut? table line = some (head, tail) ↔
    table.isPresent = true ∧ line.cut? ripOpening = some (head, tail) := by
  rw [constantCut?, Option.ite_none_right_eq_some]

theorem resolveConstant_of_constantCut?_eq_none (h : constantCut? table line = none) :
    (if table.isPresent then resolveConstant table line else .ok line) = .ok line := by
  rw [ite_eq_right_iff]
  intro hp
  rw [constantCut?, if_pos hp] at h
  rw [resolveConstant, h]

theorem resolveArgument_of_constantCut?_eq_none (hc : constantCut? table line = none)
    (h : resolveOperands table layout line = .ok out) : resolveArgument layout line = .ok out := by
  obtain ⟨line', hconst, harg⟩ := exists_of_resolveOperands h
  rw [resolveConstant_of_constantCut?_eq_none hc] at hconst
  cases hconst
  exact harg

/-- An operand above the frame pointer that ends its line is put where its argument is. -/
theorem resolveOperands_of_endsInArgument {digits : Text} (hc : constantCut? table line = none)
    (hd : EndsInArgument line digits) (h : resolveOperands table layout line = .ok out) :
    ∃ head tail, line.cut? rbpOpening = some (head, tail) ∧
      out = commented head (layout.resolve (Decimal.value digits)) "rsp".toList rbpOpening tail :=
  resolveArgument_of_endsInArgument hd (resolveArgument_of_constantCut?_eq_none hc h)

/-- A line that is resolved has an operand above the frame pointer outside its comments where it was left. -/
theorem exposesArgument_iff (hu : MovesOperand table line → line.IsUncommented)
    (h : resolveOperands table layout line = .ok out) : ExposesArgument out ↔ LeavesArgument table line := by
  unfold LeavesArgument
  split
  · rename_i head tail hc
    obtain ⟨line', hconst, harg⟩ := exists_of_resolveOperands h
    obtain ⟨hp, hcut⟩ := constantCut?_eq_some_iff.mp hc
    rw [if_pos hp] at hconst
    obtain ⟨label, -, rfl⟩ := resolveConstant_of_cut hcut hconst
    obtain rfl := resolveArgument_of_not_endsInArgument (not_endsInArgument_commented head label.offset _ _ tail) harg
    have huncommented := hu (.inl (by rw [hc]; rfl))
    rw [Text.eq_append_of_cut? hcut] at huncommented
    exact exposesArgument_commented_iff label.offset (by decide) huncommented
  · rename_i hc
    by_cases hd : ∃ digits, EndsInArgument line digits
    · obtain ⟨digits, hd⟩ := hd
      obtain ⟨head, tail, hcut, rfl⟩ := resolveOperands_of_endsInArgument hc hd h
      have huncommented := hu (.inr ⟨digits, hd⟩)
      rw [Text.eq_append_of_cut? hcut] at huncommented
      rw [exposesArgument_commented_iff _ (by decide) huncommented]
      -- No operand above the frame pointer starts before the first one.
      have hfront : ¬ ReadsAboveFrame head := fun h =>
        Text.not_infix_of_cut? (by decide) hcut h.opening_infix
      exact ⟨fun h => absurd h hfront, fun h => absurd ⟨digits, hd⟩ h.2⟩
    · obtain rfl := resolveArgument_of_not_endsInArgument hd (resolveArgument_of_constantCut?_eq_none hc h)
      exact ⟨fun he => ⟨he, hd⟩, fun he => he.1⟩

end

end AsmBridge
