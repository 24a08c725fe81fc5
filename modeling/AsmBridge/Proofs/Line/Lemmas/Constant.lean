import AsmBridge.Proofs.Line.Lemmas.Assembly

/-!
# Constants with operands behind them

What a resolved constant leaves of its line, and what of it a comment hides.
-/

namespace AsmBridge

namespace ConstantLine

variable (l : ConstantLine)

/-- The line with its constant resolved. -/
def resolved (offset : Int) : Text :=
  l.moved offset ++ (" /*".toList ++ (' ' :: (ripOpening ++ (l.symbol ++ ']' :: l.after)) ++ " */".toList))

theorem resolveConstant_eq_map {table : Table} {label : Label} (hl : table.lookup? l.symbol.trim = some label) :
    resolveConstant table l.render = (Decimal.write label.offset).map fun _ => l.resolved label.offset := by
  have hcut : l.render.cut? ripOpening = some (l.before, l.symbol ++ ']' :: l.after) :=
    Text.cut?_append (l.opening _ (by simp)) "rip + ".toList _
  have hsymbol : (l.symbol ++ ']' :: l.after).takeWhile (· != ']') = l.symbol :=
    Text.takeWhile_ne_append_cons (l.closing _ (by simp)) l.after
  unfold resolveConstant
  simp only [hcut, hsymbol, hl]
  cases hw : Decimal.write label.offset with
  | error fault => rfl
  | ok offset =>
      obtain ⟨rfl, -⟩ := Decimal.eq_ofInt_of_write hw
      change Except.ok _ = Except.ok _
      simp only [rebased, resolved, moved, String.reduceToList, List.append_assoc, List.cons_append, List.nil_append]

theorem not_infix_tail : ¬ "/*".toList <:+: l.symbol ++ ']' :: l.after :=
  Text.not_infix_append_cons (by decide) (l.uncommented _ (by simp)) (l.uncommented _ (by simp))

theorem not_infix_outside : ¬ "/*".toList <:+: l.outside := by
  unfold outside
  split
  · rename_i u rest hc
    refine Text.not_infix_append_cons (x := rest) (y := "*/".toList) (c := ' ') (by decide) (fun h => ?_) (by decide)
    have htail : rest <:+: l.symbol ++ ']' :: l.after := by
      rw [Text.eq_append_of_cut? hc, ← List.append_assoc]
      exact (List.suffix_append _ rest).isInfix
    exact l.not_infix_tail (h.trans htail)
  · decide

/-- The comment behind the operand ends before what is outside of it. -/
theorem exists_cut?_comment : ∃ body,
    Text.cut? (' ' :: (ripOpening ++ (l.symbol ++ ']' :: l.after)) ++ " */".toList) "*/".toList = some (body, l.outside) := by
  have hstart : ¬ "*/".toList <:+: ' ' :: ripOpening := by decide
  have hjoin : ∀ c ∈ (' ' :: ripOpening).getLast?, c ∉ "*/".toList := by decide
  unfold outside
  split
  · rename_i u rest hc
    have hu : ¬ "*/".toList <:+: (' ' :: ripOpening) ++ u :=
      Text.not_infix_append hstart (Text.not_infix_of_cut? (by decide) hc) (.inl hjoin)
    have h := Text.cut?_of_not_infix (show '*' ∉ "/".toList by decide) hu (rest ++ " */".toList)
    refine ⟨_, Eq.trans (congrArg (Text.cut? · "*/".toList) ?_) h⟩
    rw [Text.eq_append_of_cut? hc]
    simp only [String.reduceToList, List.append_assoc, List.cons_append, List.nil_append]
  · rename_i hc
    have hn : ¬ "*/".toList <:+: (' ' :: ripOpening) ++ (l.symbol ++ ']' :: l.after) :=
      Text.not_infix_append hstart (Text.cut?_eq_none_iff.mp hc) (.inl hjoin)
    have hblank : ¬ "*/".toList <:+: (' ' :: ripOpening) ++ (l.symbol ++ ']' :: l.after) ++ ' ' :: [] :=
      Text.not_infix_append_cons (by decide) hn (by decide)
    have h := Text.cut?_of_not_infix (show '*' ∉ "/".toList by decide) hblank []
    refine ⟨_, Eq.trans (congrArg (Text.cut? · "*/".toList) ?_) h⟩
    simp only [String.reduceToList, List.append_assoc, List.cons_append, List.nil_append]

theorem not_infix_moved (offset : Int) : ¬ "/*".toList <:+: l.moved offset :=
  not_infix_append_moved (l.uncommented _ (by simp)) offset (show "rbp".toList ∈ ["rbp".toList, "rsp".toList] by decide)

theorem dropComments_moved (offset : Int) :
    dropComments (l.moved offset ++ l.outside) = l.moved offset ++ l.outside := by
  refine dropComments_eq_self (Text.not_infix_append (l.not_infix_moved offset) l.not_infix_outside (.inl fun c hc => ?_))
  have hlast : (l.moved offset).getLast? = some ']' := getLast?_append_moved l.before offset "rbp".toList
  rw [hlast] at hc
  cases hc
  decide

/-- Without its comment, the line ends with what is outside the comment. -/
theorem dropComments_resolved (offset : Int) : dropComments (l.resolved offset) = l.moved offset ++ l.outside := by
  obtain ⟨body, hcut⟩ := l.exists_cut?_comment
  have hn : '\n' ∉ ' ' :: (ripOpening ++ (l.symbol ++ ']' :: l.after)) ++ " */".toList := by
    rw [← List.cons_append, List.mem_append, List.mem_append, List.mem_append]
    rintro ((h | h | h) | h)
    · exact absurd h (by decide)
    · exact l.oneLine l.symbol (by simp) h
    · exact l.oneLine l.after (by simp) (List.mem_of_ne_of_mem (by decide) h)
    · exact absurd h (by decide)
  rw [resolved, dropComments_comment (l.not_infix_moved offset)
    (not_isBlank_getLast?_moved l.before offset "rbp".toList) hn hcut, dropComments_eq_self l.not_infix_outside]

theorem toIntel_resolved (offset : Int) : toIntel (l.resolved offset) = toIntel (l.moved offset ++ l.outside) := by
  rw [toIntel, toIntel, l.dropComments_resolved, l.dropComments_moved]

end ConstantLine

end AsmBridge
