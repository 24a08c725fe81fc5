import AsmBridge.Proofs.Pool.Lemmas.Directive

/-!
# Operands that are read back

Operands may be written with any white space around the commas between them and with a comment behind them. They are read
back as they are: commas, comment marks and other quotes inside a literal belong to it.
-/

namespace AsmBridge

/-- How an operand may be written: plainly, without commas, quotes and `#`, or between quotes. -/
inductive IsWrittenOperand : Text → Prop
  | plain {t : Text} (nonempty : t ≠ []) (trimmed : t.IsTrimmed) (chars : ∀ c ∈ t, isPlain c) : IsWrittenOperand t
  | literal {q : Char} {body : Text} (quote : isQuote q) (escaped : IsLiteralBody q body) : IsWrittenOperand (q :: (body ++ [q]))

/-- What may stand behind the operands: white space, and one `#` or two of them in front of the end or of more white space and
any text. -/
inductive IsRemark : Text → Prop
  | blank {blanks : Text} (hb : ∀ c ∈ blanks, isBlank c) : IsRemark blanks
  | mark {blanks mark text : Text} (hb : ∀ c ∈ blanks, isBlank c) (hm : mark = ['#'] ∨ mark = ['#', '#'])
      (ht : ∀ c ∈ text.head?, isBlank c) : IsRemark (blanks ++ (mark ++ text))

theorem IsWrittenOperand.isPiece {t : Text} (h : IsWrittenOperand t) : IsPiece t := by
  cases h with
  | plain nonempty trimmed chars => exact ⟨piecesFrom_append chars, trimmed, nonempty⟩
  | literal quote escaped => exact escaped.isPiece quote

theorem opensRemark_append {mark text : Text} (hm : mark = ['#'] ∨ mark = ['#', '#']) (ht : ∀ c ∈ text.head?, isBlank c) :
    opensRemark (mark ++ text) = true := by
  have hends : endsOrBlank text = true := by
    cases text with
    | nil => rfl
    | cons c text => exact ht c rfl
  rcases hm with rfl | rfl
  · cases text with
    | nil => rfl
    | cons c text =>
        have hc : c ≠ '#' := fun he => absurd (ht c rfl) (he ▸ by decide)
        rw [List.singleton_append, opensRemark]
        · exact hends
        · exact fun r he => hc (List.cons.inj he).1
  · exact hends

theorem IsRemark.endsOperands {t : Text} (h : IsRemark t) : EndsOperands t := by
  cases h with
  | blank hb =>
      have h := endsOperands_append hb (.inl rfl)
      rwa [List.append_nil] at h
  | mark hb hm ht => exact endsOperands_append hb (.inr (opensRemark_append hm ht))

/-- Operands that are joined by commas are split into the same operands, whatever their literals and the comment hold. -/
theorem splitOperands_joined {operands : List Text} (ho : ∀ t ∈ operands, IsWrittenOperand t) {text : Text}
    (hj : JoinsOperands operands text) {remark : Text} (hr : IsRemark remark) : splitOperands (text ++ remark) = operands :=
  hj.splitOperands_append (fun t ht => (ho t ht).isPiece) hr.endsOperands

/-- A literal with a comma, a mark, both kinds of quotes and an escaped backslash in it, between two other operands. -/
theorem splitOperands_joined_sample :
    let operands := [".LC0 + 4".toList, "\",#'\\\"\\\\\"".toList, "'\"'".toList]
    let text := ".LC0 + 4\t,\",#'\\\"\\\\\" , '\"'".toList
    let remark := " ## 1, \"2".toList
    (∀ t ∈ operands, IsWrittenOperand t) ∧ JoinsOperands operands text ∧ IsRemark remark ∧
      splitOperands (text ++ remark) = operands := by
  intro operands text remark
  have hplain : IsWrittenOperand ".LC0 + 4".toList := .plain (by decide) ⟨by decide, by decide⟩ (by decide)
  have hbody : IsLiteralBody '\x22' ",#'\\\"\\\\".toList :=
    .plain (by decide) (by decide) (.plain (by decide) (by decide) (.plain (by decide) (by decide)
      (.escaped '\x22' (.escaped '\\' .nil))))
  have hquote : IsLiteralBody '\x27' "\"".toList := .plain (by decide) (by decide) .nil
  have ho : ∀ t ∈ operands, IsWrittenOperand t := by
    simp only [operands, List.forall_mem_cons]
    exact ⟨hplain, .literal rfl hbody, .literal rfl hquote, List.forall_mem_nil _⟩
  have hblank : ∀ c ∈ " ".toList, isBlank c := by decide
  have hj : JoinsOperands operands text :=
    @JoinsOperands.cons _ _ _ isBlank_of_mem_tab isBlank_of_mem_nil _ _ _
      (@JoinsOperands.cons _ _ _ hblank hblank _ _ _ (.single "'\"'".toList))
  have hr : IsRemark remark := @IsRemark.mark " ".toList "##".toList " 1, \"2".toList hblank (.inr rfl) (by decide)
  exact ⟨ho, hj, hr, splitOperands_joined ho hj hr⟩

end AsmBridge
