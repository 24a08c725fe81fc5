import AsmBridge.Proofs.Body.Lemmas.Shape
import AsmBridge.Proofs.Body.Lemmas.SingleOperand
import AsmBridge.Proofs.Line.Argument
import AsmBridge.Proofs.Pool.Lemmas.Reference

/-!
# Constants in the lines of a body

An instruction whose only operand in brackets names a constant keeps this operand while it is respelled, and then gets
the place that the table has for the name.
-/

namespace AsmBridge

/-- Whether the only operand in brackets of a line is the constant `symbol`. In front of it stands the name of no block,
as in all lines of small letters, and the line is not dropped for its directive. -/
structure NamesConstant (line symbol : Text) : Prop where
  code : mentionsAlign line = false
  /-- Brackets around nothing refer to nothing. -/
  nonempty : symbol ≠ []
  closed : ']' ∉ symbol
  unmarked : ∀ mark ∈ ["ptr".toList, "xmmword".toList, "ymmword".toList, "movabs".toList], ¬ mark <:+: symbol
  operand : ∃ before after, stripComment line = before ++ (ripOpening ++ (symbol ++ ']' :: after)) ∧
    '[' ∉ before ++ (symbol ++ after) ∧ ¬ blockOpening <:+: before

/-- The operand that names a constant. -/
def constantOperand (symbol : Text) : Text :=
  ripOpening ++ (symbol ++ [']'])

/-- Whether a line is emitted with its constant at an offset from the base pointer. What the operand was is put into a
comment with the rest of the line. -/
def ReadsTable (line symbol : Text) (offset : Nat) (emitted : Text) : Prop :=
  ∃ front back, '[' ∉ front ∧ respelledLine line = front ++ (constantOperand symbol ++ back) ∧
    emitted = front ++ (Decimal.ofNat offset ++ "[rbp]".toList ++ " /* ".toList ++ constantOperand symbol ++ back ++ " */".toList)

/-! ## Respelling -/

theorem ripOpening_append_eq (symbol back : Text) : ripOpening ++ (symbol ++ ']' :: back) = constantOperand symbol ++ back := by
  rw [constantOperand, List.append_assoc, List.append_assoc, List.singleton_append]

namespace NamesConstant

variable {line symbol : Text} (h : NamesConstant line symbol)
include h

theorem isDropped : isDropped line = false := by
  obtain ⟨before, after, hs, -⟩ := h.operand
  rw [isDropped_eq_mentionsAlign, h.code]
  rw [hs, ripOpening_eq]
  exact List.append_ne_nil_of_right_ne_nil _ (List.cons_ne_nil _ _)

theorem trim_mem_references : symbol.trim ∈ references line := by
  obtain ⟨before, after, hs, hb, -⟩ := h.operand
  obtain ⟨comment, hc⟩ := stripComment_prefix_self line
  have hbefore : '[' ∉ before := fun hm => hb (List.mem_append_left _ hm)
  have hline : line = before ++ (ripOpening ++ (symbol ++ ']' :: (after ++ comment))) := by
    rw [← hc, hs]
    simp only [List.append_assoc, List.cons_append]
  rw [hline, references_append hbefore h.nonempty h.closed]
  exact List.mem_cons_self

theorem hasOperand : HasOperand line ("rip + ".toList ++ symbol) where
  closed := by
    rw [List.mem_append, not_or]
    exact ⟨by decide, h.closed⟩
  unmarked := by
    have hall : ∀ mark ∈ ["ptr".toList, "xmmword".toList, "ymmword".toList, "movabs".toList],
        ¬ mark <:+: "rip + ".toList ∧ ∀ c ∈ "rip + ".toList.getLast?, c ∉ mark := by
      decide
    intro mark hm
    obtain ⟨hopening, hlast⟩ := hall mark hm
    exact Text.not_infix_append hopening (h.unmarked mark hm) (.inl hlast)
  operand := by
    obtain ⟨before, after, hs, hb, hblock⟩ := h.operand
    refine ⟨before, after, by rw [hs, ripOpening_eq, List.cons_append, List.append_assoc], ?_, hblock⟩
    simp only [List.mem_append, not_or] at hb ⊢
    exact ⟨hb.1, ⟨by decide, hb.2.1⟩, hb.2.2⟩

/-- Respelling leaves the operand, and no other operand in brackets. -/
theorem exists_respelledLine (hn : '\n' ∉ line) : ∃ front back,
    '[' ∉ front ∧ respelledLine line = front ++ (constantOperand symbol ++ back) := by
  obtain ⟨front, back, hf, -, he⟩ := h.hasOperand.exists_respelledLine hn
  refine ⟨front, back, hf, ?_⟩
  rw [he, ← ripOpening_append_eq, ripOpening_eq, List.cons_append, List.append_assoc]

/-- A line that is converted reads the table where the label of its constant is. -/
theorem exists_readsTable (hn : '\n' ∉ line) {table : Table} {layout : Layout} {emitted : Text} (hp : table.isPresent)
    {offset : Nat} (hl : table.lookup? symbol.trim = some { name := symbol.trim, offset := offset })
    (hc : Converts table layout line emitted) : ReadsTable line symbol offset emitted := by
  obtain ⟨front, back, hf, he⟩ := h.exists_respelledLine hn
  have hcut : (respelledLine line).cut? ripOpening = some (front, symbol ++ ']' :: back) := by
    rw [he, ← ripOpening_append_eq]
    exact Text.cut?_append hf "rip + ".toList _
  obtain ⟨line', hconst, harg⟩ := exists_of_resolveOperands hc.resolveOperands_eq
  rw [if_pos hp] at hconst
  obtain ⟨label, hlabel, rfl⟩ := resolveConstant_of_cut hcut hconst
  obtain rfl := resolveArgument_of_not_endsInArgument (not_endsInArgument_commented front label.offset _ _ _) harg
  rw [Text.takeWhile_ne_append_cons h.closed, hl] at hlabel
  cases hlabel
  refine ⟨front, back, hf, he, ?_⟩
  simp only [commented, rebased, constantOperand, String.reduceToList, List.append_assoc, List.cons_append, List.nil_append]
  rfl

end NamesConstant

end AsmBridge
