import AsmBridge.Proofs.Line.Lemmas.Constant

/-!
# Conversion of an instruction

What the assembler is given for an instruction of the listing.
-/

namespace AsmBridge

/-! ## Instructions that end in their memory operand -/

namespace InstructionLine

variable (l : InstructionLine) (table : Table) (layout : Layout)

/-- A line that is converted is disabled, and the assembler is given the instruction that is meant. -/
theorem toIntel_convertLine {out : Option Text} (h : convertLine table layout l.render = .ok out) :
    ∃ text, out = some (disabledMargin ++ text) ∧ toIntel text = .ok (l.meant table layout) := by
  rw [l.convertLine_render] at h
  obtain ⟨line, hline, rfl⟩ := exists_of_map_eq_ok h
  cases hm : l.memory with
  | none =>
      have hb : '[' ∉ disabledMargin ++ l.respelled := by
        rw [List.mem_append, not_or]
        exact ⟨by decide +kernel, l.bracket_not_mem_respelled hm⟩
      obtain rfl := eq_of_resolveOperands hb hline
      refine ⟨l.respelled, rfl, ?_⟩
      rw [l.toIntel_respelled hm, meant, respelled, hm]
      rfl
  | some o =>
      have hf : '[' ∉ disabledMargin ++ l.front o := by
        rw [List.mem_append, not_or]
        exact ⟨by decide +kernel, l.bracket_not_mem_front⟩
      have hfront : disabledMargin ++ l.respelled = operandLine (disabledMargin ++ l.front o) o.address := by
        rw [l.respelled_eq hm, operandLine, operandLine, List.append_assoc]
      have hcode : ¬ "/*".toList <:+: l.front o := l.not_infix_front hm (by decide) (by decide)
      rw [hfront] at hline
      rw [meant, hm, Option.elim_some, MemoryOperand.meant]
      rcases resolveOperands_operandLine hf o.plain.opening o.plain.closing hline with ⟨ha, rfl⟩ | ⟨n, base, hb, ha, hlen, rfl⟩
      · refine ⟨operandLine (l.front o) o.address, by rw [operandLine, operandLine, List.append_assoc], ?_⟩
        rw [ha]
        exact l.toIntel_operand hm o.plain.opening (insertOffsets_operandLine l.bracket_not_mem_front
          (l.endsApart_front hm) hcode o.plain.opening (o.plain.keywords _ (by decide)))
      · refine ⟨l.front o ++ movedOperand n base o.address, by rw [List.append_assoc], ?_⟩
        rw [ha]
        exact l.toIntel_operand hm (bracket_not_mem_displaced hb) (insertOffsets_movedOperand l.bracket_not_mem_front
          (l.endsApart_front hm) hcode (o.plain.keywords _ (by decide)) o.plain.oneLine hlen hb)

end InstructionLine

/-- A sum with a vector from the table. -/
def InstructionLine.sample : InstructionLine where
  indent := "\t".toList
  mnemonic :=
    { text := "vaddps".toList, form := by decide, notCall := by decide, notSize := by decide
      plain := .inr (by decide) }
  operands := "\tymm0, ymm1, ".toList
  memory := some
    { size := some .ymmword, address := "rip + .LCPI0_1".toList
      plain := { keywords := by decide, opening := by decide, closing := by decide, oneLine := by decide } }
  trailing := []
  indent_blank := by decide
  trailing_blank := by decide
  gap := by decide
  plain := { keywords := by decide, opening := by decide, closing := by decide, oneLine := by decide }
  notJump := by decide
  ends := by decide
  follows := by
    intro o ho
    cases ho
    exact { nonempty := by decide, apart := by decide, unsized := by decide }
  shift := by decide

/-- The assembler is given the sum with the place of the vector. -/
theorem InstructionLine.toIntel_convertLine_sample :
    let table : Table := { name := "LCDATA1".toList, labels := [⟨".LCPI0_1".toList, 32⟩] }
    let text := "vaddps\tymm0, ymm1, 32[rbp] /* [rip + .LCPI0_1] */".toList
    convertLine table (.caller {}) sample.render = .ok (some (disabledMargin ++ text)) ∧
      toIntel text = .ok "vaddps\tymm0, ymm1, [rbp + 32]".toList := by
  intro table text
  have h : convertLine table (.caller {}) sample.render = .ok (some (disabledMargin ++ text)) := by rfl
  obtain ⟨text', he, ht⟩ := toIntel_convertLine sample table (.caller {}) h
  obtain rfl : text = text' := List.append_cancel_left (Option.some.inj he)
  exact ⟨h, ht⟩

/-! ## Constants with operands behind them -/

namespace ConstantLine

variable (l : ConstantLine) {table : Table} {label : Label}

/-- Of what stands behind a constant, the assembler is given only what is outside the comment. -/
theorem resolveConstant_render (hl : table.lookup? l.symbol.trim = some label) :
    (Decimal.digitLimit < (Decimal.ofNat label.offset.natAbs).length →
      resolveConstant table l.render = .error .tooLongToWrite) ∧
    ((Decimal.ofNat label.offset.natAbs).length ≤ Decimal.digitLimit →
      ∃ out, resolveConstant table l.render = .ok out ∧
        dropComments out = l.moved label.offset ++ l.outside ∧
        toIntel out = toIntel (l.moved label.offset ++ l.outside) ∧
        (dropComments out = l.moved label.offset ++ l.after ↔ l.outside = l.after) ∧
        (¬ "*/".toList <:+: l.symbol ++ ']' :: l.after → (l.outside = l.after ↔ l.after = []))) := by
  rw [l.resolveConstant_eq_map hl]
  constructor
  · intro hlen
    rw [Decimal.write, if_pos hlen]
    rfl
  · intro hlen
    rw [Decimal.write_of_length_le hlen]
    refine ⟨l.resolved label.offset, rfl, l.dropComments_resolved _, l.toIntel_resolved _, ?_, ?_⟩
    · rw [l.dropComments_resolved, List.append_cancel_left_eq]
    · intro hn
      have hout : l.outside = [] := by
        rw [outside, Text.cut?_eq_none_iff.mpr hn]
      rw [hout, eq_comm]

end ConstantLine

/-- A shuffle whose selector stands behind its constant. -/
def ConstantLine.sample : ConstantLine where
  before := "vpshufd xmm0, ".toList
  symbol := ".LCPI0_0".toList
  after := ", 78".toList
  opening := by decide
  closing := by decide
  uncommented := by decide
  oneLine := by decide

/-- The assembler is given the shuffle without its selector. -/
theorem ConstantLine.resolveConstant_render_sample :
    let table : Table := { name := "LCDATA1".toList, labels := [⟨".LCPI0_0".toList, 0⟩] }
    let label : Label := ⟨".LCPI0_0".toList, 0⟩
    table.lookup? sample.symbol.trim = some label ∧
      ∃ out, resolveConstant table sample.render = .ok out ∧
        dropComments out = "vpshufd xmm0, 0[rbp]".toList ∧ toIntel out = toIntel "vpshufd xmm0, 0[rbp]".toList := by
  intro table label
  have hl : table.lookup? sample.symbol.trim = some label := by rfl
  obtain ⟨out, ho, hd, ht, -⟩ := (sample.resolveConstant_render hl).2 (by decide)
  exact ⟨hl, out, ho, hd, ht⟩

/-- The selector of a shuffle is lost. -/
theorem ConstantLine.selector_lost :
    let table : Table := { name := "LCDATA1".toList, labels := [⟨".LCPI0_0".toList, 0⟩] }
    ∃ out, resolveConstant table "vpshufd xmm0, [rip + .LCPI0_0], 78".toList = .ok out ∧
      dropComments out = "vpshufd xmm0, 0[rbp]".toList ∧ dropComments out ≠ "vpshufd xmm0, 0[rbp], 78".toList := by
  intro table
  have hd := sample.dropComments_resolved 0
  refine ⟨sample.resolved 0, by rfl, hd, ?_⟩
  rw [hd]
  decide

end AsmBridge
