import AsmBridge.Proofs.Code.Intel
import AsmBridge.Proofs.Line.Lemmas.Operand
import AsmBridge.Proofs.Line.Lemmas.Respelling

/-!
# The way back of an instruction

The text of a converted instruction, in Intel syntax again. Its offset is back in the brackets, and its size marker
has its `ptr`.
-/

namespace AsmBridge

/-! ## Offsets -/

/-- No number runs up to the end of a text. -/
def Text.EndsApart (t : Text) : Prop :=
  ∀ c ∈ t.getLast?, c ≠ '-' ∧ isDecimalDigit c = false

/-- No offset starts in a text that no number runs up to the end of. -/
theorem Text.EndsApart.parse?_eq_none {front s : Text} (hl : front.EndsApart) (hs : s <:+ front) (hne : s ≠ [])
    {x : Text} (hx : '[' ∉ s ++ x) (y : Text) : Displacement.parse? (s ++ x ++ '[' :: y) = none := by
  obtain ⟨r, c, rfl⟩ := (List.eq_nil_or_concat s).resolve_left hne
  rw [List.concat_eq_append] at hs hx ⊢
  have hc : c ∈ front.getLast? := by
    obtain ⟨u, rfl⟩ := hs
    simp
  obtain ⟨hsign, hdigit⟩ := hl c hc
  exact Displacement.parse?_eq_none_of_mem hsign hdigit (by simp) hx

theorem not_infix_append_moved {front : Text} (hf : ¬ "/*".toList <:+: front) (n : Int) {base : Text}
    (hb : base ∈ ["rbp".toList, "rsp".toList]) : ¬ "/*".toList <:+: front ++ (Decimal.ofInt n ++ '[' :: (base ++ [']'])) := by
  have hmark : ∀ base ∈ ["rbp".toList, "rsp".toList], ∀ c ∈ '[' :: (base ++ [']']), c ∉ "/*".toList := by decide
  have hdigit : ∀ c ∈ "/*".toList, c ≠ '-' ∧ c.isDigit = false := by decide
  have hall : ∀ c ∈ Decimal.ofInt n ++ '[' :: (base ++ [']']), c ∉ "/*".toList := by
    intro c hc hm
    rcases List.mem_append.mp hc with hc | hc
    · exact Decimal.not_mem_ofInt (hdigit c hm).1 (hdigit c hm).2 hc
    · exact hmark base hb c hc hm
  refine Text.not_infix_append hf (fun hi => ?_) (.inr fun c hc => hall c (List.mem_of_head? hc))
  exact hall '/' (hi.subset (by decide)) (by decide)

theorem getLast?_append_moved (front : Text) (n : Int) (base : Text) :
    (front ++ (Decimal.ofInt n ++ '[' :: (base ++ [']']))).getLast? = some ']' := by
  simp only [← List.cons_append, ← List.append_assoc, List.getLast?_concat]

theorem not_isBlank_getLast?_moved (front : Text) (n : Int) (base : Text) :
    ∀ c ∈ (front ++ (Decimal.ofInt n ++ '[' :: (base ++ [']']))).getLast?, isBlank c = false := by
  intro c hc
  rw [getLast?_append_moved] at hc
  cases hc
  decide

section

variable {front address : Text} (hf : '[' ∉ front) (hl : front.EndsApart) (hfc : ¬ "/*".toList <:+: front)
include hf hl hfc

/-- An operand that stayed stays. -/
theorem insertOffsets_operandLine (ho : '[' ∉ address) (hac : ¬ "/*".toList <:+: address) :
    insertOffsets (dropComments (operandLine front address)) = .ok (operandLine front address) := by
  have ht : '[' ∉ address ++ [']'] := by simp [ho]
  have hnone : ¬ "/*".toList <:+: operandLine front address :=
    Text.not_infix_append_cons (by decide) hfc (Text.not_infix_append_cons (by decide) hac (y := []) (by decide))
  rw [dropComments_eq_self hnone, operandLine, insertOffsets_append, insertOffsets_bracket ht]
  · rfl
  · intro s hs hne
    have h := hl.parse?_eq_none hs hne (x := []) (by rw [List.append_nil]; exact fun hm => hf (hs.subset hm))
      (address ++ [']'])
    rwa [List.append_nil] at h

/-- The offset of an operand that moved comes back into the brackets. -/
theorem insertOffsets_movedOperand (hac : ¬ "*/".toList <:+: address) (hn : '\n' ∉ address) {n : Int}
    (hlen : (Decimal.ofNat n.natAbs).length ≤ Decimal.digitLimit) {base : Text}
    (hb : base ∈ ["rbp".toList, "rsp".toList]) :
    insertOffsets (dropComments (front ++ movedOperand n base address)) = .ok (operandLine front (displaced base n)) := by
  have hbase : ∀ base ∈ ["rbp".toList, "rsp".toList], base ≠ [] ∧ ∀ c ∈ base, isWordChar c := by
    decide
  obtain ⟨hne, hword⟩ := hbase base hb
  have hbody : ¬ "*/".toList <:+: ' ' :: '[' :: (address ++ [']']) :=
    Text.not_infix_append_cons (x := [' ']) (by decide) (by decide)
      (Text.not_infix_append_cons (by decide) hac (y := []) (by decide))
  have hline : '\n' ∉ ' ' :: '[' :: (address ++ [']']) := by
    simp [hn]
  have hdrop := dropComments_lastComment (not_infix_append_moved hfc n hb) (not_isBlank_getLast?_moved front n base) hbody hline
  have hmoved : front ++ movedOperand n base address = front ++ (Decimal.ofInt n ++ '[' :: (base ++ [']'])) ++
      (" /*".toList ++ (' ' :: '[' :: (address ++ [']']) ++ " */".toList)) := by
    simp only [movedOperand, List.append_assoc, List.cons_append, List.nil_append]
  rw [hmoved, hdrop, insertOffsets_append, insertOffsets_ofInt hlen hne hword]
  · rfl
  · intro s hs hne
    have hx : '[' ∉ s ++ Decimal.ofInt n := by
      rw [List.mem_append, not_or]
      exact ⟨fun hm => hf (hs.subset hm), Decimal.not_mem_ofInt (by decide) (by decide)⟩
    have h := hl.parse?_eq_none hs hne hx (base ++ [']'])
    rwa [List.append_assoc] at h

end

theorem bracket_not_mem_displaced {base : Text} (hb : base ∈ ["rbp".toList, "rsp".toList]) {n : Int} :
    '[' ∉ displaced base n := by
  have hbase : ∀ base ∈ ["rbp".toList, "rsp".toList], '[' ∉ base := by decide
  have hsign : '[' ∉ if n < 0 then " - ".toList else " + ".toList := by
    split <;> decide
  rw [displaced, List.mem_append, List.mem_append, not_or, not_or]
  exact ⟨⟨hbase base hb, hsign⟩, Decimal.not_mem_ofNat (by decide)⟩

/-! ## The parts of an instruction -/

namespace InstructionLine

variable (l : InstructionLine)

/-- The instruction in front of its memory operand. -/
def front (o : MemoryOperand) : Text :=
  l.mnemonic.meant ++ (l.operands ++ o.shownMarker)

theorem respelled_eq {o : MemoryOperand} (ho : l.memory = some o) : l.respelled = operandLine (l.front o) o.address := by
  simp only [respelled, ho, Option.elim_some, MemoryOperand.shown, MemoryOperand.bracketed, operandLine, front,
    List.append_assoc]

theorem bracket_not_mem_meant : '[' ∉ l.mnemonic.meant := fun h =>
  absurd (Mnemonic.isWordChar_of_mem_meant h) (by decide)

variable {o : MemoryOperand}

theorem bracket_not_mem_front : '[' ∉ l.front o := by
  have hm : '[' ∉ o.shownMarker := by
    rw [MemoryOperand.shownMarker]
    cases o.size with
    | none => exact List.not_mem_nil
    | some size => cases size <;> decide
  rw [front, List.mem_append, List.mem_append, not_or, not_or]
  exact ⟨l.bracket_not_mem_meant, l.plain.opening, hm⟩

theorem isBlank_getLast?_shownMarker : ∀ c ∈ o.shownMarker.getLast?, isBlank c := by
  rw [MemoryOperand.shownMarker]
  cases o.size with
  | none => simp
  | some size => cases size <;> decide

variable (ho : l.memory = some o)
include ho

theorem getLast?_meant_operands : ∀ c ∈ (l.mnemonic.meant ++ l.operands).getLast?, isBlank c ∨ c = ',' := by
  intro c hc
  rcases Text.mem_getLast?_append hc with hc | ⟨hnil, -⟩
  · exact (l.follows o ho).apart c hc
  · exact absurd hnil (l.follows o ho).nonempty

theorem getLast?_front : ∀ c ∈ (l.front o).getLast?, isBlank c ∨ c = ',' := by
  intro c hc
  rw [front, ← List.append_assoc] at hc
  rcases Text.mem_getLast?_append hc with hc | ⟨-, hc⟩
  · exact .inl (isBlank_getLast?_shownMarker c hc)
  · exact l.getLast?_meant_operands ho c hc

theorem endsApart_front : (l.front o).EndsApart := by
  intro c hc
  rcases l.getLast?_front ho c hc with h | rfl
  · refine ⟨?_, isDecimalDigit_of_isBlank h⟩
    rintro rfl
    exact absurd h (by decide)
  · exact ⟨by decide, rfl⟩

theorem not_infix_front {word : Text} (hw : word ∈ keywords) (hr : word ∉ respelledMnemonics) :
    ¬ word <:+: l.front o :=
  l.not_infix_append hw (l.mnemonic.not_infix_meant hw hr) (o.not_infix_shownMarker hw) (by simp [ho])

end InstructionLine

/-! ## Sizes -/

theorem OperandSize.text_mem_pointerSizes {size : OperandSize} (h : size.isVector = false) : size.text ∈ pointerSizes := by
  revert h
  cases size <;> decide

namespace InstructionLine

variable (l : InstructionLine) {o : MemoryOperand} (ho : l.memory = some o) {address : Text} (ha : '[' ∉ address)
include ho ha

omit ha in
/-- A size at the end of the front would be the end of the mnemonic, which is no size itself. -/
theorem endsWord_front {u size : Text} (hs : size ∈ pointerSizes)
    (he : l.mnemonic.meant ++ l.operands.trimEnd = u ++ size) : endsWord false u = true := by
  have hnil : l.operands.trimEnd = [] := by
    rcases List.suffix_or_suffix_of_suffix (he ▸ List.suffix_append u size)
      (List.suffix_append l.mnemonic.meant l.operands.trimEnd) with h | h
    · exact absurd h ((l.follows o ho).unsized size hs)
    · obtain ⟨blanks, -, hop, -⟩ := l.operands.exists_trimEnd
      cases ht : l.operands.trimEnd with
      | nil => rfl
      | cons c r =>
          have hc : isBlank c := l.gap c (by rw [hop, ht]; rfl)
          have hw := isWordChar_of_mem_size hs c (h.subset (ht ▸ List.mem_cons_self))
          rw [isWordChar_of_isBlank hc] at hw
          cases hw
  rw [hnil, List.append_nil] at he
  unfold endsWord
  split
  · rename_i hu
    rw [List.getLast?_eq_none_iff.mp hu, List.nil_append] at he
    exact absurd (he ▸ hs) l.mnemonic.meant_not_size
  · rename_i c hc
    refine Mnemonic.isWordChar_of_mem_meant (m := l.mnemonic) ?_
    rw [he]
    exact List.mem_append_left size (List.mem_of_getLast? hc)

/-- A size marker gets its `ptr` back. -/
theorem insertPointers_size {size : OperandSize} (hs : o.size = some size) (hv : size.isVector = false) :
    insertPointers false (operandLine (l.front o) address) =
      l.mnemonic.meant ++ (l.operands ++ (o.meantMarker ++ '[' :: (address ++ [']']))) := by
  have hx : '[' ∉ l.mnemonic.meant ++ l.operands := by
    rw [List.mem_append, not_or]
    exact ⟨l.bracket_not_mem_meant, l.plain.opening⟩
  have ht : '[' ∉ address ++ [']'] := by simp [ha]
  have hl : ∀ c ∈ (l.mnemonic.meant ++ l.operands).getLast?, isWordChar c = false := by
    intro c hc
    rcases l.getLast?_meant_operands ho c hc with h | rfl
    · exact isWordChar_of_isBlank h
    · decide
  have h := AsmBridge.insertPointers_size hx hl (OperandSize.text_mem_pointerSizes hv) ht
  have hshown : o.shownMarker = size.text ++ [' '] := by
    simp only [MemoryOperand.shownMarker, hs, hv, Bool.false_eq_true, ↓reduceIte]
  have hmeant : o.meantMarker = size.text ++ " ptr ".toList := by
    simp only [MemoryOperand.meantMarker, hs, hv, Bool.false_eq_true, ↓reduceIte, MemoryOperand.marker]
  rw [operandLine, front, hshown, hmeant]
  simp only [String.reduceToList, List.append_assoc, List.cons_append, List.nil_append] at h ⊢
  exact h

/-- A memory operand without size marker gets none. -/
theorem insertPointers_bare (hb : o.shownMarker = []) (hm : o.meantMarker = []) :
    insertPointers false (operandLine (l.front o) address) =
      l.mnemonic.meant ++ (l.operands ++ (o.meantMarker ++ '[' :: (address ++ [']']))) := by
  obtain ⟨blanks, hblank, hop, hlast⟩ := l.operands.exists_trimEnd
  have hne : l.mnemonic.meant ≠ [] := l.mnemonic.meant_ne_nil
  have ht : '[' ∉ address ++ [']'] := by simp [ha]
  have hf : '[' ∉ l.mnemonic.meant ++ l.operands.trimEnd := by
    rw [List.mem_append, not_or]
    exact ⟨l.bracket_not_mem_meant, fun h => l.plain.opening (hop ▸ List.mem_append_left blanks h)⟩
  have hl : ∀ c ∈ (l.mnemonic.meant ++ l.operands.trimEnd).getLast?, isBlank c = false := by
    intro c hc
    rcases Text.mem_getLast?_append hc with hc | ⟨-, hc⟩
    · exact hlast c hc
    · exact not_isBlank_of_isWordChar (Mnemonic.isWordChar_of_mem_meant (List.mem_of_getLast? hc))
  have h := AsmBridge.insertPointers_bare hf hblank hl (fun u size hs he => l.endsWord_front ho hs he) ht
  have hline : operandLine (l.front o) address =
      l.mnemonic.meant ++ l.operands.trimEnd ++ (blanks ++ '[' :: (address ++ [']'])) := by
    rw [operandLine, front, hb, List.append_nil, List.append_assoc, List.append_assoc, ← List.append_assoc _ blanks,
      ← hop]
  rw [hline, h, ← hline, operandLine, front, hb, hm, List.append_nil, List.append_assoc]
  rfl

theorem insertPointers_operandLine :
    insertPointers false (operandLine (l.front o) address) =
      l.mnemonic.meant ++ (l.operands ++ (o.meantMarker ++ '[' :: (address ++ [']']))) := by
  cases hs : o.size with
  | none =>
      refine l.insertPointers_bare ho ha ?_ ?_
      · rw [MemoryOperand.shownMarker, hs]
      · rw [MemoryOperand.meantMarker, hs]
  | some size =>
      cases hv : size.isVector with
      | false => exact l.insertPointers_size ho ha hs hv
      | true =>
          refine l.insertPointers_bare ho ha ?_ ?_
          · simp only [MemoryOperand.shownMarker, hs, hv, ↓reduceIte]
          · simp only [MemoryOperand.meantMarker, hs, hv, ↓reduceIte]

end InstructionLine

/-! ## Instructions in Intel syntax -/

theorem toIntel_of_insertOffsets {t moved out : Text} (h : insertOffsets (dropComments t) = .ok moved)
    (hp : insertPointers false moved = out) (ht : out.IsTrimmed) : toIntel t = .ok out := by
  rw [toIntel, h]
  change Except.ok (insertPointers false moved).trim = _
  rw [hp, ht.trim_eq]

theorem toIntel_eq_self {t : Text} (hb : '[' ∉ t) (hc : ¬ "/*".toList <:+: t) (ht : t.IsTrimmed) : toIntel t = .ok t :=
  toIntel_of_insertOffsets (by rw [dropComments_eq_self hc, insertOffsets_eq_self hb]) (insertPointers_eq_self hb false) ht

namespace InstructionLine

variable (l : InstructionLine)

theorem isTrimmed_meant_append {tail : Text} (ht : ∀ c ∈ tail.getLast?, isBlank c = false) :
    Text.IsTrimmed (l.mnemonic.meant ++ tail) := by
  have hall : ∀ c ∈ l.mnemonic.meant, isBlank c = false := fun c hc =>
    not_isBlank_of_isWordChar (Mnemonic.isWordChar_of_mem_meant hc)
  constructor
  · intro c hc
    cases hm : l.mnemonic.meant with
    | nil => exact absurd hm l.mnemonic.meant_ne_nil
    | cons d r =>
        rw [hm] at hc
        cases hc
        exact hall c (hm ▸ List.mem_cons_self)
  · intro c hc
    rcases Text.mem_getLast?_append hc with hc | ⟨-, hc⟩
    · exact ht c hc
    · exact hall c (List.mem_of_getLast? hc)

theorem bracket_not_mem_respelled (hm : l.memory = none) : '[' ∉ l.respelled := by
  have hcount : ∀ count ∈ [[], ", 1".toList], '[' ∉ count := by decide
  rw [respelled, hm, Option.elim_none, List.mem_append, List.mem_append, not_or, not_or]
  exact ⟨l.bracket_not_mem_meant, l.plain.opening, hcount _ l.impliedCount_mem⟩

/-- Without a memory operand the assembler is given what the line shows. -/
theorem toIntel_respelled (hm : l.memory = none) : toIntel l.respelled = .ok l.respelled := by
  have hcount : ∀ count ∈ [[], ", 1".toList], ¬ "/*".toList <:+: count ∧ (∀ c ∈ count.head?, c = ',') ∧
      ∀ c ∈ count.getLast?, isBlank c = false := by
    decide
  obtain ⟨hc, hh, hl⟩ := hcount l.impliedCount l.impliedCount_mem
  have hb := l.bracket_not_mem_respelled hm
  rw [respelled, hm, Option.elim_none] at hb ⊢
  refine toIntel_eq_self hb ?_ (l.isTrimmed_meant_append fun c hlast => ?_)
  · exact l.not_infix_append (by decide) (l.mnemonic.not_infix_meant (by decide) (by decide)) hc fun _ => hh
  · rcases Text.mem_getLast?_append hlast with hc | ⟨-, hc⟩
    · exact hl c hc
    · exact l.ends hm c hc

/-- With a memory operand the assembler is given the operand that is meant. -/
theorem toIntel_operand {o : MemoryOperand} (ho : l.memory = some o) {t address : Text} (ha : '[' ∉ address)
    (h : insertOffsets (dropComments t) = .ok (operandLine (l.front o) address)) :
    toIntel t = .ok (l.mnemonic.meant ++ (l.operands ++ (o.meantMarker ++ '[' :: (address ++ [']'])))) := by
  refine toIntel_of_insertOffsets h (l.insertPointers_operandLine ho ha) (l.isTrimmed_meant_append fun c hc => ?_)
  simp only [← List.cons_append, ← List.append_assoc, List.getLast?_concat, Option.mem_def, Option.some.injEq] at hc
  subst hc
  decide

end InstructionLine

end AsmBridge
