import AsmBridge.Proofs.Line.Instruction
import AsmBridge.Proofs.Line.Lemmas.Bracketed
import AsmBridge.Proofs.Line.Lemmas.Comment

/-!
# Respelling of instruction lines

What the changes that know nothing of frame and constants do to an instruction line: it is disabled, its size
markers go, and a mnemonic that conversion looks for gets its other form.
-/

namespace AsmBridge

/-! ## Mnemonics -/

theorem toNat_lt_of_isLower {c : Char} (h : c.isLower) : c.toNat < 0x80 := by
  obtain ⟨-, hz⟩ := Bool.and_eq_true_iff.mp h
  exact Nat.lt_of_le_of_lt (of_decide_eq_true hz) (by decide)

namespace Mnemonic

variable (m : Mnemonic)

theorem exists_cons : ∃ c r, m.text = c :: r ∧ c.isLower ∧ ∀ d ∈ r, d.isLower ∨ d.isDigit := by
  have hf := m.form
  cases ht : m.text with
  | nil =>
      rw [ht] at hf
      cases hf
  | cons c r =>
      rw [ht] at hf
      simp only [isMnemonic, Bool.and_eq_true, List.all_eq_true, Bool.or_eq_true] at hf
      exact ⟨c, r, rfl, hf.1, hf.2⟩

theorem ne_nil : m.text ≠ [] := by
  obtain ⟨c, r, h, -⟩ := m.exists_cons
  rw [h]
  exact List.cons_ne_nil c r

variable {m}

theorem isLower_or_isDigit {c : Char} (h : c ∈ m.text) : c.isLower ∨ c.isDigit := by
  obtain ⟨d, r, ht, hd, hr⟩ := m.exists_cons
  rw [ht] at h
  rcases List.mem_cons.mp h with rfl | h
  · exact .inl hd
  · exact hr c h

theorem isWordChar_of_mem {c : Char} (h : c ∈ m.text) : isWordChar c := by
  have ha : c.isAlphanum := by
    rcases isLower_or_isDigit h with h | h
    · exact Bool.or_eq_true_iff.mpr (.inl (Bool.or_eq_true_iff.mpr (.inr h)))
    · exact Bool.or_eq_true_iff.mpr (.inr h)
  have hn : c.toNat < 0x80 := by
    rcases isLower_or_isDigit h with h | h
    · exact toNat_lt_of_isLower h
    · obtain ⟨-, hz⟩ := Bool.and_eq_true_iff.mp h
      exact Nat.lt_of_le_of_lt (of_decide_eq_true hz) (by decide)
  rw [isWordChar, if_pos hn, ha, Bool.true_or]

theorem not_isBlank_of_mem {c : Char} (h : c ∈ m.text) : isBlank c = false :=
  not_isBlank_of_isWordChar (isWordChar_of_mem h)

theorem not_mem {c : Char} (hl : c.isLower = false) (hd : c.isDigit = false) : c ∉ m.text := by
  intro h
  rcases isLower_or_isDigit h with h | h
  · rw [hl] at h
    cases h
  · rw [hd] at h
    cases h

variable (m) in
theorem head?_append (tail : Text) : ∀ c ∈ (m.text ++ tail).head?, c.isLower ∧ isBlank c = false := by
  intro c hc
  obtain ⟨d, r, ht, hd, -⟩ := m.exists_cons
  rw [ht] at hc
  cases hc
  exact ⟨hd, not_isBlank_of_mem (m := m) (ht ▸ List.mem_cons_self)⟩

variable (m) in
theorem meant_cases : m.meant = m.text ∨ m.meant = "mov".toList := by
  rw [meant]
  split
  · exact .inr rfl
  · exact .inl rfl

variable (m) in
theorem meant_ne_nil : m.meant ≠ [] := by
  rcases m.meant_cases with h | h
  · rw [h]
    exact m.ne_nil
  · rw [h]
    decide

variable (m) in
theorem meant_not_size : m.meant ∉ pointerSizes := by
  rcases m.meant_cases with h | h
  · rw [h]
    exact m.notSize
  · rw [h]
    decide

theorem isWordChar_of_mem_meant {c : Char} (h : c ∈ m.meant) : isWordChar c := by
  rcases m.meant_cases with hm | hm
  · rw [hm] at h
    exact isWordChar_of_mem h
  · rw [hm] at h
    have hall : ∀ c ∈ "mov".toList, isWordChar c := by decide
    exact hall c h

end Mnemonic

/-! ## The ends of the pieces -/

namespace InstructionLine

variable (l : InstructionLine)

theorem getLast?_text : ∀ c ∈ l.text.getLast?, isBlank c = false := by
  intro c hc
  rw [text] at hc
  cases hm : l.memory with
  | none =>
      rw [hm, Option.elim_none, List.append_nil] at hc
      rcases Text.mem_getLast?_append hc with hc | ⟨-, hc⟩
      · exact l.ends hm c hc
      · exact Mnemonic.not_isBlank_of_mem (List.mem_of_getLast? hc)
  | some o =>
      rw [hm, Option.elim_some, MemoryOperand.render] at hc
      simp only [← List.cons_append, ← List.append_assoc, List.getLast?_concat, Option.mem_def, Option.some.injEq] at hc
      subst hc
      decide

theorem isTrimmed_text : l.text.IsTrimmed :=
  ⟨fun c hc => (l.mnemonic.head?_append _ c hc).2, l.getLast?_text⟩

theorem trim_render : l.render.trim = l.text :=
  Text.trim_append l.indent_blank l.trailing_blank l.isTrimmed_text

/-- What follows the mnemonic starts with white space, if not with what follows the line. -/
theorem head?_operands_append (tail : Text) :
    ∀ c ∈ (l.operands ++ tail).head?, isBlank c ∨ l.memory = none ∧ c ∈ tail.head? := by
  intro c hc
  cases ho : l.operands with
  | cons d r =>
      rw [ho] at hc
      exact .inl (l.gap c (by rw [ho]; exact hc))
  | nil =>
      rw [ho] at hc
      cases hm : l.memory with
      | some o => exact absurd ho (l.follows o hm).nonempty
      | none => exact .inr ⟨rfl, hc⟩

theorem head?_rest : ∀ c ∈ (l.operands ++ (l.memory.elim [] MemoryOperand.render ++ l.trailing)).head?, isBlank c := by
  intro c hc
  rcases l.head?_operands_append _ c hc with h | ⟨hm, h⟩
  · exact h
  · rw [hm] at h
    exact l.trailing_blank c (List.mem_of_head? h)

theorem render_eq : l.render =
    l.indent ++ (l.mnemonic.text ++ (l.operands ++ (l.memory.elim [] MemoryOperand.render ++ l.trailing))) := by
  rw [render, text, List.append_assoc, List.append_assoc]

theorem trimStart_render : Text.trimStart l.render =
    l.mnemonic.text ++ (l.operands ++ (l.memory.elim [] MemoryOperand.render ++ l.trailing)) := by
  rw [render_eq]
  exact Text.trimStart_append l.indent_blank fun c hc => (l.mnemonic.head?_append _ c hc).2

end InstructionLine

/-! ## Steps that pass over an instruction -/

theorem startsBlock_of_prefix {t : Text} (h : blockOpening <+: t ∨ '.' :: blockOpening <+: t) :
    startsBlock t = true := by
  rcases h with h | h
  · obtain ⟨r, rfl⟩ := h
    rfl
  · obtain ⟨r, rfl⟩ := h
    rfl

/-- A word that names no block, with no block behind it, is not the mnemonic of a jump to one. -/
theorem Jump.ofLine?_eq_none {line word rest : Text} (ht : line.trimStart = 'j' :: (word ++ rest))
    (hw : ∀ c ∈ word, isWordChar c) (hL : 'L' ∉ word) (hb : ∀ c ∈ rest.head?, isBlank c)
    (hs : startsBlock (Text.trimStart rest) = false) : ofLine? line = none := by
  have hrest : ∀ c ∈ rest.head?, isWordChar c = false := fun c hc => isWordChar_of_isBlank (hb c hc)
  simp only [ofLine?, ht, Text.takeWhile_append hw hrest, Text.dropWhile_append hw hrest, hs, Bool.false_eq_true,
    ↓reduceIte, splitAtBlock_eq_none (fun h => hL (h.subset (by decide))), Option.map_none]

theorem Jump.ofLine?_eq_none_of_head {line : Text} (h : line.trimStart.head? ≠ some 'j') : ofLine? line = none := by
  unfold ofLine?
  split
  · rename_i r hr
    rw [hr] at h
    exact absurd rfl h
  · rfl

namespace InstructionLine

variable (l : InstructionLine)

theorem startsBlock_render : startsBlock l.render = false := by
  rw [render_eq]
  refine startsBlock_append_eq_false l.indent_blank fun c hc hm => ?_
  have hall : ∀ c ∈ ".L".toList, c.isLower = false := by decide
  have hlower := (l.mnemonic.head?_append _ c hc).1
  rw [hall c hm] at hlower
  cases hlower

theorem respellBlockLabel_render : respellBlockLabel l.render = l.render := by
  rw [respellBlockLabel, blockLabel?, l.startsBlock_render]
  rfl

/-- No block is named behind the mnemonic of a jump. -/
theorem startsBlock_rest (hj : l.mnemonic.text.head? = some 'j') :
    startsBlock (Text.trimStart (l.operands ++ (l.memory.elim [] MemoryOperand.render ++ l.trailing))) = false := by
  have hn := l.notJump hj
  rw [← Bool.not_eq_true] at hn ⊢
  intro h
  apply hn
  rw [← List.append_assoc] at h
  generalize l.operands ++ l.memory.elim [] MemoryOperand.render = rest at h ⊢
  have hb : ∀ mark : Text, mark ≠ [] → (∀ c ∈ mark, isBlank c = false) → mark <+: Text.trimStart (rest ++ l.trailing) →
      mark <+: rest.trimStart := by
    intro mark hne hm hp
    rw [Text.trimStart, List.dropWhile_append] at hp
    split at hp
    · -- Nothing but the white space at the end follows.
      have ht := Text.trimStart_append l.trailing_blank (t := []) (by simp)
      rw [List.append_nil, Text.trimStart] at ht
      rw [ht] at hp
      exact absurd (List.prefix_nil.mp hp) hne
    · refine Text.prefix_of_prefix_append hp fun c hc hcm => ?_
      have hct := l.trailing_blank c (List.mem_of_head? hc)
      rw [hm c hcm] at hct
      cases hct
  refine startsBlock_of_prefix ?_
  rcases prefix_of_startsBlock h with h | h
  · exact .inl (hb _ (by decide) (by decide) h)
  · exact .inr (hb _ (by decide) (by decide) h)

theorem jump_ofLine?_render : Jump.ofLine? l.render = none := by
  obtain ⟨c, r, ht, -, hr⟩ := l.mnemonic.exists_cons
  have htrim := l.trimStart_render
  rw [ht, List.cons_append] at htrim
  by_cases hc : c = 'j'
  · subst hc
    refine Jump.ofLine?_eq_none htrim ?_ ?_ l.head?_rest (l.startsBlock_rest (by rw [ht]; rfl))
    · exact fun d hd => Mnemonic.isWordChar_of_mem (m := l.mnemonic) (ht ▸ List.mem_cons_of_mem _ hd)
    · intro hm
      rcases hr _ hm with h | h <;> exact absurd h (by decide)
  · refine Jump.ofLine?_eq_none_of_head fun h => hc ?_
    rw [htrim] at h
    exact Option.some.inj h

theorem respellJump_render : respellJump l.render = l.render := by
  rw [respellJump, l.jump_ofLine?_render]

theorem respellCall_render : respellCall l.render = l.render := by
  have hc : Text.after? (Text.trimStart l.render) callMnemonic = none := by
    rw [l.trimStart_render, Text.after?_eq_none_iff]
    intro hp
    refine l.mnemonic.notCall (Text.prefix_of_prefix_append hp fun c hc hm => ?_)
    have hb := l.head?_rest c hc
    have hall : ∀ c ∈ callMnemonic, isBlank c = false := by decide
    rw [hall c hm] at hb
    cases hb
  rw [respellCall, hc]

theorem isForeign_render : isForeign l.render = true := by
  obtain ⟨c, r, ht, hc, hr⟩ := l.mnemonic.exists_cons
  have hf : (Text.fields l.render).head? = some l.mnemonic.text := by
    rw [render_eq]
    exact Text.head?_fields l.indent_blank (fun d hd => Mnemonic.not_isBlank_of_mem hd) l.mnemonic.ne_nil l.head?_rest
  have hcolon : l.mnemonic.text.contains ':' = false := by
    rw [← Bool.not_eq_true, List.contains_iff_mem]
    exact Mnemonic.not_mem (by decide) (by decide)
  have hlow : startsLowercase l.mnemonic.text = true := by
    rw [ht, startsLowercase, isLowercase, if_pos (toNat_lt_of_isLower hc), hc]
  unfold isForeign
  split
  · rename_i hn
    rw [hn] at hf
    cases hf
  · rename_i field fields hn
    rw [hn] at hf
    cases hf
    rw [hcolon, hlow]
    rfl

theorem disableForeign_render : disableForeign l.render = disabledMargin ++ l.text := by
  rw [disableForeign, if_pos l.isForeign_render, disable, l.trim_render]

end InstructionLine

/-! ## Keywords in a line -/

/-- The texts that conversion looks for have nothing in them that separates operands. -/
theorem separator_not_mem_keyword {word : Text} (hw : word ∈ keywords) {c : Char}
    (hc : isBlank c = true ∨ c = ',' ∨ c = '[') : c ∉ word := by
  have hall : ∀ word ∈ keywords, ∀ c ∈ word, isBlank c = false ∧ c ≠ ',' ∧ c ≠ '[' := by decide
  intro hm
  obtain ⟨hb, hn, ho⟩ := hall word hw c hm
  rcases hc with h | h | h
  · rw [hb] at h
    cases h
  · exact hn h
  · exact ho h

theorem not_infix_nil {word : Text} (hw : word ∈ keywords) : ¬ word <:+: [] := by
  have hall : ∀ word ∈ keywords, ¬ word <:+: [] := by decide
  exact hall word hw

theorem not_infix_of_isBlank {word : Text} (hw : word ∈ keywords) {t : Text} (ht : ∀ c ∈ t, isBlank c) :
    ¬ word <:+: t := by
  intro hi
  cases hword : word with
  | nil => exact not_infix_nil hw (hword ▸ List.nil_infix)
  | cons c r =>
      have hc : c ∈ word := hword ▸ List.mem_cons_self
      exact separator_not_mem_keyword hw (.inl (ht c (hi.subset hc))) hc

theorem not_infix_disabled {word : Text} (hw : word ∈ keywords) {t : Text} (h : ¬ word <:+: t) :
    ¬ word <:+: disabledMargin ++ t := by
  have hall : ∀ word ∈ keywords, ¬ word <:+: disabledMargin := by decide
  refine Text.not_infix_append (hall word hw) h (.inl fun c hc => ?_)
  cases hc
  exact separator_not_mem_keyword hw (.inl (by decide))

/-- A mnemonic holds no keyword but the one that it is. -/
theorem Mnemonic.not_infix (m : Mnemonic) {word : Text} (hw : word ∈ keywords)
    (h : m.text = word → word ∉ respelledMnemonics) : ¬ word <:+: m.text := by
  rcases m.plain with hr | hp
  · have hall : ∀ mnemonic ∈ respelledMnemonics, ∀ word ∈ keywords, mnemonic = word ∨ ¬ word <:+: mnemonic := by decide
    rcases hall m.text hr word hw with he | hn
    · exact absurd (he ▸ hr) (h he)
    · exact hn
  · exact hp word hw

theorem Mnemonic.not_infix_meant (m : Mnemonic) {word : Text} (hw : word ∈ keywords)
    (h : word ∉ respelledMnemonics) : ¬ word <:+: m.meant := by
  rcases m.meant_cases with hm | hm
  · rw [hm]
    exact m.not_infix hw fun _ => h
  · rw [hm]
    have hall : ∀ word ∈ keywords, ¬ word <:+: "mov".toList := by decide
    exact hall word hw

namespace MemoryOperand

variable (o : MemoryOperand)

/-- The operand without size. -/
def bracketed : Text :=
  '[' :: (o.address ++ [']'])

/-- What is left of the size marker. -/
def shownMarker : Text :=
  match o.size with
  | none => []
  | some size => if size.isVector then [] else size.text ++ [' ']

/-- What is left of the operand without its size markers. -/
def shown : Text :=
  o.shownMarker ++ o.bracketed

theorem not_infix_append_bracketed {word : Text} (hw : word ∈ keywords) {front : Text} (hf : ¬ word <:+: front) :
    ¬ word <:+: front ++ o.bracketed := by
  have hall : ∀ word ∈ keywords, ']' ∉ word := by decide
  have hclose : ¬ word <:+: o.address ++ ']' :: [] :=
    Text.not_infix_append_cons (hall word hw) (o.plain.keywords word hw) (not_infix_nil hw)
  exact Text.not_infix_append_cons (separator_not_mem_keyword hw (.inr (.inr rfl))) hf hclose

theorem not_infix_shownMarker {word : Text} (hw : word ∈ keywords) : ¬ word <:+: o.shownMarker := by
  rw [shownMarker]
  cases o.size with
  | none => exact not_infix_nil hw
  | some size =>
      have hall : ∀ word ∈ keywords, ¬ word <:+: if size.isVector then [] else size.text ++ [' '] := by
        cases size <;> decide
      exact hall word hw

theorem not_infix_shown {word : Text} (hw : word ∈ keywords) : ¬ word <:+: o.shown :=
  o.not_infix_append_bracketed hw (o.not_infix_shownMarker hw)

theorem isTrimmed_bracketed : o.bracketed.IsTrimmed := by
  constructor
  · intro c hc
    cases hc
    decide
  · intro c hc
    rw [bracketed, ← List.cons_append, List.getLast?_concat] at hc
    cases hc
    decide

theorem trim_bracketed : Text.trim (' ' :: o.bracketed) = o.bracketed := by
  have h := Text.trim_append (x := [' ']) (y := []) (by decide) (by simp) o.isTrimmed_bracketed
  rwa [List.append_nil] at h

end MemoryOperand

namespace InstructionLine

variable (l : InstructionLine)

/-- The disabled line with `tail` in place of its memory operand. -/
def disabledWith (tail : Text) : Text :=
  disabledMargin ++ (l.mnemonic.text ++ (l.operands ++ tail))

/-- A keyword that is in none of the pieces of an instruction is not in the instruction. -/
theorem not_infix_append {word : Text} (hw : word ∈ keywords) {mnemonic : Text} (hm : ¬ word <:+: mnemonic) {tail : Text}
    (ht : ¬ word <:+: tail) (hn : l.memory = none → ∀ c ∈ tail.head?, c = ',') :
    ¬ word <:+: mnemonic ++ (l.operands ++ tail) := by
  have ho := l.plain.keywords word hw
  have hrest : ¬ word <:+: l.operands ++ tail := by
    cases hmem : l.memory with
    | none => exact Text.not_infix_append ho ht (.inr fun c hc => separator_not_mem_keyword hw (.inr (.inl (hn hmem c hc))))
    | some o =>
        refine Text.not_infix_append ho ht (.inl fun c hc => ?_)
        rcases (l.follows o hmem).apart c hc with h | h
        · exact separator_not_mem_keyword hw (.inl h)
        · exact separator_not_mem_keyword hw (.inr (.inl h))
  refine Text.not_infix_append hm hrest (.inr fun c hc => ?_)
  rcases l.head?_operands_append tail c hc with h | ⟨hmem, h⟩
  · exact separator_not_mem_keyword hw (.inl h)
  · exact separator_not_mem_keyword hw (.inr (.inl (hn hmem c h)))

theorem not_infix_disabledWith {word : Text} (hw : word ∈ keywords) (hm : ¬ word <:+: l.mnemonic.text) {tail : Text}
    (ht : ¬ word <:+: tail) (hn : l.memory = none → ∀ c ∈ tail.head?, c = ',') :
    ¬ word <:+: l.disabledWith tail :=
  not_infix_disabled hw (l.not_infix_append hw hm ht hn)

/-- A line holds no keyword but its mnemonic and its size marker. -/
theorem not_infix_render {word : Text} (hw : word ∈ keywords) (hr : word ∉ respelledMnemonics)
    (hs : ∀ size, ¬ word <:+: MemoryOperand.marker size) : ¬ word <:+: l.render := by
  have hmnemonic := l.mnemonic.not_infix hw fun _ => hr
  have htext : ¬ word <:+: l.text := by
    cases hm : l.memory with
    | none =>
        have h := l.not_infix_append hw hmnemonic (not_infix_nil hw) (by simp)
        rwa [text, hm]
    | some o =>
        have htail : ¬ word <:+: o.render := by
          refine o.not_infix_append_bracketed hw ?_
          cases o.size with
          | none => exact not_infix_nil hw
          | some size => exact hs size
        have h := l.not_infix_append hw hmnemonic htail (by simp [hm])
        rwa [text, hm]
  have hend : ¬ word <:+: l.text ++ l.trailing := by
    refine Text.not_infix_append htext (not_infix_of_isBlank hw l.trailing_blank) (.inr fun c hc => ?_)
    exact separator_not_mem_keyword hw (.inl (l.trailing_blank c (List.mem_of_head? hc)))
  refine Text.not_infix_append (not_infix_of_isBlank hw l.indent_blank) hend (.inl fun c hc => ?_)
  exact separator_not_mem_keyword hw (.inl (l.indent_blank c (List.mem_of_getLast? hc)))

theorem stripComment_render : stripComment l.render = l.render := by
  refine stripComment_eq_self fun h => ?_
  have hn : ¬ "#".toList <:+: l.render :=
    l.not_infix_render (by decide) (by decide) fun size => by cases size <;> decide
  exact hn ((List.singleton_infix_iff '#' l.render).mpr h)

theorem includes_alignDirective_render : l.render.includes alignDirective = false := by
  rw [Text.includes_eq_false_iff]
  exact l.not_infix_render (by decide) (by decide) fun size => by cases size <;> decide

theorem isCommentOnly_render : isCommentOnly l.render = false := by
  have hne : l.render ≠ [] := by
    intro h
    have ht := l.trimStart_render
    rw [h] at ht
    exact l.mnemonic.ne_nil (List.append_eq_nil_iff.mp ht.symm).1
  rw [isCommentOnly, l.stripComment_render]
  cases hr : l.render with
  | nil => exact absurd hr hne
  | cons c r => rfl

/-- A line holds no keyword but its mnemonic once its size markers are gone. -/
theorem not_infix_shown {word : Text} (hw : word ∈ keywords)
    (hm : l.mnemonic.text = word → word ∉ respelledMnemonics) {count : Text} (hc : count ∈ [[], ", 1".toList]) :
    ¬ word <:+: l.disabledWith (l.memory.elim count MemoryOperand.shown) := by
  have hmnemonic := l.mnemonic.not_infix hw hm
  cases ho : l.memory with
  | none =>
      have hall : ∀ word ∈ keywords, ∀ count ∈ [[], ", 1".toList], ¬ word <:+: count := by decide
      have hhead : ∀ count ∈ [[], ", 1".toList], ∀ c ∈ count.head?, c = ',' := by decide
      exact l.not_infix_disabledWith hw hmnemonic (hall word hw count hc) fun _ => hhead count hc
  | some o =>
      exact l.not_infix_disabledWith hw hmnemonic (o.not_infix_shown hw) (by simp [ho])

end InstructionLine

/-! ## Size markers -/

theorem removeMarker_eq_self {t marker : Text} (h : ¬ marker <:+: t) : removeMarker t marker = t := by
  rw [removeMarker, Text.cut?_eq_none_iff.mpr h]

theorem removeMarker_append {c : Char} {head marker : Text} (hc : c ∉ marker) (h : ¬ c :: marker <:+: head)
    (tail : Text) : removeMarker (head ++ (c :: marker ++ tail)) (c :: marker) = head ++ tail.trim := by
  rw [removeMarker, Text.cut?_of_not_infix hc h]

namespace InstructionLine

variable (l : InstructionLine)

/-- A marker in front of the brackets goes, and the space behind it. -/
theorem removeMarker_disabledWith {o : MemoryOperand} (ho : l.memory = some o) {c : Char} {marker front : Text}
    (hw : c :: marker ∈ keywords) (hr : c :: marker ∉ respelledMnemonics) (hc : c ∉ marker)
    (hf : ¬ c :: marker <:+: front) :
    removeMarker (l.disabledWith (front ++ (c :: marker ++ ' ' :: o.bracketed))) (c :: marker) =
      l.disabledWith (front ++ o.bracketed) := by
  have hn : ¬ c :: marker <:+: l.disabledWith front :=
    l.not_infix_disabledWith hw (l.mnemonic.not_infix hw fun _ => hr) hf (by simp [ho])
  have h := removeMarker_append hc hn (' ' :: o.bracketed)
  rw [o.trim_bracketed] at h
  simpa only [disabledWith, List.append_assoc] using h

/-- The sizes of vectors go. -/
theorem removeVectorSizes_disabledWith {o : MemoryOperand} (ho : l.memory = some o) {size : OperandSize}
    (hs : o.size = some size) :
    removeMarker (removeMarker (l.disabledWith (size.text ++ ' ' :: o.bracketed)) "xmmword".toList) "ymmword".toList =
      l.disabledWith o.shown := by
  have hself : ∀ word ∈ ["xmmword".toList, "ymmword".toList], ∀ front : Text, ¬ word <:+: front →
      removeMarker (l.disabledWith (front ++ o.bracketed)) word = l.disabledWith (front ++ o.bracketed) := by
    intro word hw front hf
    have hall : ∀ word ∈ ["xmmword".toList, "ymmword".toList], word ∈ keywords ∧ word ∉ respelledMnemonics := by decide
    obtain ⟨hk, hr⟩ := hall word hw
    exact removeMarker_eq_self (l.not_infix_disabledWith hk (l.mnemonic.not_infix hk fun _ => hr)
      (o.not_infix_append_bracketed hk hf) (by simp [ho]))
  have hfirst : size.text ++ ' ' :: o.bracketed = (size.text ++ [' ']) ++ o.bracketed := by
    rw [List.append_assoc]
    rfl
  have hshown : o.shown = (if size.isVector then [] else size.text ++ [' ']) ++ o.bracketed := by
    rw [MemoryOperand.shown, MemoryOperand.shownMarker, hs]
  have hother : size.isVector = false → ∀ word ∈ ["xmmword".toList, "ymmword".toList],
      ¬ word <:+: size.text ++ [' '] := by
    cases size <;> decide
  rw [hshown]
  cases size with
  | xmmword =>
      have h := l.removeMarker_disabledWith ho (by decide) (by decide) (show 'x' ∉ "mmword".toList by decide)
        (show ¬ 'x' :: "mmword".toList <:+: [] by decide)
      exact (congrArg (removeMarker · "ymmword".toList) h).trans (hself _ (by decide) [] (by decide))
  | ymmword =>
      have h := l.removeMarker_disabledWith ho (by decide) (by decide) (show 'y' ∉ "mmword".toList by decide)
        (show ¬ 'y' :: "mmword".toList <:+: [] by decide)
      have hx := hself "xmmword".toList (by decide) "ymmword ".toList (by decide)
      exact (congrArg (removeMarker · "ymmword".toList) hx).trans h
  | byte | word | dword | qword =>
      have hn := hother rfl
      rw [hfirst, hself _ (by decide) _ (hn _ (by decide)), hself _ (by decide) _ (hn _ (by decide))]
      rfl

/-- A marker that has a keyword in it is no longer in the line. -/
theorem removeMarker_shown {part word : Text} (hp : part ∈ keywords) (hr : part ∉ respelledMnemonics)
    (hw : part <:+: word) :
    removeMarker (l.disabledWith (l.memory.elim [] MemoryOperand.shown)) word =
      l.disabledWith (l.memory.elim [] MemoryOperand.shown) :=
  removeMarker_eq_self fun h => l.not_infix_shown hp (fun _ => hr) (by decide) (hw.trans h)

/-- The line with its size markers removed. -/
theorem removeSizeMarkers_disabledWith :
    removeSizeMarkers (l.disabledWith (l.memory.elim [] MemoryOperand.render)) =
      l.disabledWith (l.memory.elim [] MemoryOperand.shown) := by
  have hhash := l.removeMarker_shown (show "#".toList ∈ keywords by decide) (by decide)
    (show "#".toList <:+: "# NOREX".toList by decide)
  change removeMarker (removeMarker (removeMarker (removeMarker _ "ptr".toList) "xmmword".toList) "ymmword".toList)
    "# NOREX".toList = _
  by_cases hsize : ∃ o ∈ l.memory, ∃ size, o.size = some size
  · obtain ⟨o, ho, size, hs⟩ := hsize
    have hf : ¬ "ptr".toList <:+: size.text ++ [' '] := by
      cases size <;> decide
    have hptr := l.removeMarker_disabledWith ho (by decide) (by decide) (show 'p' ∉ "tr".toList by decide) hf
    have hrender : o.render = (size.text ++ [' ']) ++ ('p' :: "tr".toList ++ ' ' :: o.bracketed) := by
      rw [MemoryOperand.render, hs, Option.elim_some, MemoryOperand.marker, List.append_assoc, List.append_assoc]
      rfl
    rw [Option.mem_def.mp ho] at hhash ⊢
    rw [Option.elim_some, Option.elim_some, hrender, show "ptr".toList = 'p' :: "tr".toList from rfl, hptr,
      List.append_assoc]
    exact (congrArg (removeMarker · "# NOREX".toList) (l.removeVectorSizes_disabledWith ho hs)).trans hhash
  · have hrender : l.memory.elim [] MemoryOperand.render = l.memory.elim [] MemoryOperand.shown := by
      cases hm : l.memory with
      | none => rfl
      | some o =>
          have hs : o.size = none := Option.eq_none_iff_forall_ne_some.mpr fun size hs => hsize ⟨o, hm, size, hs⟩
          rw [Option.elim_some, Option.elim_some, MemoryOperand.render, MemoryOperand.shown, MemoryOperand.shownMarker, hs]
          rfl
    rw [hrender, l.removeMarker_shown (by decide) (by decide) (List.infix_refl "ptr".toList),
      l.removeMarker_shown (by decide) (by decide) (List.infix_refl "xmmword".toList),
      l.removeMarker_shown (by decide) (by decide) (List.infix_refl "ymmword".toList), hhash]

end InstructionLine

/-! ## Shifts and moves -/

theorem addShiftCount_eq_self {t mnemonic : Text} (h : ¬ mnemonic <:+: t) : addShiftCount t mnemonic = t := by
  rw [addShiftCount, Text.cut?_eq_none_iff.mpr h]

namespace InstructionLine

variable (l : InstructionLine)

/-- A keyword is found where it is the mnemonic. -/
theorem cut?_disabledWith {c : Char} {word : Text} (hw : c :: word ∈ keywords) (hc : c ∉ word)
    (hm : l.mnemonic.text = c :: word) (tail : Text) :
    (l.disabledWith tail).cut? (c :: word) = some (disabledMargin, l.operands ++ tail) := by
  have hn : ¬ c :: word <:+: disabledMargin := by
    have h := not_infix_disabled hw (not_infix_nil hw)
    rwa [List.append_nil] at h
  rw [disabledWith, hm]
  exact Text.cut?_of_not_infix hc hn _

theorem impliedCount_mem : l.impliedCount ∈ [[], ", 1".toList] := by
  rw [impliedCount]
  split <;> decide

theorem addShiftCount_of_eq {c : Char} {word : Text} (hw : c :: word ∈ shiftMnemonics) (hm : l.mnemonic.text = c :: word) :
    addShiftCount (l.disabledWith (l.memory.elim [] MemoryOperand.shown)) (c :: word) =
      l.disabledWith (l.memory.elim l.impliedCount MemoryOperand.shown) := by
  have hall : ∀ word ∈ shiftMnemonics, word ∈ keywords ∧ ∀ c ∈ word.head?, c ∉ word.tail := by decide
  obtain ⟨hk, hc⟩ := hall _ hw
  have hshift : l.mnemonic.IsShift := by
    have hmem : ∀ word ∈ shiftMnemonics, word = "shr".toList ∨ word = "sar".toList := by decide
    exact hmem _ (hm ▸ hw)
  rw [addShiftCount, l.cut?_disabledWith hk (hc c rfl) hm]
  cases ho : l.memory with
  | some o =>
      have hcomma : ',' ∈ l.operands := l.shift hshift (by rw [ho]; rfl)
      exact if_pos (List.contains_iff_mem.mpr (List.mem_append_left _ hcomma))
  | none =>
      rw [Option.elim_none, Option.elim_none, List.append_nil, impliedCount]
      by_cases hcomma : ',' ∈ l.operands
      · rw [if_neg fun h => h.2 hcomma]
        exact if_pos (List.contains_iff_mem.mpr hcomma)
      · rw [if_pos ⟨hshift, hcomma⟩]
        refine (if_neg fun h => hcomma (List.contains_iff_mem.mp h)).trans ?_
        simp only [disabledWith, List.append_assoc, List.nil_append]

/-- A count of one is added to a shift without count. -/
theorem addShiftCounts_disabledWith :
    addShiftCounts (l.disabledWith (l.memory.elim [] MemoryOperand.shown)) =
      l.disabledWith (l.memory.elim l.impliedCount MemoryOperand.shown) := by
  have hother : ∀ word ∈ shiftMnemonics, l.mnemonic.text ≠ word → ∀ count ∈ [[], ", 1".toList],
      addShiftCount (l.disabledWith (l.memory.elim count MemoryOperand.shown)) word =
        l.disabledWith (l.memory.elim count MemoryOperand.shown) := by
    intro word hw hne count hc
    have hall : ∀ word ∈ shiftMnemonics, word ∈ keywords := by decide
    exact addShiftCount_eq_self (l.not_infix_shown (hall word hw) (fun h => absurd h hne) hc)
  change addShiftCount (addShiftCount _ "shr".toList) "sar".toList = _
  by_cases hr : l.mnemonic.text = "shr".toList
  · have hne : l.mnemonic.text ≠ "sar".toList := by
      rw [hr]
      decide
    have h := l.addShiftCount_of_eq (by decide) hr
    exact (congrArg (addShiftCount · "sar".toList) h).trans (hother _ (by decide) hne _ l.impliedCount_mem)
  · rw [hother _ (by decide) hr _ (by decide)]
    by_cases ha : l.mnemonic.text = "sar".toList
    · exact l.addShiftCount_of_eq (by decide) ha
    · have hcount : l.impliedCount = [] := if_neg fun h => h.1.elim hr ha
      rw [hother _ (by decide) ha _ (by decide), hcount]

theorem shortenMove_disabledWith :
    shortenMove (l.disabledWith (l.memory.elim l.impliedCount MemoryOperand.shown)) =
      disabledMargin ++ (l.mnemonic.meant ++ (l.operands ++ l.memory.elim l.impliedCount MemoryOperand.shown)) := by
  rw [shortenMove, Mnemonic.meant]
  by_cases hm : l.mnemonic.text = "movabs".toList
  · rw [show "movabs".toList = 'm' :: "ovabs".toList from rfl] at hm ⊢
    rw [l.cut?_disabledWith (by decide) (by decide) hm, if_pos hm]
    exact List.append_assoc _ _ _
  · have hn : ¬ "movabs".toList <:+: l.disabledWith (l.memory.elim l.impliedCount MemoryOperand.shown) :=
      l.not_infix_shown (by decide) (fun h => absurd h hm) l.impliedCount_mem
    rw [Text.cut?_eq_none_iff.mpr hn, if_neg hm]
    rfl

/-! ## The line respelled -/

/-- The instruction of a line with the words that the assembler knows, its memory operand as it stands. -/
def respelled : Text :=
  l.mnemonic.meant ++ (l.operands ++ l.memory.elim l.impliedCount MemoryOperand.shown)

/-- Up to its memory operand, the line is known before the operand is looked at. -/
theorem respell_render : respell l.render = disabledMargin ++ l.respelled := by
  rw [respell, l.respellBlockLabel_render, l.respellJump_render, l.respellCall_render, l.disableForeign_render]
  rw [show disabledMargin ++ l.text = l.disabledWith (l.memory.elim [] MemoryOperand.render) from rfl,
    l.removeSizeMarkers_disabledWith, l.addShiftCounts_disabledWith, l.shortenMove_disabledWith]
  rfl

theorem convertLine_render (table : Table) (layout : Layout) :
    convertLine table layout l.render = (resolveOperands table layout (disabledMargin ++ l.respelled)).map some := by
  rw [convertLine, l.isCommentOnly_render, l.stripComment_render, l.includes_alignDirective_render, l.respell_render]
  rfl

end InstructionLine

end AsmBridge
