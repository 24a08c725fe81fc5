import AsmBridge.Line.Conversion
import AsmBridge.Proofs.Text.Blank

/-!
# Operands in brackets

Respelling neither takes an operand in brackets apart nor adds one, whatever part of the line the operand ends up in.
-/

namespace AsmBridge

/-- An operand in brackets that has none of the marks that respelling looks for. -/
structure IsBracketed (b : Text) : Prop where
  form : ∃ inner, b = '[' :: (inner ++ [']'])
  unmarked : ∀ mark ∈ "movabs".toList :: sizeMarkers, ¬ mark <:+: b

theorem respellBlockLabel_eq_self {t : Text} (h : blockLabel? t = none) : respellBlockLabel t = t := by
  rw [respellBlockLabel, h]
  rfl

/-! ## Jumps -/

theorem prefix_of_startsBlock {t : Text} (h : startsBlock t = true) :
    blockOpening <+: t ∨ '.' :: blockOpening <+: t := by
  unfold startsBlock at h
  split at h
  · exact .inr (List.cons_prefix_cons.mpr ⟨rfl, List.isPrefixOf_iff_prefix.mp h⟩)
  · exact .inl (List.isPrefixOf_iff_prefix.mp h)

theorem startsBlock_eq_false {t : Text} (h : ∀ c ∈ t.head?, c ∉ ".L".toList) : startsBlock t = false := by
  rw [← Bool.not_eq_true]
  intro hs
  rcases prefix_of_startsBlock hs with ⟨r, rfl⟩ | ⟨r, rfl⟩
  · exact h 'L' rfl (by decide)
  · exact h '.' rfl (by decide)

/-- White space and what names no block start no block. -/
theorem startsBlock_append_eq_false {x t : Text} (hx : ∀ c ∈ x, isBlank c) (ht : ∀ c ∈ t.head?, c ∉ ".L".toList) :
    startsBlock (x ++ t) = false := by
  have hall : ∀ c ∈ ".L".toList, isBlank c = false := by decide
  refine startsBlock_eq_false fun c hc hm => ?_
  cases x with
  | nil => exact ht c hc hm
  | cons d x =>
      cases hc
      have hc := hx c List.mem_cons_self
      rw [hall c hm] at hc
      cases hc

theorem Jump.splitAtBlock_eq_none {t : Text} (h : ¬ blockOpening <:+: t) : splitAtBlock t = none := by
  induction t with
  | nil => rfl
  | cons c t ih =>
      rw [List.infix_cons_iff, not_or] at h
      have hp : blockOpening.isPrefixOf (c :: t) = false := by
        rw [← Bool.not_eq_true, List.isPrefixOf_iff_prefix]
        exact h.1
      rw [splitAtBlock, ih h.2, hp]
      rfl

theorem Jump.eq_append_of_splitAtBlock {t head tail : Text} (h : splitAtBlock t = some (head, tail)) : t = head ++ tail := by
  induction t generalizing head with
  | nil => cases h
  | cons c t ih =>
      rw [splitAtBlock] at h
      split at h
      · rename_i head' tail' hs
        cases h
        rw [List.cons_append, ← ih hs]
      · split at h
        · cases h
          rfl
        · cases h

/-- The word at the start of a jump has no operand, and what follows it belongs to the target. -/
theorem Jump.exists_of_ofLine? {line : Text} {j : Jump} (h : ofLine? line = some j) :
    ∃ word rest, line.trimStart = word ++ rest ∧ '[' ∉ word ∧
      (j.target = (Text.trimStart rest).firstLine ∨ ∃ tail, j.target = (tail ++ rest).firstLine ∧ tail ⊆ word) := by
  unfold ofLine? at h
  split at h
  · rename_i r hr
    refine ⟨'j' :: r.takeWhile isWordChar, r.dropWhile isWordChar, ?_, ?_, ?_⟩
    · rw [hr, List.cons_append, List.takeWhile_append_dropWhile]
    · intro hm
      rcases List.mem_cons.mp hm with hm | hm
      · exact absurd hm (by decide)
      · exact absurd (List.all_eq_true.mp List.all_takeWhile _ hm) (by decide)
    · simp only at h
      split at h
      · cases h
        exact .inl rfl
      · obtain ⟨⟨head, tail⟩, hs, rfl⟩ := Option.map_eq_some_iff.mp h
        refine .inr ⟨tail, rfl, fun c hc => ?_⟩
        rw [eq_append_of_splitAtBlock hs]
        exact List.mem_cons_of_mem 'j' (List.mem_append_right head hc)
  · cases h

section

variable {before : Text} (h : ¬ blockOpening <:+: before) (rest : Text)
include h

theorem startsBlock_append_bracket : startsBlock (before ++ '[' :: rest) = false := by
  rw [← Bool.not_eq_true]
  intro hs
  rcases prefix_of_startsBlock hs with hs | hs
  · exact h (Text.prefix_of_prefix_append hs (by simp [blockOpening])).isInfix
  · have hp := Text.prefix_of_prefix_append hs (by simp [blockOpening])
    exact h ((List.suffix_cons '.' blockOpening).isInfix.trans hp.isInfix)

theorem blockLabel?_append_bracket : blockLabel? (before ++ '[' :: rest) = none := by
  rw [blockLabel?, startsBlock_append_bracket h]
  rfl

/-- A line that names no block in front of its operand is no jump to one. -/
theorem Jump.ofLine?_append_bracket : ofLine? (before ++ '[' :: rest) = none := by
  have ht : Text.trimStart (before ++ '[' :: rest) = before.trimStart ++ '[' :: rest := Text.dropWhile_append_cons (by decide) _ _
  have hstart : ¬ blockOpening <:+: before.trimStart := fun hi => h (hi.trans (List.dropWhile_suffix isBlank).isInfix)
  unfold ofLine?
  rw [ht]
  cases hb : before.trimStart with
  | nil => rfl
  | cons c word =>
      by_cases hc : c = 'j'
      · subst hc
        rw [hb] at hstart
        have hword : ¬ blockOpening <:+: word := fun hi => hstart (hi.trans (List.suffix_cons 'j' word).isInfix)
        have htake : (word ++ '[' :: rest).takeWhile isWordChar = word.takeWhile isWordChar :=
          Text.takeWhile_append_cons (by decide) _ _
        have hdrop : Text.trimStart ((word ++ '[' :: rest).dropWhile isWordChar) =
            Text.trimStart (word.dropWhile isWordChar) ++ '[' :: rest := by
          rw [Text.dropWhile_append_cons (by decide)]
          exact Text.dropWhile_append_cons (by decide) _ _
        have hrest : ¬ blockOpening <:+: Text.trimStart (word.dropWhile isWordChar) := fun hi =>
          hword (hi.trans ((List.dropWhile_suffix isBlank).trans (List.dropWhile_suffix isWordChar)).isInfix)
        have hsplit := splitAtBlock_eq_none fun hi => hword (hi.trans (List.takeWhile_prefix isWordChar).isInfix)
        simp only [List.cons_append, hdrop, htake, startsBlock_append_bracket hrest, hsplit, Bool.false_eq_true, ↓reduceIte, Option.map_none]
      · simp only [List.cons_append]
        split
        · rename_i he
          exact absurd (List.cons.inj he).1 hc
        · rfl

end

/-! ## The operand stays -/

namespace IsBracketed

variable {b t : Text} (hb : IsBracketed b)
include hb

theorem bracket_mem : '[' ∈ b := by
  obtain ⟨inner, rfl⟩ := hb.form
  exact List.mem_cons_self

theorem infix_of_append {x : Text} (hx : '[' ∉ x) (h : b <:+: x ++ t) : b <:+: t := by
  obtain ⟨inner, rfl⟩ := hb.form
  exact Text.infix_of_infix_append_left hx h

theorem infix_trimStart (h : b <:+: t) : b <:+: t.trimStart := by
  obtain ⟨inner, rfl⟩ := hb.form
  exact Text.infix_trimStart (by decide) h

theorem infix_trim (h : b <:+: t) : b <:+: t.trim := by
  obtain ⟨inner, rfl⟩ := hb.form
  exact Text.infix_trim (by decide) (by decide) h

/-- Where a text is cut at a mark, the operand is on one side. -/
theorem infix_of_cut? (h : b <:+: t) {mark head tail : Text} (hcut : t.cut? mark = some (head, tail)) (hc : ']' ∉ mark)
    (hm : ¬ mark <:+: b) : b <:+: head ∨ b <:+: mark ++ tail := by
  obtain ⟨inner, rfl⟩ := hb.form
  rw [Text.eq_append_of_cut? hcut] at h
  exact Text.infix_or_infix_of_infix_append (r := '[' :: inner) hc hm h

/-- A routine that has a substitute is called without operands. -/
theorem infix_calleeOf (h : b <:+: t) : b <:+: calleeOf t := by
  have hne : t ≠ "_memcpy".toList := by
    rintro rfl
    exact absurd (h.subset hb.bracket_mem) (by decide)
  have hlookup : runtimeRoutines.lookup t = none := by
    rw [runtimeRoutines, List.lookup_cons, beq_eq_false_iff_ne.mpr hne]
    rfl
  rw [calleeOf, hlookup]
  exact h

/-- An operand without a dot stays where a jump is respelled. -/
theorem infix_respellJump (hdot : '.' ∉ b) (hn : '\n' ∉ t) (h : b <:+: t) : b <:+: respellJump t := by
  unfold respellJump
  split
  · rename_i jump hj
    obtain ⟨word, rest, ht, hw, htarget⟩ := Jump.exists_of_ofLine? hj
    have hs := hb.infix_trimStart h
    rw [ht] at hs
    have hrest := hb.infix_of_append hw hs
    have hline : ∀ s : Text, s ⊆ word ++ rest → s.firstLine = s := fun s hs =>
      Text.firstLine_eq_self fun hm => hn ((List.dropWhile_suffix isBlank).subset (ht ▸ hs hm : '\n' ∈ t.trimStart))
    have htarget : b <:+: jump.target := by
      rcases htarget with he | ⟨tail, he, hsub⟩
      · rw [he, hline (Text.trimStart rest)
          (List.Subset.trans (List.dropWhile_suffix isBlank).subset (List.subset_append_right word rest))]
        exact hb.infix_trimStart hrest
      · rw [he, hline _ (List.append_subset.mpr ⟨List.Subset.trans hsub (List.subset_append_left word rest),
          List.subset_append_right word rest⟩)]
        exact hrest.trans (List.suffix_append tail rest).isInfix
    exact (Text.infix_erase hdot htarget).trans (List.suffix_append _ _).isInfix
  · exact h

theorem infix_respellCall (h : b <:+: t) : b <:+: respellCall t := by
  unfold respellCall
  split
  · rename_i callee hc
    have hs := hb.infix_trimStart h
    rw [Text.eq_append_of_after? hc] at hs
    exact (hb.infix_calleeOf (hb.infix_trim (hb.infix_of_append (by decide) hs))).trans (List.suffix_append _ _).isInfix
  · exact h

theorem infix_disableForeign (h : b <:+: t) : b <:+: disableForeign t := by
  unfold disableForeign
  split
  · exact (hb.infix_trim h).trans (List.suffix_append _ _).isInfix
  · exact h

theorem infix_removeMarker (h : b <:+: t) {marker : Text} (hm : marker ∈ sizeMarkers) : b <:+: removeMarker t marker := by
  have hall : ∀ marker ∈ sizeMarkers, '[' ∉ marker ∧ ']' ∉ marker := by decide
  obtain ⟨ho, hc⟩ := hall marker hm
  unfold removeMarker
  split
  · rename_i head tail hcut
    rcases hb.infix_of_cut? h hcut hc (hb.unmarked marker (List.mem_cons_of_mem _ hm)) with h | h
    · exact h.trans (List.prefix_append _ _).isInfix
    · exact (hb.infix_trim (hb.infix_of_append ho h)).trans (List.suffix_append _ _).isInfix
  · exact h

theorem infix_removeSizeMarkers (h : b <:+: t) : b <:+: removeSizeMarkers t :=
  List.foldlRecOn sizeMarkers removeMarker h fun _ h _ hm => hb.infix_removeMarker h hm

omit hb in
theorem infix_addShiftCounts (h : b <:+: t) : b <:+: addShiftCounts t := by
  refine List.foldlRecOn shiftMnemonics addShiftCount h fun t h mnemonic _ => ?_
  unfold addShiftCount
  split
  · split
    · exact h
    · exact h.trans (List.prefix_append _ _).isInfix
  · exact h

theorem infix_shortenMove (h : b <:+: t) : b <:+: shortenMove t := by
  unfold shortenMove
  split
  · rename_i head tail hcut
    rcases hb.infix_of_cut? h hcut (by decide) (hb.unmarked _ List.mem_cons_self) with h | h
    · exact h.trans ((List.prefix_append _ _).trans (List.prefix_append _ _)).isInfix
    · exact (hb.infix_of_append (by decide) h).trans (List.suffix_append _ _).isInfix
  · exact h

/-- Respelling leaves an operand of a line that is no label where the respelling of jumps does. -/
theorem infix_respell (hl : blockLabel? t = none) (h : b <:+: respellJump t) : b <:+: respell t := by
  rw [respell, respellBlockLabel_eq_self hl]
  exact hb.infix_shortenMove (infix_addShiftCounts (hb.infix_removeSizeMarkers (hb.infix_disableForeign (hb.infix_respellCall h))))

end IsBracketed

/-! ## No operand comes in addition -/

theorem count_bracket_respellCall_le (t : Text) : (respellCall t).count '[' ≤ t.count '[' := by
  unfold respellCall
  split
  · rename_i callee hc
    have hcallee : (calleeOf callee.trim).count '[' ≤ callee.count '[' := by
      rw [calleeOf, runtimeRoutines, List.lookup_cons]
      split
      · exact Nat.zero_le _
      · exact (Text.trim_infix callee).sublist.count_le _
    have ht : t.count '[' = t.indent.count '[' + (callMnemonic ++ callee).count '[' := by
      rw [← Text.eq_append_of_after? hc, ← List.count_append]
      exact congrArg _ List.takeWhile_append_dropWhile.symm
    have hcall : "CALL ".toList.count '[' = 0 := by decide
    rw [ht, List.count_append, List.count_append, List.count_append, hcall]
    omega
  · exact Nat.le_refl _

theorem count_bracket_disableForeign_le (t : Text) : (disableForeign t).count '[' ≤ t.count '[' := by
  have hmargin : disabledMargin.count '[' = 0 := by decide
  unfold disableForeign
  split
  · rw [disable, List.count_append, hmargin, Nat.zero_add]
    exact (Text.trim_infix t).sublist.count_le _
  · exact Nat.le_refl _

theorem count_bracket_removeMarker_le (t marker : Text) : (removeMarker t marker).count '[' ≤ t.count '[' := by
  unfold removeMarker
  split
  · rename_i head tail hcut
    have htail := (Text.trim_infix tail).sublist.count_le '['
    rw [Text.eq_append_of_cut? hcut, List.count_append, List.count_append, List.count_append]
    omega
  · exact Nat.le_refl _

theorem count_bracket_addShiftCount_le (t mnemonic : Text) : (addShiftCount t mnemonic).count '[' ≤ t.count '[' := by
  unfold addShiftCount
  split
  · split
    · exact Nat.le_refl _
    · have hone : ", 1".toList.count '[' = 0 := by decide
      rw [List.count_append, hone]
      exact Nat.le_refl _
  · exact Nat.le_refl _

theorem count_bracket_shortenMove_le (t : Text) : (shortenMove t).count '[' ≤ t.count '[' := by
  unfold shortenMove
  split
  · rename_i head tail hcut
    have hmov : "mov".toList.count '[' = 0 := by decide
    rw [Text.eq_append_of_cut? hcut, List.count_append, List.count_append, List.count_append, List.count_append, hmov]
    omega
  · exact Nat.le_refl _

theorem count_bracket_removeSizeMarkers_le (t : Text) : (removeSizeMarkers t).count '[' ≤ t.count '[' :=
  List.foldlRecOn (motive := fun out => out.count '[' ≤ t.count '[') sizeMarkers removeMarker (Nat.le_refl _)
    fun out h marker _ => (count_bracket_removeMarker_le out marker).trans h

theorem count_bracket_addShiftCounts_le (t : Text) : (addShiftCounts t).count '[' ≤ t.count '[' :=
  List.foldlRecOn (motive := fun out => out.count '[' ≤ t.count '[') shiftMnemonics addShiftCount (Nat.le_refl _)
    fun out h mnemonic _ => (count_bracket_addShiftCount_le out mnemonic).trans h

theorem count_bracket_respell_le {t : Text} (hl : blockLabel? t = none) :
    (respell t).count '[' ≤ (respellJump t).count '[' := by
  rw [respell, respellBlockLabel_eq_self hl]
  calc _ ≤ _ := count_bracket_shortenMove_le _
    _ ≤ _ := count_bracket_addShiftCounts_le _
    _ ≤ _ := count_bracket_removeSizeMarkers_le _
    _ ≤ _ := count_bracket_disableForeign_le _
    _ ≤ _ := count_bracket_respellCall_le _

end AsmBridge
