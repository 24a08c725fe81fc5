import AsmBridge.Proofs.Body.Lemmas.Splice
import AsmBridge.Proofs.Entries
import AsmBridge.Proofs.Line.Lemmas.Bracketed
import AsmBridge.Proofs.Line.Lemmas.Comment
import AsmBridge.Proofs.Line.Lemmas.Settled
import AsmBridge.Proofs.Line.Lemmas.Spelling
import AsmBridge.Proofs.Text.DigitRun
import AsmBridge.Proofs.Text.FirstWord

/-!
# Digits in a line

Removing a marker brings together what stood on both sides of it, so a number of a respelled line may be put together from
several of the line. Three markers can be removed from a line, because the fourth one is a comment.
-/

namespace AsmBridge

/-! ## Lines without the name of a block -/

section

variable {t : Text} (h : ¬ blockOpening <:+: t)
include h

theorem startsBlock_eq_false_of_not_isInfix : startsBlock t = false := by
  rw [Bool.eq_false_iff]
  intro hs
  rcases prefix_of_startsBlock hs with hp | hp
  · exact h hp.isInfix
  · exact h ((List.suffix_cons '.' blockOpening).isInfix.trans hp.isInfix)

theorem respellBlockLabel_of_not_isInfix : respellBlockLabel t = t := by
  rw [respellBlockLabel, blockLabel?, if_neg (by simp [startsBlock_eq_false_of_not_isInfix h])]
  rfl

theorem respellJump_of_not_isInfix : respellJump t = t := by
  have hnone : Jump.ofLine? t = none := by
    unfold Jump.ofLine?
    split
    · rename_i r hr
      have hpart {s : Text} (hs : s <:+: r) : ¬ blockOpening <:+: s := fun hb => by
        refine h ((hb.trans hs).trans ((List.suffix_cons 'j' r).isInfix.trans ?_))
        exact hr ▸ (List.dropWhile_suffix isBlank).isInfix
      have hrest : Text.trimStart (r.dropWhile isWordChar) <:+: r :=
        ((List.dropWhile_suffix isBlank).trans (List.dropWhile_suffix isWordChar)).isInfix
      simp only [startsBlock_eq_false_of_not_isInfix (hpart hrest), Bool.false_eq_true, ↓reduceIte,
        Jump.splitAtBlock_eq_none (hpart (List.takeWhile_prefix isWordChar).isInfix), Option.map_none]
    · rfl
  rw [respellJump, hnone]

end

/-! ## The mark of a comment -/

/-- Where the second of two characters does not start the second text, the texts have both side by side only on one side. -/
theorem not_infix_pair_append {c d : Char} {x y : Text} (hx : ¬ [c, d] <:+: x) (hy : ¬ [c, d] <:+: y)
    (h : ∀ a ∈ y.head?, a ≠ d) : ¬ [c, d] <:+: x ++ y := by
  intro hm
  rcases List.infix_append_iff.mp hm with hm | hm | ⟨u, v, he, hu, hv⟩
  · exact hx hm
  · exact hy hm
  · rcases List.cons_eq_append_iff.mp he with ⟨rfl, rfl⟩ | ⟨rest, rfl, hd⟩
    · exact hy hv.isInfix
    · rcases List.cons_eq_append_iff.mp hd with ⟨rfl, rfl⟩ | ⟨none, rfl, hnil⟩
      · obtain ⟨r, rfl⟩ := hv
        exact h d rfl rfl
      · obtain ⟨rfl, rfl⟩ := List.append_eq_nil_iff.mp hnil.symm
        exact hx hu.isInfix

theorem Text.infix_of_after?_trimStart {t mark rest : Text} (h : t.trimStart.after? mark = some rest) : rest <:+: t := by
  have hsuffix : rest <:+ t.trimStart := ⟨mark, (Text.eq_append_of_after? h).symm⟩
  exact (hsuffix.trans (List.dropWhile_suffix isBlank)).isInfix

theorem calleeOf_cases (callee : Text) : calleeOf callee = callee ∨ ∃ routine ∈ runtimeRoutines, calleeOf callee = routine.2 := by
  unfold calleeOf
  cases hl : runtimeRoutines.lookup callee with
  | none => exact .inl rfl
  | some name => exact .inr ⟨_, mem_of_lookup_eq_some hl, rfl⟩

/-- Whether a text has no mark of a comment with a blank behind it. -/
def HoldsNoComment (t : Text) : Prop :=
  ¬ "# ".toList <:+: t

namespace HoldsNoComment

variable {t : Text} (h : HoldsNoComment t)
include h

theorem mono {s : Text} (hs : s <:+: t) : HoldsNoComment s :=
  fun hm => h (hm.trans hs)

theorem append_trim {x : Text} (hx : HoldsNoComment x) : HoldsNoComment (x ++ t.trim) :=
  not_infix_pair_append hx (h.mono (Text.trim_infix t)) fun c hc => by
    rintro rfl
    exact absurd (Text.not_isBlank_head?_trim t _ hc) (by decide)

theorem respellCall : HoldsNoComment (respellCall t) := by
  unfold AsmBridge.respellCall
  split
  · rename_i callee hcallee
    have hfront : HoldsNoComment (t.indent ++ "CALL ".toList) := fun hm => by
      have hmem := hm.subset (List.mem_cons_self : '#' ∈ "# ".toList)
      rcases List.mem_append.mp hmem with hmem | hmem
      · exact absurd (List.all_eq_true.mp List.all_takeWhile _ hmem) (by decide)
      · exact absurd hmem (by decide)
    rcases calleeOf_cases callee.trim with he | ⟨routine, hr, he⟩
    · rw [he]
      exact (h.mono (Text.infix_of_after?_trimStart hcallee)).append_trim hfront
    · have hall : ∀ routine ∈ runtimeRoutines, HoldsNoComment routine.2 ∧ ∀ c ∈ routine.2.head?, c ≠ ' ' := by
        unfold HoldsNoComment
        decide
      rw [he]
      exact not_infix_pair_append hfront (hall routine hr).1 (hall routine hr).2
  · exact h

theorem disableForeign : HoldsNoComment (disableForeign t) := by
  have hmargin : HoldsNoComment disabledMargin := by
    unfold HoldsNoComment
    decide
  unfold AsmBridge.disableForeign
  split
  · exact h.append_trim hmargin
  · exact h

theorem removeMarker (marker : Text) : HoldsNoComment (removeMarker t marker) := by
  unfold AsmBridge.removeMarker
  split
  · rename_i head tail hcut
    have ht := Text.eq_append_of_cut? hcut
    refine append_trim (h.mono ?_) (h.mono ?_)
    · exact ht ▸ ((List.suffix_append marker tail).trans (List.suffix_append head _)).isInfix
    · exact ht ▸ (List.prefix_append head _).isInfix
  · exact h

end HoldsNoComment

/-! ## Runs -/

section

variable {t : Text} {limit n : Nat}

theorem longestRun_respellCall_le (t : Text) : (respellCall t).longestRun ≤ t.longestRun := by
  unfold respellCall
  split
  · rename_i callee hcallee
    have hfront : ∀ c ∈ t.indent ++ "CALL ".toList, isDecimalDigit c = false :=
      List.forall_mem_append.mpr ⟨fun c hc => isDecimalDigit_of_isBlank (List.all_eq_true.mp List.all_takeWhile c hc), by decide⟩
    rw [Text.longestRun_append_of_not_digit hfront]
    rcases calleeOf_cases callee.trim with he | ⟨routine, hr, he⟩
    · rw [he]
      exact Text.longestRun_le_of_isInfix
        ((Text.trim_infix callee).trans (Text.infix_of_after?_trimStart hcallee))
    · have hall : ∀ routine ∈ runtimeRoutines, Text.longestRun routine.2 = 0 := by decide
      rw [he, hall routine hr]
      exact Nat.zero_le _
  · exact Nat.le_refl _

theorem longestRun_disableForeign_le (t : Text) : (disableForeign t).longestRun ≤ t.longestRun := by
  unfold disableForeign
  split
  · rw [disable, Text.longestRun_append_of_not_digit (by decide)]
    exact Text.longestRun_le_of_isInfix (Text.trim_infix t)
  · exact Nat.le_refl _

/-- Removing a marker brings two parts of a text together. -/
theorem Text.IsJoined.removeMarker (h : t.IsJoined limit n) (marker : Text) : (removeMarker t marker).IsJoined limit (n + 1) := by
  unfold AsmBridge.removeMarker
  split
  · rename_i head tail hcut
    rw [Text.eq_append_of_cut? hcut] at h
    obtain ⟨a, b, -, -, hab, hhead, htail⟩ := h.split
    exact (hhead.append (htail.of_infix ((Text.trim_infix tail).trans (List.suffix_append marker tail).isInfix))).mono hab
  · exact h.mono (Nat.le_succ n)

theorem longestRun_addShiftCount_le (t mnemonic : Text) : (addShiftCount t mnemonic).longestRun ≤ max t.longestRun 1 := by
  unfold addShiftCount
  split
  · split
    · exact Nat.le_max_left _ _
    · have hcomma : isDecimalDigit ',' = false := by decide
      exact Nat.le_of_eq (Text.longestRunAfter_append_cons hcomma t " 1".toList)
  · exact Nat.le_max_left _ _

theorem longestRun_shortenMove_le (t : Text) : (shortenMove t).longestRun ≤ t.longestRun := by
  unfold shortenMove
  split
  · rename_i head tail hcut
    have ht := Text.eq_append_of_cut? hcut
    have hletter : isDecimalDigit 'm' = false := by decide
    have htail : Text.longestRun ("ov".toList ++ tail) = tail.longestRun :=
      Text.longestRun_append_of_not_digit (by decide) tail
    rw [List.append_assoc]
    change Text.longestRunAfter 0 (head ++ 'm' :: ("ov".toList ++ tail)) ≤ _
    rw [Text.longestRunAfter_append_cons hletter, htail, ht]
    refine Nat.max_le.mpr ⟨Text.longestRun_le_of_isInfix (List.prefix_append head _).isInfix, Text.longestRun_le_of_isInfix ?_⟩
    exact ((List.suffix_append _ tail).trans (List.suffix_append head _)).isInfix
  · exact Nat.le_refl _

theorem isJoined_removeSizeMarkers (hc : HoldsNoComment t) (h : t.longestRun ≤ limit) :
    (removeSizeMarkers t).IsJoined limit 4 := by
  have hmark : "# ".toList <:+: "# NOREX".toList := by decide
  -- The last marker is a comment, so each of the other three adds a part to the one that the text is.
  have hlast := (((hc.removeMarker "ptr".toList).removeMarker "xmmword".toList).removeMarker "ymmword".toList)
  change (removeMarker (removeMarker (removeMarker (removeMarker t _) _) _) "# NOREX".toList).IsJoined limit 4
  rw [removeMarker_eq_self fun hm => hlast (hmark.trans hm)]
  exact (((Text.IsJoined.of_longestRun_le h).removeMarker _).removeMarker _).removeMarker _

/-- A number of a line with no name of a block is put together from four numbers of the line at most. -/
theorem longestRun_respelledLine_le {line : Text} (hn : '\n' ∉ line) (hb : ¬ blockOpening <:+: line)
    (h : line.longestRun ≤ limit) : (respelledLine line).longestRun ≤ max (4 * limit) 1 := by
  have hprefix := (stripComment_prefix_self line).isInfix
  have hblock : ¬ blockOpening <:+: stripComment line := fun hm => hb (hm.trans hprefix)
  have hguarded : guardedLine (stripComment line) = disableForeign (respellCall (stripComment line)) := by
    rw [guardedLine, renamedLine, respellBlockLabel_of_not_isInfix hblock, respellJump_of_not_isInfix hblock]
  have hcomment : HoldsNoComment (stripComment line) := not_infix_stripComment hn (by decide)
  have hrun : (guardedLine (stripComment line)).longestRun ≤ limit := by
    rw [hguarded]
    exact (longestRun_disableForeign_le _).trans ((longestRun_respellCall_le _).trans
      ((Text.longestRun_le_of_isInfix hprefix).trans h))
  have hjoined := (isJoined_removeSizeMarkers (hguarded ▸ hcomment.respellCall.disableForeign) hrun).longestRun_le
  have hcounts (t : Text) : (addShiftCount (addShiftCount t "shr".toList) "sar".toList).longestRun ≤ max t.longestRun 1 := by
    have hleft := longestRun_addShiftCount_le t "shr".toList
    have hright := longestRun_addShiftCount_le (addShiftCount t "shr".toList) "sar".toList
    omega
  rw [respelledLine, respell_eq_adjustOperands, adjustOperands]
  refine (longestRun_shortenMove_le _).trans ((hcounts _).trans ?_)
  omega

end

/-! ## A number with a marker in it -/

/-- A line that is an operand above the frame pointer. -/
def aboveFrame (offset : Text) : Text :=
  rbpOpening ++ (offset ++ [']'])

/-- The characters of such a line besides digits, with those of the marker of a size. -/
def operandAlphabet : Text :=
  aboveFrame "xmmword ".toList

section

variable {t : Text} (ht : ∀ c ∈ t, c.isDigit ∨ c ∈ operandAlphabet)
include ht

theorem aboveFrame_chars : ∀ c ∈ aboveFrame t, c.isDigit ∨ c ∈ operandAlphabet := by
  rw [aboveFrame, List.forall_mem_append, List.forall_mem_append]
  exact ⟨by decide, ht, by decide⟩

theorem not_mem_of_chars {c : Char} (hd : c.isDigit = false) (hc : c ∉ operandAlphabet) : c ∉ t := fun hm =>
  (ht c hm).elim (fun hdigit => Bool.false_ne_true (hd.symm.trans hdigit)) hc

theorem not_infix_of_chars {mark : Text} {c : Char} (hm : c ∈ mark) (hd : c.isDigit = false) (hc : c ∉ operandAlphabet) :
    ¬ mark <:+: t := fun h =>
  not_mem_of_chars ht hd hc (h.subset hm)

theorem isDropped_aboveFrame : isDropped (aboveFrame t) = false := by
  have hchars := aboveFrame_chars ht
  have halign := not_infix_of_chars hchars (show '.' ∈ alignDirective by decide) (by decide) (by decide)
  rw [isDropped, isCommentOnly, stripComment_eq_self (not_mem_of_chars hchars (by decide) (by decide)),
    Text.includes_eq_false_iff.mpr halign]
  rfl

end

section

variable {a b : Text} (ha : ∀ c ∈ a, c.isDigit) (hb : ∀ c ∈ b, c.isDigit)
include ha hb

theorem marked_chars : ∀ c ∈ a ++ ("xmmword ".toList ++ b), c.isDigit ∨ c ∈ operandAlphabet := by
  rw [List.forall_mem_append, List.forall_mem_append]
  exact ⟨fun c hc => .inl (ha c hc), by decide, fun c hc => .inl (hb c hc)⟩

/-- A line with a marker of a size inside a number has no longer run than the two parts of the number. -/
theorem longestRun_marked : (aboveFrame (a ++ ("xmmword ".toList ++ b))).longestRun = max a.length b.length := by
  have hrun {t : Text} (ht : ∀ c ∈ t, c.isDigit) : t.longestRun = t.length := by
    rw [Text.longestRun, Text.longestRunAfter_of_digits fun c hc => Decimal.isDecimalDigit_of_isDigit (ht c hc), Nat.zero_add]
  have hline : aboveFrame (a ++ ("xmmword ".toList ++ b)) =
      rbpOpening ++ (a ++ 'x' :: ("mmword ".toList ++ (b ++ ']' :: []))) := by
    simp only [aboveFrame, String.reduceToList, List.append_assoc, List.cons_append, List.nil_append]
  have hletter : isDecimalDigit 'x' = false := by decide
  have hbracket : isDecimalDigit ']' = false := by decide
  rw [hline, Text.longestRun_append_of_not_digit (by decide), Text.longestRun, Text.longestRunAfter_append_cons hletter,
    Text.longestRun_append_of_not_digit (by decide), Text.longestRun, Text.longestRunAfter_append_cons hbracket]
  change max a.longestRun (max b.longestRun 0) = _
  rw [hrun ha, hrun hb, Nat.max_zero]

theorem removeMarker_joined :
    removeMarker (aboveFrame (a ++ ("xmmword ".toList ++ b))) "xmmword".toList = aboveFrame (a ++ b) := by
  have hmarker : ¬ 'x' :: "mmword".toList <:+: rbpOpening ++ a := fun h => by
    rcases List.mem_append.mp (h.subset (List.mem_cons_self : 'x' ∈ _)) with h | h
    · exact absurd h (by decide)
    · exact absurd (ha 'x' h) (by decide)
  have htrimmed : Text.IsTrimmed (b ++ [']']) := by
    constructor
    · intro c hc
      rcases List.mem_append.mp (List.mem_of_mem_head? hc) with hc | hc
      · exact (start_of_number (.inr (hb c hc))).1
      · rw [List.mem_singleton.mp hc]
        decide
    · rw [List.getLast?_concat]
      rintro c ⟨⟩
      decide
  have htrim : Text.trim (' ' :: (b ++ [']'])) = b ++ [']'] := by
    have h := Text.trim_append (x := [' ']) (y := []) (by decide) nofun htrimmed
    rwa [List.append_nil] at h
  have hline : aboveFrame (a ++ ("xmmword ".toList ++ b)) =
      rbpOpening ++ a ++ ('x' :: "mmword".toList ++ (' ' :: (b ++ [']']))) := by
    simp only [aboveFrame, String.reduceToList, List.append_assoc, List.cons_append, List.nil_append]
  rw [hline]
  calc removeMarker _ "xmmword".toList
    _ = rbpOpening ++ a ++ Text.trim (' ' :: (b ++ [']'])) := removeMarker_append (by decide) hmarker _
    _ = aboveFrame (a ++ b) := by rw [htrim, aboveFrame, List.append_assoc, List.append_assoc]

/-- The number of an operand is put together from the digits on both sides of the marker of a size. -/
theorem respelledLine_joined : respelledLine (aboveFrame (a ++ ("xmmword ".toList ++ b))) = aboveFrame (a ++ b) := by
  have hold := aboveFrame_chars (marked_chars ha hb)
  have hnew : ∀ c ∈ aboveFrame (a ++ b), c.isDigit ∨ c ∈ operandAlphabet :=
    aboveFrame_chars (List.forall_mem_append.mpr ⟨fun c hc => .inl (ha c hc), fun c hc => .inl (hb c hc)⟩)
  -- The line is neither a comment nor a label, a jump or a call, nor is it in small letters.
  have hguarded : guardedLine (stripComment (aboveFrame (a ++ ("xmmword ".toList ++ b)))) =
      aboveFrame (a ++ ("xmmword ".toList ++ b)) := by
    have hblock := not_infix_of_chars hold (show 'L' ∈ blockOpening by decide) (by decide) (by decide)
    rw [stripComment_eq_self (not_mem_of_chars hold (by decide) (by decide)), guardedLine, renamedLine,
      respellBlockLabel_of_not_isInfix hblock, respellJump_of_not_isInfix hblock]
    rfl
  have hsizes : removeSizeMarkers (aboveFrame (a ++ ("xmmword ".toList ++ b))) = aboveFrame (a ++ b) := by
    change removeMarker (removeMarker (removeMarker (removeMarker _ "ptr".toList) _) "ymmword".toList) "# NOREX".toList = _
    rw [removeMarker_eq_self (not_infix_of_chars hold (c := 't') (by decide) (by decide) (by decide)),
      removeMarker_joined ha hb,
      removeMarker_eq_self (not_infix_of_chars hnew (c := 'y') (by decide) (by decide) (by decide)),
      removeMarker_eq_self (not_infix_of_chars hnew (c := '#') (by decide) (by decide) (by decide))]
  have hmarks : ∀ mark ∈ shiftMnemonics ++ ["movabs".toList], ¬ mark <:+: aboveFrame (a ++ b) := by
    have hs : ∀ mark ∈ shiftMnemonics ++ ["movabs".toList], 's' ∈ mark := by decide
    exact fun mark hm => not_infix_of_chars hnew (hs mark hm) (by decide) (by decide)
  rw [respelledLine, respell_eq_adjustOperands, hguarded, adjustOperands, hsizes,
    addShiftCounts_eq_self fun m hm => hmarks m (List.mem_append_left _ hm),
    shortenMove_eq_self (hmarks _ (List.mem_append_right _ List.mem_cons_self))]

end

end AsmBridge
