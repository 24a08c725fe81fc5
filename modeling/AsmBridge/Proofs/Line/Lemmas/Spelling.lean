import AsmBridge.Proofs.Line.Lemmas.Respelling

/-!
# Marks in a line

The last changes of respelling look for marks and know nothing of words. A text without a comma stays as it is exactly
where it holds none of the marks.
-/

namespace AsmBridge

/-- The marks that respelling looks for once foreign instructions are disabled. -/
def spellingMarks : List Text :=
  sizeMarkers ++ (shiftMnemonics ++ ["movabs".toList])

/-- The changes of respelling to a line whose foreign instruction is disabled. -/
def adjustOperands (line : Text) : Text :=
  shortenMove (addShiftCounts (removeSizeMarkers line))

/-- The line with its block label, its jump or its call in the spelling of Go assembler. -/
def renamedLine (line : Text) : Text :=
  respellCall (respellJump (respellBlockLabel line))

/-- The line in front of the changes that look for marks. -/
def guardedLine (line : Text) : Text :=
  disableForeign (renamedLine line)

theorem respell_eq_adjustOperands (line : Text) : respell line = adjustOperands (guardedLine line) :=
  rfl

/-! ## One mark -/

theorem length_trim_le (t : Text) : t.trim.length ≤ t.length :=
  (Text.trim_infix t).length_le

theorem length_removeMarker_lt {t marker : Text} (hm : marker ≠ []) (h : marker <:+: t) :
    (removeMarker t marker).length < t.length := by
  rw [removeMarker]
  split
  · rename_i head tail hcut
    have htail := length_trim_le tail
    have hpos := List.length_pos_iff.mpr hm
    rw [Text.eq_append_of_cut? hcut, List.length_append, List.length_append, List.length_append]
    omega
  · rename_i hcut
    exact absurd h (Text.cut?_eq_none_iff.mp hcut)

theorem length_removeMarker_le {marker : Text} (hm : marker ≠ []) (t : Text) :
    (removeMarker t marker).length ≤ t.length := by
  by_cases h : marker <:+: t
  · exact Nat.le_of_lt (length_removeMarker_lt hm h)
  · rw [removeMarker_eq_self h]

theorem length_shortenMove_lt {t : Text} (h : "movabs".toList <:+: t) : (shortenMove t).length < t.length := by
  rw [shortenMove]
  split
  · rename_i head tail hcut
    have hlong : "movabs".toList.length = 6 := rfl
    have hshort : "mov".toList.length = 3 := rfl
    rw [Text.eq_append_of_cut? hcut]
    simp only [List.length_append, hlong, hshort]
    omega
  · rename_i hcut
    exact absurd h (Text.cut?_eq_none_iff.mp hcut)

theorem shortenMove_eq_self {t : Text} (h : ¬ "movabs".toList <:+: t) : shortenMove t = t := by
  rw [shortenMove, Text.cut?_eq_none_iff.mpr h]

theorem comma_mem_addShiftCount {t mnemonic : Text} (h : mnemonic <:+: t) : ',' ∈ addShiftCount t mnemonic := by
  rw [addShiftCount]
  split
  · rename_i head operands hcut
    split
    · rename_i hc
      rw [Text.eq_append_of_cut? hcut]
      exact List.mem_append_right _ (List.mem_append_right _ (List.contains_iff_mem.mp hc))
    · exact List.mem_append_right _ List.mem_cons_self
  · rename_i hcut
    exact absurd h (Text.cut?_eq_none_iff.mp hcut)

theorem subset_addShiftCount (t mnemonic : Text) : t ⊆ addShiftCount t mnemonic := by
  rw [addShiftCount]
  split
  · split
    · exact List.Subset.refl t
    · exact List.subset_append_left t _
  · exact List.Subset.refl t

theorem comma_mem_shortenMove {t : Text} (h : ',' ∈ t) : ',' ∈ shortenMove t := by
  rw [shortenMove]
  split
  · rename_i head tail hcut
    rw [Text.eq_append_of_cut? hcut, List.mem_append, List.mem_append] at h
    rcases h with h | h | h
    · exact List.mem_append_left _ (List.mem_append_left _ h)
    · exact absurd h (by decide)
    · exact List.mem_append_right _ h
  · exact h

/-! ## All marks -/

theorem length_foldl_removeMarker_le {markers : List Text} (hm : ∀ marker ∈ markers, marker ≠ []) (t : Text) :
    (markers.foldl removeMarker t).length ≤ t.length :=
  List.foldlRecOn (motive := fun out => out.length ≤ t.length) markers removeMarker (Nat.le_refl _)
    fun _ h marker hmem => (length_removeMarker_le (hm marker hmem) _).trans h

theorem removeSizeMarkers_eq_self {t : Text} (h : ∀ marker ∈ sizeMarkers, ¬ marker <:+: t) : removeSizeMarkers t = t :=
  List.foldlRecOn (motive := fun out => out = t) sizeMarkers removeMarker rfl fun out ho marker hm => by
    rw [ho, removeMarker_eq_self (h marker hm)]

/-- The first marker of a text that is removed makes it shorter, and no other makes it longer again. -/
theorem length_removeSizeMarkers_lt {t marker : Text} (hm : marker ∈ sizeMarkers) (h : marker <:+: t) :
    (removeSizeMarkers t).length < t.length := by
  have hne : ∀ marker ∈ sizeMarkers, marker ≠ [] := by decide
  suffices ∀ markers : List Text, (∀ marker ∈ markers, marker ≠ []) → marker ∈ markers →
      (markers.foldl removeMarker t).length < t.length from this sizeMarkers hne hm
  intro markers hall hmem
  induction markers with
  | nil => exact absurd hmem List.not_mem_nil
  | cons first markers ih =>
      have hfirst := hall first List.mem_cons_self
      have hrest := fun m hm => hall m (List.mem_cons_of_mem first hm)
      rw [List.foldl_cons]
      by_cases hf : first <:+: t
      · exact Nat.lt_of_le_of_lt (length_foldl_removeMarker_le hrest _) (length_removeMarker_lt hfirst hf)
      · rw [removeMarker_eq_self hf]
        refine ih hrest ((List.mem_cons.mp hmem).resolve_left ?_)
        rintro rfl
        exact hf h

theorem addShiftCounts_eq_self {t : Text} (h : ∀ mnemonic ∈ shiftMnemonics, ¬ mnemonic <:+: t) : addShiftCounts t = t :=
  List.foldlRecOn (motive := fun out => out = t) shiftMnemonics addShiftCount rfl fun out ho mnemonic hm => by
    rw [ho, addShiftCount_eq_self (h mnemonic hm)]

theorem adjustOperands_eq_self {t : Text} (h : ∀ mark ∈ spellingMarks, ¬ mark <:+: t) : adjustOperands t = t := by
  have hsize : removeSizeMarkers t = t := removeSizeMarkers_eq_self fun m hm => h m (List.mem_append_left _ hm)
  have hshift : addShiftCounts t = t :=
    addShiftCounts_eq_self fun m hm => h m (List.mem_append_right _ (List.mem_append_left _ hm))
  rw [adjustOperands, hsize, hshift, shortenMove_eq_self (h _ (by decide))]

/-- A shift whose count is added leaves a comma behind. -/
theorem comma_mem_addShiftCounts {t mnemonic : Text} (hm : mnemonic ∈ shiftMnemonics) (h : mnemonic <:+: t) :
    ',' ∈ addShiftCounts t := by
  change ',' ∈ addShiftCount (addShiftCount t "shr".toList) "sar".toList
  have hmem : mnemonic = "shr".toList ∨ mnemonic = "sar".toList := by
    simpa only [shiftMnemonics, List.mem_cons, List.not_mem_nil, or_false] using hm
  by_cases hshr : "shr".toList <:+: t
  · exact subset_addShiftCount _ _ (comma_mem_addShiftCount hshr)
  · rw [addShiftCount_eq_self hshr]
    refine comma_mem_addShiftCount ?_
    rcases hmem with rfl | rfl
    · exact absurd h hshr
    · exact h

/-- A text without a comma is left alone exactly where it holds no mark. What is removed makes it shorter, and what is
added has a comma. -/
theorem adjustOperands_eq_self_iff {t : Text} (hc : ',' ∉ t) :
    adjustOperands t = t ↔ ∀ mark ∈ spellingMarks, ¬ mark <:+: t := by
  refine ⟨fun h mark hm hi => ?_, adjustOperands_eq_self⟩
  have hcomma : ',' ∉ addShiftCounts (removeSizeMarkers t) := fun hmem => hc (h ▸ comma_mem_shortenMove hmem)
  have hshift : addShiftCounts (removeSizeMarkers t) = removeSizeMarkers t :=
    addShiftCounts_eq_self fun mnemonic hm hi => hcomma (comma_mem_addShiftCounts hm hi)
  rw [adjustOperands, hshift] at h
  have hmove : (shortenMove (removeSizeMarkers t)).length ≤ (removeSizeMarkers t).length := by
    by_cases hi : "movabs".toList <:+: removeSizeMarkers t
    · exact Nat.le_of_lt (length_shortenMove_lt hi)
    · rw [shortenMove_eq_self hi]
  have hlen := congrArg List.length h
  have hsize : ∀ marker ∈ sizeMarkers, ¬ marker <:+: t := fun marker hmark hi => by
    have := length_removeSizeMarkers_lt hmark hi
    omega
  rw [removeSizeMarkers_eq_self hsize] at h hcomma
  rcases List.mem_append.mp hm with hm | hm
  · exact hsize mark hm hi
  · rcases List.mem_append.mp hm with hm | hm
    · exact hcomma (comma_mem_addShiftCounts hm hi)
    · obtain rfl := List.mem_singleton.mp hm
      have := length_shortenMove_lt hi
      rw [h] at this
      exact Nat.lt_irrefl _ this

theorem bracket_not_mem_adjustOperands {t : Text} (h : '[' ∉ t) : '[' ∉ adjustOperands t := by
  rw [← List.count_eq_zero] at h ⊢
  have hle : (adjustOperands t).count '[' ≤ t.count '[' :=
    calc _ ≤ _ := count_bracket_shortenMove_le _
      _ ≤ _ := count_bracket_addShiftCounts_le _
      _ ≤ _ := count_bracket_removeSizeMarkers_le _
  omega

/-! ## What stands in front of the marks -/

/-- Whether no mark can start in a text. -/
def HoldsNoMark (x : Text) : Prop :=
  ∀ mark ∈ spellingMarks, ∀ c ∈ mark.head?, c ∉ x

namespace HoldsNoMark

variable {x : Text} (hx : HoldsNoMark x) (t : Text)
include hx

theorem cut?_append {mark : Text} (hm : mark ∈ spellingMarks) :
    Text.cut? (x ++ t) mark = (Text.cut? t mark).map fun (head, tail) => (x ++ head, tail) := by
  have hne : ∀ mark ∈ spellingMarks, mark ≠ [] := by decide
  obtain ⟨c, rest, rfl⟩ := List.exists_cons_of_ne_nil (hne mark hm)
  exact Text.cut?_append_left (hx _ hm c rfl) t rest

theorem removeMarker_append {marker : Text} (hm : marker ∈ sizeMarkers) :
    removeMarker (x ++ t) marker = x ++ removeMarker t marker := by
  rw [removeMarker, removeMarker, hx.cut?_append t (List.mem_append_left _ hm)]
  cases Text.cut? t marker with
  | none => rfl
  | some parts => exact List.append_assoc _ _ _

theorem addShiftCount_append {mnemonic : Text} (hm : mnemonic ∈ shiftMnemonics) :
    addShiftCount (x ++ t) mnemonic = x ++ addShiftCount t mnemonic := by
  rw [addShiftCount, addShiftCount, hx.cut?_append t (List.mem_append_right _ (List.mem_append_left _ hm))]
  cases Text.cut? t mnemonic with
  | none => rfl
  | some parts =>
      simp only [Option.map_some]
      split
      · rfl
      · exact List.append_assoc _ _ _

theorem shortenMove_append : shortenMove (x ++ t) = x ++ shortenMove t := by
  rw [shortenMove, shortenMove, hx.cut?_append t (by decide)]
  cases Text.cut? t "movabs".toList with
  | none => rfl
  | some parts => simp only [Option.map_some, List.append_assoc]

/-- Such a text stays in front of what becomes of the rest. -/
theorem adjustOperands_append : adjustOperands (x ++ t) = x ++ adjustOperands t := by
  have hsize : ∀ markers ⊆ sizeMarkers, ∀ t, markers.foldl removeMarker (x ++ t) = x ++ markers.foldl removeMarker t := by
    intro markers
    induction markers with
    | nil => exact fun _ t => rfl
    | cons marker markers ih =>
        intro hsub t
        rw [List.foldl_cons, List.foldl_cons, hx.removeMarker_append t (hsub List.mem_cons_self),
          ih fun m hm => hsub (List.mem_cons_of_mem _ hm)]
  have hcounts : ∀ t, addShiftCounts (x ++ t) = x ++ addShiftCounts t := fun t => by
    change addShiftCount (addShiftCount (x ++ t) _) _ = _
    rw [hx.addShiftCount_append t (by decide), hx.addShiftCount_append _ (by decide)]
    rfl
  rw [adjustOperands, removeSizeMarkers, hsize _ (List.Subset.refl _), hcounts, hx.shortenMove_append]
  rfl

end HoldsNoMark

end AsmBridge
