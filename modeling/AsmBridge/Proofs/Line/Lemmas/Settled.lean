import AsmBridge.Proofs.Line.Lemmas.Operand
import AsmBridge.Proofs.Line.Lemmas.Spelling
import AsmBridge.Proofs.Text.FirstWord

/-!
# Lines without an instruction in small letters

The changes that follow the disabling of an instruction replace a text, wherever it stands in a line. None of them
reaches into the margin of a disabled line, and none puts an instruction in small letters at the start of another one.
-/

namespace AsmBridge

/-! ## Settled lines -/

/-- No comment of the listing starts the line. -/
def StartsNoComment (t : Text) : Prop :=
  ∀ d, isBlank d → ¬ ['#', d] <+: t.trimStart

/-- A line that starts neither with an instruction in small letters nor, unless that is in a label, with a comment. -/
def IsSettled (t : Text) : Prop :=
  ':' ∈ t.firstWord ∨ startsLowercase t.trimStart = false ∧ StartsNoComment t

theorem startsNoComment_of_head? {t : Text} (h : ∀ c ∈ t.trimStart.head?, c ≠ '#') : StartsNoComment t := by
  rintro d - ⟨r, hr⟩
  exact h '#' (by rw [← hr]; rfl) rfl

theorem startsLowercase_eq_any (t : Text) : startsLowercase t = t.head?.any isLowercase := by
  cases t <;> rfl

theorem isForeign_eq (t : Text) : isForeign t = (!t.firstWord.contains ':' && startsLowercase t.trimStart) := by
  have hlow : startsLowercase t.trimStart = startsLowercase t.firstWord := by
    rw [startsLowercase_eq_any, startsLowercase_eq_any, Text.head?_firstWord]
  have hf := t.head?_fields_eq
  rw [hlow]
  unfold isForeign
  split
  · rename_i hn
    rw [hn] at hf
    split at hf
    · rename_i hw
      rw [hw]
      rfl
    · cases hf
  · rename_i field fields hn
    rw [hn] at hf
    split at hf
    · cases hf
    · cases hf
      rfl

theorem IsSettled.isForeign {t : Text} (h : IsSettled t) : isForeign t = false := by
  rw [isForeign_eq]
  rcases h with hcolon | ⟨hlow, -⟩
  · rw [List.contains_iff_mem.mpr hcolon]
    rfl
  · rw [hlow, Bool.and_false]

theorem isSettled_of_isForeign {t : Text} (h : isForeign t = false)
    (hmark : StartsNoComment t) : IsSettled t := by
  by_cases hcolon : ':' ∈ t.firstWord
  · exact .inl hcolon
  · have hc : t.firstWord.contains ':' = false := Bool.eq_false_iff.mpr fun h => hcolon (List.contains_iff_mem.mp h)
    rw [isForeign_eq, hc] at h
    exact .inr ⟨h, hmark⟩

/-- A line is settled by what it starts with. -/
theorem isSettled_of_head? {t : Text} (h : ∀ c ∈ t.trimStart.head?, isLowercase c = false ∧ c ≠ '#') : IsSettled t := by
  refine .inr ⟨?_, startsNoComment_of_head? fun c hc => (h c hc).2⟩
  rw [startsLowercase_eq_any]
  cases hc : t.trimStart.head? with
  | none => rfl
  | some c => exact (h c hc).1

theorem isSettled_congr {s t : Text} (h : s.trimStart = t.trimStart) : IsSettled s ↔ IsSettled t := by
  rw [IsSettled, IsSettled, StartsNoComment, StartsNoComment, Text.firstWord, Text.firstWord, h]

/-! ## Changes to the tail of a line -/

/-- A text that can stand in place of another one in a disabled line and in a settled one. -/
structure CanReplace (old new : Text) : Prop where
  apart : ∀ c ∈ old.head?, isBlank c = false ∧ c ≠ '/'
  trimmed : ∀ c ∈ new.head?, isBlank c = false
  colon : ':' ∈ old.firstWord → ':' ∈ new.firstWord
  settled : IsSettled old → IsSettled new

/-- A line changes from some place on. -/
def TailChanges (line out : Text) : Prop :=
  ∃ head old new, CanReplace old new ∧ line = head ++ old ∧ out = head ++ new

theorem TailChanges.refl (line : Text) : TailChanges line line :=
  ⟨line, [], [], ⟨by simp, by simp, id, id⟩, by simp, by simp⟩

theorem not_mem_disabledMargin {c : Char} (hb : isBlank c = false) (hs : c ≠ '/') : c ∉ disabledMargin := by
  intro hc
  rcases List.mem_append.mp hc with h | h
  · rw [List.eq_of_mem_replicate h] at hb
    exact absurd hb (by decide)
  · have hall : ∀ c ∈ "// ".toList, c = '/' ∨ isBlank c = true := by decide
    rcases hall c h with h | h
    · exact hs h
    · rw [h] at hb
      cases hb

theorem TailChanges.isDisabled {line out : Text} (h : TailChanges line out) (hd : isDisabled line) : isDisabled out := by
  obtain ⟨head, old, new, hr, rfl, rfl⟩ := h
  have hp := Text.prefix_of_prefix_append (List.isPrefixOf_iff_prefix.mp hd) fun c hc =>
    not_mem_disabledMargin (hr.apart c hc).1 (hr.apart c hc).2
  exact List.isPrefixOf_iff_prefix.mpr (hp.trans (List.prefix_append head new))

theorem TailChanges.isSettled {line out : Text} (h : TailChanges line out) (hs : IsSettled line) : IsSettled out := by
  obtain ⟨head, old, new, hr, rfl, rfl⟩ := h
  have hold := Text.trimStart_append_of_head? head fun c hc => (hr.apart c hc).1
  have hnew := Text.trimStart_append_of_head? head hr.trimmed
  cases hh : head.trimStart with
  | nil =>
      rw [hh, List.nil_append] at hold hnew
      rw [isSettled_congr (hold.trans (Text.trimStart_of_head? fun c hc => (hr.apart c hc).1).symm)] at hs
      rw [isSettled_congr (hnew.trans (Text.trimStart_of_head? hr.trimmed).symm)]
      exact hr.settled hs
  | cons c r =>
      rcases hs with hcolon | ⟨hlow, hmark⟩
      · rw [Text.mem_firstWord_append fun c hc => (hr.apart c hc).1] at hcolon
        exact .inl ((Text.mem_firstWord_append hr.trimmed).mpr (hcolon.imp_right fun hc => ⟨hc.1, hr.colon hc.2⟩))
      · rw [StartsNoComment, hold, hh] at hmark
        rw [hold, hh] at hlow
        refine .inr ⟨by rw [hnew, hh]; exact hlow, fun d hd hp => ?_⟩
        rw [hnew, hh] at hp
        cases r with
        | nil =>
            -- The blank would be the first character of the new text.
            obtain ⟨rest, he⟩ := hp
            have hn : d :: rest = new := (List.cons.inj he).2
            rw [hr.trimmed d (by rw [← hn]; rfl)] at hd
            cases hd
        | cons e r =>
            obtain ⟨rest, he⟩ := hp
            cases he
            exact hmark d hd ⟨r ++ old, rfl⟩

/-! ## The later changes, one by one -/

/-- A word without colon that starts with a small letter. -/
def IsSmallWord (word : Text) : Prop :=
  startsLowercase word ∧ ∀ c ∈ word, isBlank c = false ∧ c ≠ '/' ∧ c ≠ ':'

instance (word : Text) : Decidable (IsSmallWord word) :=
  inferInstanceAs (Decidable (_ ∧ _))

namespace IsSmallWord

variable {word : Text} (hw : IsSmallWord word)
include hw

theorem head?_append (t : Text) : ∀ c ∈ (word ++ t).head?, c ∈ word := by
  intro c hc
  cases word with
  | nil => cases hw.1
  | cons d word =>
      cases hc
      exact List.mem_cons_self

theorem trimStart_append (t : Text) : Text.trimStart (word ++ t) = word ++ t :=
  Text.trimStart_of_head? fun c hc => (hw.2 c (hw.head?_append t c hc)).1

/-- The colon of a first word that starts with `word` stands behind it. -/
theorem colon_mem_firstWord_append_iff (t : Text) :
    ':' ∈ Text.firstWord (word ++ t) ↔ ':' ∈ t.takeWhile fun c => !isBlank c := by
  have hblank : ∀ c ∈ word, (!isBlank c) = true := fun c hc => by
    rw [(hw.2 c hc).1]
    rfl
  rw [Text.firstWord, hw.trimStart_append, List.takeWhile_append_of_pos hblank, List.mem_append]
  exact ⟨fun h => h.resolve_left fun hm => (hw.2 _ hm).2.2 rfl, Or.inr⟩

/-- A line that starts with the word is settled only by a colon. -/
theorem canReplace {t new : Text} (hn : ∀ c ∈ new.head?, isBlank c = false)
    (hcolon : ':' ∈ (t.takeWhile fun c => !isBlank c) → ':' ∈ new.firstWord) : CanReplace (word ++ t) new where
  apart := fun c hc =>
    have h := hw.2 c (hw.head?_append t c hc)
    ⟨h.1, h.2.1⟩
  trimmed := hn
  colon := fun h => hcolon ((hw.colon_mem_firstWord_append_iff t).mp h)
  settled := by
    rintro (h | ⟨h, -⟩)
    · exact .inl (hcolon ((hw.colon_mem_firstWord_append_iff t).mp h))
    · have hlow := hw.1
      rw [hw.trimStart_append, startsLowercase_eq_any, List.head?_append] at h
      rw [startsLowercase_eq_any] at hlow
      cases hword : word.head? with
      | none => rw [hword] at hlow; cases hlow
      | some c =>
          rw [hword] at h hlow
          exact absurd (hlow.symm.trans h) (by decide)

end IsSmallWord

theorem tailChanges_removeMarker {marker : Text} (hm : marker ∈ sizeMarkers) (t : Text) :
    TailChanges t (removeMarker t marker) := by
  have hall : ∀ marker ∈ sizeMarkers, marker = "# NOREX".toList ∨ IsSmallWord marker := by decide
  unfold removeMarker
  split
  · rename_i head tail hcut
    refine ⟨head, marker ++ tail, tail.trim, ?_, Text.eq_append_of_cut? hcut, rfl⟩
    rcases hall marker hm with rfl | hw
    · -- A line that starts with this marker starts with the mark of a comment.
      have hword : Text.firstWord ("# NOREX".toList ++ tail) = ['#'] := by rfl
      refine ⟨?_, Text.not_isBlank_head?_trim tail, ?_, ?_⟩
      · intro c hc
        cases hc
        decide
      · intro hc
        rw [hword] at hc
        exact absurd hc (by decide)
      · rintro (h | ⟨-, h⟩)
        · rw [hword] at h
          exact absurd h (by decide)
        · exact absurd ⟨_, rfl⟩ (h ' ' (by decide))
    · refine hw.canReplace (Text.not_isBlank_head?_trim tail) fun hc => ?_
      rw [Text.firstWord_trim]
      exact Text.mem_firstWord_of_mem_takeWhile hc
  · exact TailChanges.refl t

theorem tailChanges_addShiftCount (t mnemonic : Text) : TailChanges t (addShiftCount t mnemonic) := by
  unfold addShiftCount
  split
  · split
    · exact TailChanges.refl t
    · exact ⟨t, [], ", 1".toList, ⟨by decide, by decide, by decide, fun _ => isSettled_of_head? (by decide)⟩, by simp, rfl⟩
  · exact TailChanges.refl t

theorem tailChanges_shortenMove (t : Text) : TailChanges t (shortenMove t) := by
  have hlong : IsSmallWord "movabs".toList := by decide
  have hshort : IsSmallWord "mov".toList := by decide
  unfold shortenMove
  split
  · rename_i head tail hcut
    refine ⟨head, "movabs".toList ++ tail, "mov".toList ++ tail, ?_, Text.eq_append_of_cut? hcut, by rw [List.append_assoc]⟩
    refine hlong.canReplace (fun c hc => (hshort.2 c (hshort.head?_append tail c hc)).1) fun hc => ?_
    exact (hshort.colon_mem_firstWord_append_iff tail).mpr hc
  · exact TailChanges.refl t

/-- How an operand that moved can start. -/
theorem start_of_number {c : Char} (h : c = '-' ∨ c.isDigit) : isBlank c = false ∧ isLowercase c = false ∧ c ≠ '#' := by
  rcases h with rfl | h
  · decide
  · have hall : ∀ c ∈ CharSet.chars [(0x30, 0x39)], isBlank c = false ∧ isLowercase c = false ∧ c ≠ '#' := by decide
    exact hall c (mem_chars_of_isDigit h)

/-- An operand that moves starts with a number. -/
theorem canReplace_rebased {opening base : Text} (ho : opening ∈ [ripOpening, rbpOpening]) (hb : base.head? = some '[')
    (n : Int) (tail : Text) : CanReplace (opening ++ tail) (rebased (Decimal.ofInt n) base opening tail) := by
  have hstart : ∀ c ∈ (rebased (Decimal.ofInt n) base opening tail).head?,
      isBlank c = false ∧ isLowercase c = false ∧ c ≠ '#' := by
    intro c hc
    simp only [rebased, List.append_assoc, List.head?_append, hb, Option.some_or] at hc
    cases hn : (Decimal.ofInt n).head? with
    | none =>
        rw [hn] at hc
        cases hc
        decide
    | some d =>
        rw [hn] at hc
        cases hc
        exact start_of_number (Decimal.mem_ofInt (List.mem_of_head? hn))
  have hword : ':' ∉ Text.firstWord (opening ++ tail) ∧ ∀ c ∈ (opening ++ tail).head?, isBlank c = false ∧ c ≠ '/' := by
    simp only [List.mem_cons, List.not_mem_nil, or_false] at ho
    rcases ho with rfl | rfl
    · exact ⟨show ':' ∉ "[rip".toList by decide, fun c hc => by cases hc; decide⟩
    · exact ⟨show ':' ∉ "[rbp".toList by decide, fun c hc => by cases hc; decide⟩
  refine ⟨hword.2, fun c hc => (hstart c hc).1, fun hc => absurd hc hword.1, fun _ => isSettled_of_head? ?_⟩
  rw [Text.trimStart_of_head? fun c hc => (hstart c hc).1]
  exact fun c hc => (hstart c hc).2

section

variable {table : Table} {layout : Layout} {line out : Text}

theorem tailChanges_resolveConstant (h : resolveConstant table line = .ok out) : TailChanges line out := by
  unfold resolveConstant at h
  split at h
  · cases h
    exact TailChanges.refl line
  · rename_i head tail hcut
    simp only at h
    split at h
    · cases h
    · obtain ⟨offset, hw, rfl⟩ := exists_of_map_eq_ok h
      obtain ⟨rfl, -⟩ := Decimal.eq_ofInt_of_write hw
      exact ⟨head, _, _, canReplace_rebased (by decide) rfl _ tail, Text.eq_append_of_cut? hcut, rfl⟩

theorem tailChanges_resolveArgument (h : resolveArgument layout line = .ok out) : TailChanges line out := by
  unfold resolveArgument at h
  split at h
  · rename_i digits head tail hd hcut
    obtain ⟨n, -, h⟩ := exists_of_bind_eq_ok h
    obtain ⟨place, hw, h⟩ := exists_of_bind_eq_ok h
    obtain ⟨rfl, -⟩ := Decimal.eq_ofInt_of_write hw
    cases h
    exact ⟨head, _, _, canReplace_rebased (by decide) rfl _ tail, Text.eq_append_of_cut? hcut, rfl⟩
  · cases h
    exact TailChanges.refl line

end

end AsmBridge
