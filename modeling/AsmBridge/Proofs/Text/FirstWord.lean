import AsmBridge.Proofs.Text.Blank

/-!
# The first word of a text

The first field of a text can be read without splitting the text. A text that is put behind another one adds to its
first word only where no white space stands between.
-/

namespace AsmBridge

namespace Text

/-- The word that a text starts with after white space, which is empty where nothing else is in the text. -/
def firstWord (t : Text) : Text :=
  t.trimStart.takeWhile fun c => !isBlank c

theorem trimStart_of_head? {t : Text} (h : ∀ c ∈ t.head?, isBlank c = false) : t.trimStart = t := by
  have hs := trimStart_append (x := []) (by simp) h
  rwa [List.nil_append] at hs

theorem head?_trimStart (t : Text) : ∀ c ∈ t.trimStart.head?, isBlank c = false := by
  intro c hc
  have h := List.head?_dropWhile_not isBlank t
  rw [← trimStart, hc] at h
  simpa using h

theorem trimStart_append_of_head? (x : Text) {t : Text} (h : ∀ c ∈ t.head?, isBlank c = false) :
    Text.trimStart (x ++ t) = x.trimStart ++ t := by
  rw [trimStart, trimStart, List.dropWhile_append]
  split
  · rename_i he
    rw [List.isEmpty_iff.mp he, List.nil_append]
    exact trimStart_of_head? h
  · rfl

theorem isBlank_of_mem_firstWord {t : Text} {c : Char} (h : c ∈ t.firstWord) : isBlank c = false := by
  simpa using List.all_eq_true.mp List.all_takeWhile c h

theorem head?_firstWord (t : Text) : t.firstWord.head? = t.trimStart.head? := by
  cases hs : t.trimStart with
  | nil => rw [firstWord, hs]; rfl
  | cons c r =>
      rw [firstWord, hs, List.takeWhile_cons, head?_trimStart t c (by rw [hs]; rfl)]
      rfl

/-- The fields of a text start with its first word. -/
theorem head?_fields_eq (t : Text) : t.fields.head? = if t.firstWord = [] then none else some t.firstWord := by
  have ht : t = t.indent ++ (t.firstWord ++ t.trimStart.dropWhile fun c => !isBlank c) := by
    rw [firstWord, List.takeWhile_append_dropWhile]
    exact List.takeWhile_append_dropWhile.symm
  have hindent : ∀ c ∈ t.indent, isBlank c := fun c hc => List.all_eq_true.mp List.all_takeWhile c hc
  have hrest : ∀ c ∈ (t.trimStart.dropWhile fun c => !isBlank c).head?, isBlank c := by
    intro c hc
    have h := List.head?_dropWhile_not (fun c => !isBlank c) t.trimStart
    rw [hc] at h
    simpa using h
  split
  · rename_i hw
    have hs : t.trimStart = [] := by
      rw [← List.head?_eq_none_iff, ← head?_firstWord, hw]
      rfl
    have hi : t = t.indent ++ [] := by
      rw [hw, hs] at ht
      exact ht
    rw [hi, fields_append hindent]
    rfl
  · rename_i hw
    conv => lhs; rw [ht]
    exact head?_fields hindent (fun c hc => isBlank_of_mem_firstWord hc) hw hrest

theorem mem_firstWord_append {x t : Text} {c : Char} (h : ∀ d ∈ t.head?, isBlank d = false) :
    c ∈ Text.firstWord (x ++ t) ↔
      c ∈ x.firstWord ∨ (∀ d ∈ x.trimStart, isBlank d = false) ∧ c ∈ t.firstWord := by
  rw [firstWord, firstWord, firstWord, trimStart_append_of_head? x h, trimStart_of_head? h]
  by_cases hx : ∀ d ∈ x.trimStart, isBlank d = false
  · have hword : ∀ d ∈ x.trimStart, (!isBlank d) = true := fun d hd => by
      rw [hx d hd]
      rfl
    rw [List.takeWhile_append_of_pos hword, List.mem_append, List.takeWhile_eq_self_iff.mpr hword]
    exact or_congr_right ⟨fun hc => ⟨hx, hc⟩, And.right⟩
  · have hlen : (x.trimStart.takeWhile fun c => !isBlank c).length ≠ x.trimStart.length := fun hl => by
      refine hx fun d hd => ?_
      rw [← (List.takeWhile_prefix _).eq_of_length hl] at hd
      exact isBlank_of_mem_firstWord hd
    rw [List.takeWhile_append, if_neg hlen]
    exact ⟨Or.inl, fun hc => hc.elim id fun hc => absurd hc.1 hx⟩

/-- What a text starts with up to white space is its first word, or nothing. -/
theorem mem_firstWord_of_mem_takeWhile {t : Text} {c : Char} (h : c ∈ t.takeWhile fun c => !isBlank c) :
    c ∈ t.firstWord := by
  have ht : t.trimStart = t := by
    cases t with
    | nil => rfl
    | cons d t =>
        refine trimStart_of_head? fun e he => ?_
        cases he
        rw [List.takeWhile_cons] at h
        split at h
        · rename_i hb
          simpa using hb
        · cases h
  rwa [firstWord, ht]

/-! ## Trimming -/

theorem head?_trim (t : Text) : t.trim.head? = t.trimStart.head? := by
  obtain ⟨blanks, hb, he, -⟩ := exists_trimEnd t.trimStart
  cases ht : t.trim with
  | cons c r =>
      rw [trim] at ht
      rw [he, ht]
      rfl
  | nil =>
      -- What does not start with white space is not all white space.
      rw [trim] at ht
      rw [ht, List.nil_append] at he
      cases blanks with
      | nil => rw [he]
      | cons c blanks =>
          have hc := head?_trimStart t c (by rw [he]; rfl)
          rw [hb c List.mem_cons_self] at hc
          cases hc

theorem not_isBlank_head?_trim (t : Text) : ∀ c ∈ t.trim.head?, isBlank c = false := by
  rw [head?_trim]
  exact head?_trimStart t

theorem firstWord_trim (t : Text) : t.trim.firstWord = t.firstWord := by
  obtain ⟨blanks, hb, he, -⟩ := exists_trimEnd t.trimStart
  rw [firstWord, firstWord, trimStart_of_head? (not_isBlank_head?_trim t), he, List.takeWhile_append]
  split
  · have hnil : blanks.takeWhile (fun c => !isBlank c) = [] := by
      cases blanks with
      | nil => rfl
      | cons c blanks => rw [List.takeWhile_cons, hb c List.mem_cons_self]; rfl
    rw [hnil, List.append_nil]
    rename_i hl
    exact (List.takeWhile_prefix _).eq_of_length hl
  · rfl

end Text

end AsmBridge
