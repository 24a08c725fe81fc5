import AsmBridge.Proofs.Text.Occurrence
import AsmBridge.Text.Blank
import AsmBridge.Text.DecimalDigit
import AsmBridge.Text.WordChar

/-!
# White space around texts

White space is neither in words nor in numbers, trimming takes exactly the white space around a text, and the
fields of a text can be read off one by one.
-/

namespace AsmBridge

-- Characters are finitely many, and a fact about every character of a text could also be decided over all of them.

instance (priority := 2000) Text.decidableForallMem (t : List Char) (p : Char → Prop) [DecidablePred p] :
    Decidable (∀ c ∈ t, p c) :=
  List.decidableBAll p t

instance (priority := 2000) Text.decidableForallMemOption (o : Option Char) (p : Char → Prop) [DecidablePred p] :
    Decidable (∀ c ∈ o, p c) :=
  Option.decidableForallMem o

/-! ## Characters of a set -/

/-- The characters of a set, one by one. -/
def CharSet.chars (s : CharSet) : List Char :=
  s.flatMap fun range => (List.range' range.1 (range.2 + 1 - range.1)).map Char.ofNat

theorem CharSet.mem_chars_of_has {s : CharSet} {c : Char} (h : s.has c = true) : c ∈ s.chars := by
  obtain ⟨range, hr, hc⟩ := List.any_eq_true.mp h
  simp only [Bool.and_eq_true, decide_eq_true_eq] at hc
  refine List.mem_flatMap.mpr ⟨range, hr, List.mem_map.mpr ⟨c.toNat, ?_, Char.ofNat_toNat c⟩⟩
  rw [List.mem_range'_1]
  omega

theorem mem_chars_of_isDigit {c : Char} (h : c.isDigit) : c ∈ CharSet.chars [(0x30, 0x39)] := by
  obtain ⟨hz, hn⟩ := Bool.and_eq_true_iff.mp h
  have hlow : 0x30 ≤ c.toNat := of_decide_eq_true hz
  have hhigh : c.toNat ≤ 0x39 := of_decide_eq_true hn
  exact CharSet.mem_chars_of_has (by simp [CharSet.has, hlow, hhigh])

theorem mem_chars_of_isLower {c : Char} (h : c.isLower) : c ∈ CharSet.chars [(0x61, 0x7A)] := by
  obtain ⟨ha, hz⟩ := Bool.and_eq_true_iff.mp h
  have hlow : 0x61 ≤ c.toNat := of_decide_eq_true ha
  have hhigh : c.toNat ≤ 0x7A := of_decide_eq_true hz
  exact CharSet.mem_chars_of_has (by simp [CharSet.has, hlow, hhigh])

/-! ## Blank characters -/

theorem isBlank_of_mem_nil : ∀ c ∈ ([] : Text), isBlank c :=
  nofun

theorem isBlank_of_mem_tab : ∀ c ∈ "\t".toList, isBlank c := by
  decide

theorem isWordChar_of_isBlank {c : Char} (h : isBlank c = true) : isWordChar c = false := by
  have hall : ∀ c ∈ CharSet.blank.chars, isWordChar c = false := by decide +kernel
  exact hall c (CharSet.mem_chars_of_has h)

theorem isSymbolChar_of_isBlank {c : Char} (h : isBlank c = true) : isSymbolChar c = false ∧ c ≠ ':' := by
  have hall : ∀ c ∈ CharSet.blank.chars, c ≠ '.' ∧ c ≠ '$' ∧ c ≠ ':' := by decide
  obtain ⟨hdot, hdollar, hcolon⟩ := hall c (CharSet.mem_chars_of_has h)
  exact ⟨by rw [isSymbolChar, isWordChar_of_isBlank h, beq_false_of_ne hdot, beq_false_of_ne hdollar]; rfl, hcolon⟩

theorem isDecimalDigit_of_isBlank {c : Char} (h : isBlank c = true) : isDecimalDigit c = false := by
  have hall : ∀ c ∈ CharSet.blank.chars, isDecimalDigit c = false := by decide
  exact hall c (CharSet.mem_chars_of_has h)

namespace Text

/-! ## Trimming -/

/-- No white space stands at either end of a text. -/
def IsTrimmed (t : Text) : Prop :=
  (∀ c ∈ t.head?, isBlank c = false) ∧ ∀ c ∈ t.getLast?, isBlank c = false

theorem trimStart_append {x : Text} (hx : ∀ c ∈ x, isBlank c) {t : Text} (ht : ∀ c ∈ t.head?, isBlank c = false) :
    Text.trimStart (x ++ t) = t :=
  dropWhile_append hx ht

theorem trimEnd_append {y : Text} (hy : ∀ c ∈ y, isBlank c) {t : Text} (ht : ∀ c ∈ t.getLast?, isBlank c = false) :
    Text.trimEnd (t ++ y) = t := by
  have hr : ∀ c ∈ y.reverse, isBlank c := fun c hc => hy c (List.mem_reverse.mp hc)
  have ht' : ∀ c ∈ t.reverse.head?, isBlank c = false := by
    rw [List.head?_reverse]
    exact ht
  have hd : (y.reverse ++ t.reverse).dropWhile isBlank = t.reverse := trimStart_append hr ht'
  rw [trimEnd, List.reverse_append, hd, List.reverse_reverse]

/-- Trimming leaves a trimmed text of the white space around it. -/
theorem trim_append {x t y : Text} (hx : ∀ c ∈ x, isBlank c) (hy : ∀ c ∈ y, isBlank c) (ht : IsTrimmed t) :
    Text.trim (x ++ (t ++ y)) = t := by
  cases t with
  | nil =>
      have ha : ∀ c ∈ x ++ y, isBlank c := fun c hc => (List.mem_append.mp hc).elim (hx c) (hy c)
      have hd : Text.trimStart (x ++ y) = [] := by
        rw [← List.append_nil (x ++ y)]
        exact trimStart_append ha (by simp)
      rw [trim, List.nil_append, hd]
      rfl
  | cons c t =>
      rw [trim, trimStart_append hx (t := c :: t ++ y) ht.1]
      exact trimEnd_append hy ht.2

theorem IsTrimmed.trim_eq {t : Text} (ht : IsTrimmed t) : t.trim = t := by
  have h := trim_append (x := []) (y := []) (by simp) (by simp) ht
  rwa [List.nil_append, List.append_nil] at h

theorem indent_append_trimStart (t : Text) : t.indent ++ t.trimStart = t :=
  List.takeWhile_append_dropWhile

/-- A text is its trimmed text with white space behind it. -/
theorem exists_trimEnd (t : Text) : ∃ blanks, (∀ c ∈ blanks, isBlank c) ∧ t = t.trimEnd ++ blanks ∧
    ∀ c ∈ t.trimEnd.getLast?, isBlank c = false := by
  refine ⟨(t.reverse.takeWhile isBlank).reverse, ?_, ?_, ?_⟩
  · intro c hc
    exact List.all_eq_true.mp List.all_takeWhile c (List.mem_reverse.mp hc)
  · rw [trimEnd, ← List.reverse_append, List.takeWhile_append_dropWhile, List.reverse_reverse]
  · intro c hc
    rw [trimEnd, List.getLast?_reverse] at hc
    have hd := List.head?_dropWhile_not isBlank t.reverse
    rwa [hc] at hd

theorem trim_infix (t : Text) : t.trim <:+: t := by
  obtain ⟨blanks, -, he, -⟩ := exists_trimEnd t.trimStart
  have hstart : t.trim <+: t.trimStart := ⟨blanks, he.symm⟩
  exact hstart.isInfix.trans (List.dropWhile_suffix isBlank).isInfix

theorem infix_trimStart {c : Char} {r t : Text} (hc : isBlank c = false) (h : c :: r <:+: t) : c :: r <:+: t.trimStart := by
  rw [← List.takeWhile_append_dropWhile (p := isBlank) (l := t)] at h
  refine infix_of_infix_append_left (fun hm => ?_) h
  rw [List.all_eq_true.mp List.all_takeWhile c hm] at hc
  cases hc

/-- Trimming takes nothing of a block without white space at its ends. -/
theorem infix_trim {c d : Char} {r t : Text} (hc : isBlank c = false) (hd : isBlank d = false)
    (h : c :: (r ++ [d]) <:+: t) : c :: (r ++ [d]) <:+: t.trim := by
  have hs := infix_trimStart hc h
  obtain ⟨blanks, hb, he, -⟩ := exists_trimEnd t.trimStart
  rw [he] at hs
  refine infix_of_infix_append_right (r := c :: r) (fun hm => ?_) hs
  rw [hb d hm] at hd
  cases hd

/-! ## Fields -/

theorem fields_append_cons (x t : Text) {c : Char} (hc : isBlank c) :
    Text.fields (x ++ c :: t) = Text.fields x ++ Text.fields t := by
  rw [fields, List.splitOnP_append_cons x t hc, List.filter_append]
  rfl

theorem fields_word {w : Text} (hw : ∀ c ∈ w, isBlank c = false) (hn : w ≠ []) : Text.fields w = [w] := by
  rw [fields, List.splitOnP_eq_singleton hw, List.filter_singleton]
  cases w with
  | nil => exact absurd rfl hn
  | cons c w => rfl

theorem fields_append {x : Text} (hx : ∀ c ∈ x, isBlank c) (t : Text) : Text.fields (x ++ t) = Text.fields t := by
  induction x with
  | nil => rfl
  | cons c x ih =>
      have hc := fields_append_cons [] (x ++ t) (hx c List.mem_cons_self)
      rw [List.nil_append] at hc
      rw [List.cons_append, hc, ih fun d hd => hx d (List.mem_cons_of_mem c hd)]
      rfl

/-- The first field of a text is the word that it starts with after white space. -/
theorem head?_fields {x w t : Text} (hx : ∀ c ∈ x, isBlank c) (hw : ∀ c ∈ w, isBlank c = false) (hn : w ≠ [])
    (ht : ∀ c ∈ t.head?, isBlank c) : (Text.fields (x ++ (w ++ t))).head? = some w := by
  rw [fields_append hx]
  cases t with
  | nil => rw [List.append_nil, fields_word hw hn]; rfl
  | cons c t => rw [fields_append_cons w t (ht c rfl), fields_word hw hn]; rfl

end Text

end AsmBridge
