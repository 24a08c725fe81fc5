import AsmBridge.Declaration
import AsmBridge.Proofs.Text.FirstWord

/-!
# Files of declarations

A Go file is read as the places where a line starts like a declaration, in their order, whatever stands between them.
-/

namespace AsmBridge

/-! ## Places -/

/-- What stands in front of a parameter list: the word `func` and a name. -/
structure DeclarationHead where
  gap : Text
  name : Text
  space : Text
  gap_ne_nil : gap ≠ []
  isBlank_gap : ∀ c ∈ gap, isBlank c = true
  name_ne_nil : name ≠ []
  isWordChar_name : ∀ c ∈ name, isWordChar c = true
  isBlank_space : ∀ c ∈ space, isBlank c = true

def DeclarationHead.text (h : DeclarationHead) : Text :=
  "func".toList ++ (h.gap ++ (h.name ++ h.space))

/-- Whether a text starts, after white space, like a declaration. -/
def OpensDeclaration (t : Text) : Prop :=
  ∃ (h : DeclarationHead) (rest : Text), t.trimStart = h.text ++ '(' :: rest

/-- A place where a line starts like a declaration, and the text in front of it. The place may be a declaration or stand in a
comment: Go knows, and the reader does not. -/
structure DeclarationPlace where
  before : Text
  indent : Text
  head : DeclarationHead
  params : Text
  isBlank_indent : ∀ c ∈ indent, isBlank c = true
  closed : ')' ∉ params

namespace DeclarationPlace

/-- The line of a place, up to the end of the parameter list. -/
def text (p : DeclarationPlace) : Text :=
  p.indent ++ (p.head.text ++ '(' :: (p.params ++ [')']))

def declaration (p : DeclarationPlace) : Declaration :=
  { name := p.head.name, params := p.params }

end DeclarationPlace

/-- Whether no line of a text starts like a declaration, where `lineStart` tells whether a line starts with the text. -/
def IsQuiet (lineStart : Bool) (t : Text) : Prop :=
  (lineStart = true → ¬ OpensDeclaration t) ∧ ∀ x y, t = x ++ '\n' :: y → ¬ OpensDeclaration y

/-- Whether a line starts behind a text. -/
def EndsLine (lineStart : Bool) (t : Text) : Prop :=
  if t = [] then lineStart = true else t.getLast? = some '\n'

/-- Whether each place starts a line, and no line between the places starts like a declaration. -/
def WellPlaced : Bool → List DeclarationPlace → Text → Prop
  | lineStart, [], ending => IsQuiet lineStart ending
  | lineStart, p :: places, ending =>
    EndsLine lineStart p.before ∧ IsQuiet lineStart p.before ∧ WellPlaced false places ending

/-- A file in which some lines start like declarations. -/
structure DeclarationFile where
  places : List DeclarationPlace
  ending : Text
  wellPlaced : WellPlaced true places ending

def DeclarationFile.render (f : DeclarationFile) : Text :=
  (f.places.flatMap fun p => p.before ++ p.text) ++ f.ending

/-! ## One declaration -/

theorem isWordChar_of_isBlank_eq_true {c : Char} (h : isWordChar c = true) : isBlank c = false := by
  cases hb : isBlank c with
  | false => rfl
  | true => rw [isWordChar_of_isBlank hb] at h; cases h

theorem Text.fields_cons_ne_nil {c : Char} (hc : isBlank c = false) (t : Text) : Text.fields (c :: t) ≠ [] := by
  intro hn
  have hfirst := Text.head?_fields_eq (c :: t)
  have hword : (Text.firstWord (c :: t)).head? = some c := by
    rw [Text.head?_firstWord, Text.trimStart_of_head? (t := c :: t) (by simpa using hc)]
    rfl
  rw [hn] at hfirst
  split at hfirst
  · rename_i he
    rw [he] at hword
    cases hword
  · cases hfirst

namespace DeclarationHead

variable (h : DeclarationHead)

theorem parenthesis_not_mem_text : '(' ∉ h.text := by
  have hblank : isBlank '(' = false := by decide
  have hword : isWordChar '(' = false := by decide
  simp only [text, List.mem_append, not_or]
  exact ⟨by decide, fun hm => absurd (h.isBlank_gap _ hm) (by simp [hblank]),
    fun hm => absurd (h.isWordChar_name _ hm) (by simp [hword]), fun hm => absurd (h.isBlank_space _ hm) (by simp [hblank])⟩

theorem isBlank_of_mem_name {c : Char} (hc : c ∈ h.name) : isBlank c = false :=
  isWordChar_of_isBlank_eq_true (h.isWordChar_name c hc)

theorem fields_text : Text.fields h.text = ["func".toList, h.name] := by
  have hname : Text.fields (h.name ++ h.space) = [h.name] := by
    have hword := Text.fields_word (fun c hc => h.isBlank_of_mem_name hc) h.name_ne_nil
    cases hs : h.space with
    | nil => rw [List.append_nil, hword]
    | cons c space =>
        have hblank : ∀ d ∈ c :: space, isBlank d = true := hs ▸ h.isBlank_space
        have hspace := Text.fields_append (fun d hd => hblank d (List.mem_cons_of_mem c hd)) []
        rw [List.append_nil] at hspace
        rw [Text.fields_append_cons _ _ (hblank c List.mem_cons_self), hword, hspace]
        rfl
  obtain ⟨c, gap, hg⟩ := List.exists_cons_of_ne_nil h.gap_ne_nil
  have hblank : ∀ d ∈ c :: gap, isBlank d = true := hg ▸ h.isBlank_gap
  rw [text, hg, List.cons_append, Text.fields_append_cons _ _ (hblank c List.mem_cons_self),
    Text.fields_append (fun d hd => hblank d (List.mem_cons_of_mem c hd)), hname]
  rfl

/-- There are too many words where something stands in front of a head. -/
theorem append_cons_ne_text (other : DeclarationHead) {words indent : Text} {c d : Char} (hw : (words ++ [c]).head? = some d)
    (hd : isBlank d = false) (hc : isBlank c = true) (hi : ∀ c ∈ indent, isBlank c = true) :
    words ++ c :: (indent ++ h.text) ≠ other.text := by
  intro he
  have hfields := congrArg Text.fields he
  rw [Text.fields_append_cons _ _ hc, Text.fields_append hi, fields_text, fields_text] at hfields
  cases words with
  | nil =>
      cases hw
      rw [hc] at hd
      cases hd
  | cons e words =>
      cases hw
      refine absurd (List.length_eq_zero_iff.mp ?_) (Text.fields_cons_ne_nil hd words)
      simpa using congrArg List.length hfields

end DeclarationHead

namespace Declaration

theorem afterBlank?_append {gap rest : Text} (hn : gap ≠ []) (hgap : ∀ c ∈ gap, isBlank c = true)
    (hrest : ∀ c ∈ rest.head?, isBlank c = false) : afterBlank? (gap ++ rest) = some rest := by
  obtain ⟨c, gap, rfl⟩ := List.exists_cons_of_ne_nil hn
  rw [List.cons_append, afterBlank?, if_pos (hgap c List.mem_cons_self),
    Text.trimStart_append (fun d hd => hgap d (List.mem_cons_of_mem c hd)) hrest]

theorem parenthesized?_append {params : Text} (h : ')' ∉ params) (rest : Text) :
    parenthesized? ('(' :: (params ++ ')' :: rest)) = some (params, rest) := by
  have hdrop : (params ++ ')' :: rest).dropWhile (· != ')') = ')' :: rest := by
    rw [Text.dropWhile_append_cons (by decide), List.dropWhile_eq_nil_iff.mpr, List.nil_append]
    exact fun c hc => bne_iff_ne.mpr (ne_of_mem_of_not_mem hc h)
  rw [parenthesized?, hdrop, Text.takeWhile_ne_append_cons h]

theorem parse?_text {indent : Text} (hi : ∀ c ∈ indent, isBlank c = true) (h : DeclarationHead) {params : Text}
    (hp : ')' ∉ params) (rest : Text) :
    parse? (indent ++ (h.text ++ '(' :: (params ++ ')' :: rest))) = some ({ name := h.name, params := params }, rest) := by
  have htrim : Text.trimStart (indent ++ (h.text ++ '(' :: (params ++ ')' :: rest))) =
      "func".toList ++ (h.gap ++ (h.name ++ (h.space ++ '(' :: (params ++ ')' :: rest)))) := by
    have hhead : ∀ c ∈ (h.text ++ '(' :: (params ++ ')' :: rest)).head?, isBlank c = false := by
      intro c hc
      cases hc
      decide
    rw [Text.trimStart_append hi hhead, DeclarationHead.text]
    simp only [List.append_assoc]
  have hname : ∀ c ∈ (h.name ++ (h.space ++ '(' :: (params ++ ')' :: rest))).head?, isBlank c = false := by
    intro c hc
    rw [List.head?_append_of_ne_nil _ h.name_ne_nil] at hc
    exact h.isBlank_of_mem_name (List.mem_of_mem_head? hc)
  have hend : ∀ c ∈ (h.space ++ '(' :: (params ++ ')' :: rest)).head?, isWordChar c = false := by
    intro c hc
    rw [List.head?_append] at hc
    rcases Option.or_eq_some_iff.mp hc with hc | ⟨-, hc⟩
    · exact isWordChar_of_isBlank (h.isBlank_space c (List.mem_of_mem_head? hc))
    · cases hc
      decide
  have hspace : Text.trimStart (h.space ++ '(' :: (params ++ ')' :: rest)) = '(' :: (params ++ ')' :: rest) :=
    Text.trimStart_append h.isBlank_space (by intro c hc; cases hc; decide)
  rw [parse?, htrim, Text.after?_append, Option.bind_some, afterBlank?_append h.gap_ne_nil h.isBlank_gap hname]
  simp only [Text.takeWhile_append h.isWordChar_name hend, Text.dropWhile_append h.isWordChar_name hend, hspace,
    parenthesized?_append hp rest]
  obtain ⟨c, name, hn⟩ := List.exists_cons_of_ne_nil h.name_ne_nil
  rw [hn]

theorem exists_of_afterBlank? {t rest : Text} (h : afterBlank? t = some rest) :
    ∃ gap, gap ≠ [] ∧ (∀ c ∈ gap, isBlank c = true) ∧ t = gap ++ rest := by
  unfold afterBlank? at h
  split at h
  · cases h
  · rename_i c r
    split at h
    · rename_i hc
      cases h
      refine ⟨c :: Text.indent r, List.cons_ne_nil _ _, ?_, ?_⟩
      · exact List.forall_mem_cons.mpr ⟨hc, fun d hd => List.all_eq_true.mp List.all_takeWhile d hd⟩
      · rw [List.cons_append, Text.indent, Text.trimStart, List.takeWhile_append_dropWhile]
    · cases h

theorem eq_of_parenthesized? {t params rest : Text} (h : parenthesized? t = some (params, rest)) :
    t = '(' :: (params ++ ')' :: rest) := by
  unfold parenthesized? at h
  split at h
  · rename_i r
    split at h
    · cases h
    · rename_i c rest' hd
      cases h
      have hc := List.head?_dropWhile_not (· != ')') r
      rw [hd] at hc
      obtain rfl : c = ')' := by simpa using hc
      rw [← hd, List.takeWhile_append_dropWhile]
  · cases h

/-- What is read as a declaration starts like one. -/
theorem exists_of_parse? {t rest : Text} {d : Declaration} (h : parse? t = some (d, rest)) :
    ∃ head : DeclarationHead, t.trimStart = head.text ++ '(' :: (d.params ++ ')' :: rest) := by
  unfold parse? at h
  split at h
  · cases h
  · rename_i r hr
    obtain ⟨s, hs, hb⟩ := Option.bind_eq_some_iff.mp hr
    obtain ⟨gap, hgap, hblank, rfl⟩ := exists_of_afterBlank? hb
    split at h
    · rename_i c name params rest' hname hparams
      cases h
      refine ⟨{ gap := gap, name := c :: name, space := Text.indent (r.dropWhile isWordChar)
                gap_ne_nil := hgap, isBlank_gap := hblank, name_ne_nil := List.cons_ne_nil c name
                isWordChar_name := ?_, isBlank_space := ?_ }, ?_⟩
      · rw [← hname]
        exact fun d hd => List.all_eq_true.mp List.all_takeWhile d hd
      · exact fun d hd => List.all_eq_true.mp List.all_takeWhile d hd
      · have hr : r = c :: name ++ (Text.indent (r.dropWhile isWordChar) ++ '(' :: (params ++ ')' :: rest)) := by
          rw [← eq_of_parenthesized? hparams, Text.indent, Text.trimStart, List.takeWhile_append_dropWhile, ← hname,
            List.takeWhile_append_dropWhile]
        rw [Text.eq_append_of_after? hs, DeclarationHead.text]
        nth_rewrite 1 [hr]
        simp only [List.append_assoc]
    · cases h

end Declaration

/-! ## Files -/

namespace DeclarationPlace

variable (p : DeclarationPlace)

theorem parse?_text {indent : Text} (hi : ∀ c ∈ indent, isBlank c = true) (rest : Text) :
    Declaration.parse? (indent ++ (p.text ++ rest)) = some (p.declaration, rest) := by
  have hblank : ∀ c ∈ indent ++ p.indent, isBlank c = true :=
    fun c hc => (List.mem_append.mp hc).elim (hi c) (p.isBlank_indent c)
  have hparse := Declaration.parse?_text hblank p.head p.closed rest
  rw [List.append_assoc] at hparse
  rw [← declaration] at hparse
  rw [← hparse, text]
  simp only [List.append_assoc, List.cons_append, List.nil_append]

/-- What stands between a filler that does not open a declaration and a place is no declaration either. -/
theorem parse?_eq_none {filler : Text} (hb : ¬ ∀ c ∈ filler, isBlank c = true) (hq : ¬ OpensDeclaration filler)
    (hend : filler.getLast? = some '\n') (rest : Text) : Declaration.parse? (filler ++ (p.text ++ rest)) = none := by
  cases hp : Declaration.parse? (filler ++ (p.text ++ rest)) with
  | none => rfl
  | some found =>
      obtain ⟨d, tail⟩ := found
      obtain ⟨head, ht⟩ := Declaration.exists_of_parse? hp
      have hne : filler.trimStart ≠ [] := fun hn => hb fun c hc => List.dropWhile_eq_nil_iff.mp hn c hc
      have hlast : filler.trimStart.getLast? = some '\n' := by
        obtain ⟨indent, hi⟩ := List.dropWhile_suffix (l := filler) isBlank
        rw [← hi] at hend
        exact (List.getLast?_append_of_ne_nil indent hne).symm.trans hend
      obtain ⟨words, hw⟩ := List.getLast?_eq_some_iff.mp hlast
      have hfirst := Text.head?_trimStart filler
      have hkeep : (filler ++ (p.text ++ rest)).trimStart = filler.trimStart ++ (p.text ++ rest) :=
        Text.dropWhile_append_of_ne_nil hne _
      rw [hkeep, hw, List.append_assoc] at ht
      rw [hw] at hfirst
      by_cases hm : '(' ∈ words
      · -- The parenthesis of the declaration is in the filler.
        obtain ⟨u, v, rfl, hu⟩ := List.eq_append_cons_of_mem hm
        rw [List.append_assoc, List.cons_append] at ht
        obtain ⟨rfl, -⟩ := Text.append_cons_inj hu head.parenthesis_not_mem_text ht
        exact absurd ⟨head, _, by rw [hw, List.append_assoc, List.cons_append]⟩ hq
      · -- It is that of the place, in front of which there are too many words.
        have hmem : '(' ∉ words ++ '\n' :: (p.indent ++ p.head.text) := by
          simp only [List.mem_append, List.mem_cons, not_or]
          exact ⟨hm, by decide, fun hi => absurd (p.isBlank_indent _ hi) (by decide), p.head.parenthesis_not_mem_text⟩
        have htext : words ++ '\n' :: (p.indent ++ p.head.text) ++ '(' :: (p.params ++ ')' :: rest) =
            head.text ++ '(' :: (d.params ++ ')' :: tail) := by
          rw [← ht, text]
          simp only [List.append_assoc, List.cons_append, List.nil_append]
        obtain ⟨he, -⟩ := Text.append_cons_inj hmem head.parenthesis_not_mem_text htext
        obtain ⟨c, tail, htail⟩ := List.exists_cons_of_ne_nil (hw ▸ hne)
        have hc : (words ++ ['\n']).head? = some c := by rw [htail]; rfl
        exact absurd he (p.head.append_cons_ne_text head hc (hfirst c hc) (by decide) p.isBlank_indent)

end DeclarationPlace

namespace Declaration

theorem allFrom_of_parse? {t rest : Text} {d : Declaration} (h : parse? t = some (d, rest)) :
    allFrom true t = d :: allFrom false rest := by
  cases t with
  | nil => cases h
  | cons c t =>
      rw [allFrom]
      split
      · rename_i hp
        rw [atLineStart?, if_pos rfl, h] at hp
        cases hp
        rfl
      · rename_i hp
        rw [atLineStart?, if_pos rfl, h] at hp
        cases hp

theorem allFrom_cons {lineStart : Bool} {c : Char} {t : Text} (h : lineStart = true → parse? (c :: t) = none) :
    allFrom lineStart (c :: t) = allFrom (c == '\n') t := by
  have hnone : atLineStart? lineStart (c :: t) = none := by
    cases lineStart with
    | false => rfl
    | true => exact h rfl
  rw [allFrom]
  split
  · rename_i hp
    rw [hnone] at hp
    cases hp
  · rfl

end Declaration

theorem IsQuiet.tail {lineStart : Bool} {c : Char} {t : Text} (h : IsQuiet lineStart (c :: t)) : IsQuiet (c == '\n') t := by
  refine ⟨fun hc => ?_, fun x y ht => h.2 (c :: x) y (by rw [ht]; rfl)⟩
  obtain rfl := eq_of_beq hc
  exact h.2 [] t rfl

theorem allFrom_of_isQuiet {lineStart : Bool} {t : Text} (h : IsQuiet lineStart t) : Declaration.allFrom lineStart t = [] := by
  induction t generalizing lineStart with
  | nil => rw [Declaration.allFrom]
  | cons c t ih =>
      rw [Declaration.allFrom_cons, ih h.tail]
      intro hl
      cases hp : Declaration.parse? (c :: t) with
      | none => rfl
      | some found =>
          obtain ⟨head, ht⟩ := Declaration.exists_of_parse? hp
          exact absurd ⟨head, _, ht⟩ (h.1 hl)

/-- The next declaration is that of the next place. -/
theorem DeclarationPlace.allFrom_append (p : DeclarationPlace) {lineStart : Bool} {filler : Text}
    (hend : EndsLine lineStart filler) (hq : IsQuiet lineStart filler) (rest : Text) :
    Declaration.allFrom lineStart (filler ++ (p.text ++ rest)) = p.declaration :: Declaration.allFrom false rest := by
  induction filler generalizing lineStart with
  | nil =>
      obtain rfl : lineStart = true := hend
      exact Declaration.allFrom_of_parse? (p.parse?_text (by simp) rest)
  | cons c filler ih =>
      have hlast : (c :: filler).getLast? = some '\n' := hend
      by_cases hb : lineStart = true ∧ ∀ d ∈ c :: filler, isBlank d = true
      · rw [hb.1]
        exact Declaration.allFrom_of_parse? (p.parse?_text hb.2 rest)
      · rw [List.cons_append, Declaration.allFrom_cons fun hl => ?_, ih ?_ hq.tail]
        · rw [EndsLine]
          split
          · rename_i hn
            rw [hn] at hlast
            cases hlast
            rfl
          · rename_i hn
            rwa [List.getLast?_cons_of_ne_nil hn] at hlast
        · exact p.parse?_eq_none (fun hall => hb ⟨hl, hall⟩) (hq.1 hl) hlast rest

/-- A file is read as its places. -/
theorem DeclarationFile.allFrom_render (file : DeclarationFile) :
    Declaration.allFrom true file.render = file.places.map DeclarationPlace.declaration := by
  have hplaces : ∀ (places : List DeclarationPlace) (lineStart : Bool), WellPlaced lineStart places file.ending →
      Declaration.allFrom lineStart ((places.flatMap fun p => p.before ++ p.text) ++ file.ending) =
        places.map DeclarationPlace.declaration := by
    intro places
    induction places with
    | nil => exact fun _ h => allFrom_of_isQuiet h
    | cons p places ih =>
        intro lineStart h
        obtain ⟨hend, hq, htail⟩ := h
        rw [List.flatMap_cons, List.append_assoc, List.append_assoc, p.allFrom_append hend hq, ih false htail, List.map_cons]
  exact hplaces file.places true file.wellPlaced

end AsmBridge
