import AsmBridge.Listing.Shape
import AsmBridge.Proofs.Line.Lemmas.Settled
import AsmBridge.Proofs.Text.LetterCase

/-!
# Blocks in lines

Lines that define a block or jump to one keep its name, whichever way the listing spells it, and no such line looks
like an instruction that enters or leaves a function.
-/

namespace AsmBridge

/-! ## Lines with a block -/

/-- The name of a block: the number of its function and its own. -/
structure BlockName where
  function : Text
  block : Text
  function_digits : ∀ c ∈ function, c.isDigit
  block_digits : ∀ c ∈ block, c.isDigit

/-- The name in the output. -/
def BlockName.text (n : BlockName) : Text :=
  "LBB".toList ++ (n.function ++ '_' :: n.block)

/-- The name in a listing: ELF has a dot in front, Mach-O none. -/
def BlockName.spelled (n : BlockName) (dotted : Bool) : Text :=
  (if dotted then ['.'] else []) ++ n.text

/-- A jump to a block. Its mnemonic is `j` with small letters behind it. -/
structure BlockJump where
  indent : Text
  letters : Text
  gap : Text
  target : BlockName
  indent_blank : ∀ c ∈ indent, isBlank c
  letters_small : ∀ c ∈ letters, isLowercase c ∧ isWordChar c
  gap_blank : ∀ c ∈ gap, isBlank c
  gap_nonempty : gap ≠ []

/-- A line that defines a block or jumps to one. -/
inductive BlockLine
  | label (name : BlockName)
  | jump (j : BlockJump)

namespace BlockLine

/-- The line in the words of a listing. -/
def render (dotted : Bool) : BlockLine → Text
  | label name => name.spelled dotted ++ [':']
  | jump j => j.indent ++ ('j' :: j.letters ++ (j.gap ++ j.target.spelled dotted))

/-- The line in the output. -/
def converted : BlockLine → Text
  | label name => name.text ++ [':']
  | jump j => j.indent ++ 'J' :: (Text.toUpper j.letters ++ ' ' :: j.target.text)

/-- Whether a line is this one but for a comment, with or without dot. -/
def Spells (b : BlockLine) (line : Text) : Prop :=
  ∃ dotted, stripComment line = b.render dotted

end BlockLine

/-! ## Names of blocks -/

namespace BlockName

variable (n : BlockName) (dotted : Bool)

/-- The characters of names. -/
def chars : Text := "LB_0123456789".toList

theorem mem_chars {c : Char} (h : c ∈ n.text) : c ∈ chars := by
  have hletters : ∀ c ∈ "LBB_".toList, c ∈ chars := by decide
  have hdigits : ∀ c ∈ CharSet.chars [(0x30, 0x39)], c ∈ chars := by decide
  rw [text, List.mem_append, List.mem_append, List.mem_cons] at h
  rcases h with h | h | rfl | h
  · exact hletters c (List.mem_append_left ['_'] h)
  · exact hdigits c (mem_chars_of_isDigit (n.function_digits c h))
  · decide
  · exact hdigits c (mem_chars_of_isDigit (n.block_digits c h))

theorem not_mem_text {c : Char} (hc : c ∉ chars) : c ∉ n.text :=
  fun h => hc (n.mem_chars h)

theorem mem_spelled {c : Char} (h : c ∈ n.spelled dotted) : c ∈ '.' :: chars := by
  rcases List.mem_append.mp h with h | h
  · cases dotted with
    | true => exact List.mem_singleton.mp h ▸ List.mem_cons_self
    | false => cases h
  · exact List.mem_cons_of_mem _ (n.mem_chars h)

theorem not_mem_spelled {c : Char} (hc : c ∉ '.' :: chars) : c ∉ n.spelled dotted :=
  fun h => hc (n.mem_spelled dotted h)

theorem not_isBlank_of_mem_spelled {c : Char} (h : c ∈ n.spelled dotted) : isBlank c = false := by
  have hall : ∀ c ∈ '.' :: chars, isBlank c = false := by decide
  exact hall c (n.mem_spelled dotted h)

theorem startsBlock_spelled (rest : Text) : startsBlock (n.spelled dotted ++ rest) = true := by
  cases dotted <;> rfl

theorem dropDot_spelled {rest : Text} (hr : '.' ∉ rest) : dropDot (n.spelled dotted ++ rest) = n.text ++ rest := by
  have hdot : '.' ∉ n.text ++ rest := by
    rw [List.mem_append, not_or]
    exact ⟨n.not_mem_text (by decide), hr⟩
  cases dotted with
  | true =>
      change List.erase ('.' :: (n.text ++ rest)) '.' = _
      rw [List.erase_cons_head]
  | false => exact List.erase_of_not_mem hdot

end BlockName

namespace BlockLine

variable (b : BlockLine) (dotted : Bool)

/-! ## Conversion -/

/-- In the output, a line starts with a capital letter. -/
theorem exists_trimStart_converted : ∃ c r, b.converted.trimStart = c :: r ∧ (c = 'L' ∨ c = 'J') := by
  cases b with
  | label name => exact ⟨'L', _, Text.trimStart_of_head? fun c hc => by cases hc; decide, .inl rfl⟩
  | jump j =>
      refine ⟨'J', _, Text.trimStart_append j.indent_blank fun c hc => ?_, .inr rfl⟩
      cases hc
      decide

theorem respellCall_converted : respellCall b.converted = b.converted := by
  obtain ⟨c, r, ht, hc⟩ := b.exists_trimStart_converted
  have hcall : Text.after? (c :: r) callMnemonic = none := by
    refine Text.after?_eq_none_of_head? (c := 'c') rfl fun h => ?_
    rcases hc with rfl | rfl <;> cases h
  rw [respellCall, ht, hcall]

theorem disableForeign_converted : disableForeign b.converted = b.converted := by
  obtain ⟨c, r, ht, hc⟩ := b.exists_trimStart_converted
  have hforeign : isForeign b.converted = false := by
    rw [isForeign_eq, ht, startsLowercase]
    rcases hc with rfl | rfl <;> exact Bool.and_false _
  rw [disableForeign, hforeign]
  rfl

theorem respellJump_label (name : BlockName) : respellJump (label name).converted = (label name).converted := by
  rw [respellJump, Jump.ofLine?_eq_none_of_head]
  intro h
  rw [Text.trimStart_of_head? fun c hc => by cases hc; decide] at h
  cases h

theorem respellBlockLabel_label (name : BlockName) :
    respellBlockLabel ((label name).render dotted) = (label name).converted := by
  have hn : '\n' ∉ (label name).render dotted := by
    rw [render, List.mem_append, not_or]
    exact ⟨name.not_mem_spelled dotted (by decide), by decide⟩
  have hcolon : upToColon ((label name).render dotted) = (label name).render dotted := by
    rw [upToColon, render, List.reverse_append]
    exact (congrArg List.reverse (List.dropWhile_cons_of_neg (by decide))).trans (by simp)
  have hlabel : blockLabel? ((label name).render dotted) = some (label name).converted := by
    rw [blockLabel?, Text.firstLine_eq_self hn, hcolon, render, name.startsBlock_spelled dotted]
    simp only [↓reduceIte]
    split
    · rename_i he
      exact absurd he (by simp)
    · rename_i c r he
      rw [← he, name.dropDot_spelled dotted (by decide)]
      rfl
  rw [respellBlockLabel, hlabel]
  rfl

theorem respellBlockLabel_jump (j : BlockJump) : respellBlockLabel ((jump j).render dotted) = (jump j).render dotted := by
  have hs : startsBlock ((jump j).render dotted) = false :=
    startsBlock_append_eq_false j.indent_blank fun c hc => by
      cases hc
      decide
  rw [respellBlockLabel, blockLabel?, hs]
  rfl

theorem trimStart_jump (j : BlockJump) :
    ((jump j).render dotted).trimStart = 'j' :: (j.letters ++ (j.gap ++ j.target.spelled dotted)) :=
  Text.trimStart_append j.indent_blank fun c hc => by
    cases hc
    decide

theorem respellJump_jump (j : BlockJump) : respellJump ((jump j).render dotted) = (jump j).converted := by
  have hindent : ((jump j).render dotted).indent = j.indent :=
    Text.takeWhile_append j.indent_blank fun c hc => by
      cases hc
      decide
  have hword : ∀ c ∈ j.letters, isWordChar c := fun c hc => (j.letters_small c hc).2
  have hgap : ∀ c ∈ (j.gap ++ j.target.spelled dotted).head?, isWordChar c = false := by
    intro c hc
    obtain ⟨d, gap, hg⟩ := List.exists_cons_of_ne_nil j.gap_nonempty
    rw [hg] at hc
    cases hc
    exact isWordChar_of_isBlank (j.gap_blank c (hg ▸ List.mem_cons_self))
  have htrim : Text.trimStart (j.gap ++ j.target.spelled dotted) = j.target.spelled dotted :=
    Text.trimStart_append j.gap_blank fun c hc => j.target.not_isBlank_of_mem_spelled dotted (List.mem_of_head? hc)
  have hstarts : startsBlock (j.target.spelled dotted) = true := by
    have h := j.target.startsBlock_spelled dotted []
    rwa [List.append_nil] at h
  have hjump : Jump.ofLine? ((jump j).render dotted) =
      some { indent := j.indent, mnemonic := 'j' :: j.letters, target := j.target.spelled dotted } := by
    simp only [Jump.ofLine?, trimStart_jump, Text.takeWhile_append hword hgap, Text.dropWhile_append hword hgap, htrim,
      hstarts, ↓reduceIte, hindent, Text.firstLine_eq_self (j.target.not_mem_spelled dotted (c := '\n') (by decide))]
  have hdrop : dropDot (j.target.spelled dotted) = j.target.text := by
    have h := j.target.dropDot_spelled dotted List.not_mem_nil
    rwa [List.append_nil, List.append_nil] at h
  rw [respellJump, hjump]
  simp only [Jump.render, Jump.instruction, Jump.label, hdrop, List.append_assoc, converted]
  rfl

theorem guardedLine_render : guardedLine (b.render dotted) = b.converted := by
  have hrenamed : renamedLine (b.render dotted) = b.converted := by
    cases b with
    | label name => rw [renamedLine, respellBlockLabel_label, respellJump_label, respellCall_converted]
    | jump j => rw [renamedLine, respellBlockLabel_jump, respellJump_jump, respellCall_converted]
  rw [guardedLine, hrenamed, b.disableForeign_converted]

/-- The output has none of the characters that the later changes look for. -/
theorem not_mem_converted {c : Char} (h : c.isLower ∨ c ∈ "#[".toList) : c ∉ b.converted := by
  have hname : ∀ name : BlockName, c ∉ name.text := fun name hm => by
    have hall : ∀ c ∈ BlockName.chars, c.isLower = false ∧ c ∉ "#[".toList := by decide
    obtain ⟨hlower, hmark⟩ := hall c (name.mem_chars hm)
    rw [hlower] at h
    exact h.elim (fun h => by cases h) hmark
  have hsafe : c.isUpper = false ∧ c.toNat < 0x80 ∧ isBlank c = false ∧ c ∉ ":J ".toList := by
    rcases h with h | h
    · have hall : ∀ c ∈ CharSet.chars [(0x61, 0x7A)],
          c.isUpper = false ∧ c.toNat < 0x80 ∧ isBlank c = false ∧ c ∉ ":J ".toList := by
        decide
      exact hall c (mem_chars_of_isLower h)
    · have hall : ∀ c ∈ "#[".toList, c.isUpper = false ∧ c.toNat < 0x80 ∧ isBlank c = false ∧ c ∉ ":J ".toList := by
        decide
      exact hall c h
  obtain ⟨hupper, hascii, hblank, hmarks⟩ := hsafe
  cases b with
  | label name =>
      rw [converted, List.mem_append, not_or]
      exact ⟨hname name, fun hm => hmarks (List.mem_singleton.mp hm ▸ by decide)⟩
  | jump j =>
      rw [converted, List.mem_append, List.mem_cons, List.mem_append, List.mem_cons]
      rintro (hm | rfl | hm | rfl | hm)
      · rw [j.indent_blank c hm] at hblank
        cases hblank
      · exact hmarks (by decide)
      · exact Text.not_mem_toUpper (fun d hd => (j.letters_small d hd).1) hupper hascii hm
      · exact hmarks (by decide)
      · exact hname j.target hm

theorem adjustOperands_converted : adjustOperands b.converted = b.converted := by
  have hall : ∀ mark ∈ spellingMarks, mark.any fun c => c.isLower || "#[".toList.contains c := by decide
  refine adjustOperands_eq_self fun mark hm hi => ?_
  obtain ⟨c, hc, h⟩ := List.any_eq_true.mp (hall mark hm)
  rw [Bool.or_eq_true, List.contains_iff_mem] at h
  exact b.not_mem_converted h (hi.subset hc)

theorem not_align_infix_render : ¬ alignDirective <:+: b.render dotted := by
  have hname : ∀ name : BlockName, ¬ alignDirective <:+: name.spelled dotted := fun name h =>
    name.not_mem_spelled dotted (c := 'a') (by decide) (h.subset (by decide))
  cases b with
  | label name => exact Text.not_infix_append (hname name) (by decide) (.inr (by decide))
  | jump j =>
      have hfront : '.' ∉ j.indent ++ ('j' :: j.letters ++ j.gap) := by
        rw [List.mem_append, List.mem_append, List.mem_cons]
        rintro (h | (h | h) | h)
        · exact absurd (j.indent_blank _ h) (by decide)
        · exact absurd h (by decide)
        · exact absurd (j.letters_small _ h).1 (by decide)
        · exact absurd (j.gap_blank _ h) (by decide)
      have hrender : (jump j).render dotted = j.indent ++ ('j' :: j.letters ++ j.gap) ++ j.target.spelled dotted := by
        simp only [render, List.append_assoc]
      rw [hrender]
      exact fun h => hname j.target (Text.infix_of_infix_append_left hfront h)

theorem render_ne_nil : b.render dotted ≠ [] := by
  cases b with
  | label name => exact List.append_ne_nil_of_right_ne_nil _ (by simp)
  | jump j => exact List.append_ne_nil_of_right_ne_nil _ (by simp)

/-- A line with a block is converted in the same way whichever way it is spelled. -/
theorem Spells.convertLine {b : BlockLine} {line : Text} (h : b.Spells line) (table : Table) (layout : Layout) :
    convertLine table layout line = .ok (some b.converted) := by
  obtain ⟨dotted, hs⟩ := h
  have hcode : isCommentOnly line = false := by
    rw [isCommentOnly, hs, List.isEmpty_eq_false_iff.mpr (b.render_ne_nil dotted), Bool.and_false]
  have hbracket : '[' ∉ b.converted := b.not_mem_converted (.inr (by decide))
  rw [AsmBridge.convertLine, hcode, hs, Text.includes_eq_false_iff.mpr (b.not_align_infix_render dotted),
    respell_eq_adjustOperands, b.guardedLine_render, b.adjustOperands_converted, resolveOperands_eq_self table layout hbracket]
  rfl

/-! ## Lines inside a function -/

/-- A line that holds code of neither the entry nor the exit sequence. -/
structure IsInner (line : Text) : Prop where
  code : holdsCode line = true
  entry : EntryForm.ofLine? line = none
  exit : isExitForm line = false
  ret : isReturn line = false
  upper : clearsUpper line = false

theorem opensLocalLabel_label (name : BlockName) : opensLocalLabel (name.spelled dotted ++ [':']) = true := by
  have hsymbol : ∀ c ∈ "BB".toList ++ (name.function ++ '_' :: name.block), isSymbolChar c := by
    have hall : ∀ c ∈ BlockName.chars, isSymbolChar c := by decide
    exact fun c hc => hall c (name.mem_chars (List.mem_cons_of_mem 'L' hc))
  have hdrop : (leadingSymbol ("BB".toList ++ (name.function ++ '_' :: name.block) ++ [':'])).2 = [':'] :=
    Text.dropWhile_append hsymbol (by decide)
  have hopens : opensLocalLabel (name.spelled dotted ++ [':']) =
      ((leadingSymbol ("BB".toList ++ (name.function ++ '_' :: name.block) ++ [':'])).2.head? == some ':') := by
    cases dotted <;> rfl
  rw [hopens, hdrop]
  rfl

theorem isDirective_render : isDirective (b.render dotted) = false := by
  cases b with
  | label name =>
      have htrim : ((label name).render dotted).trim = name.spelled dotted ++ [':'] := by
        refine Text.IsTrimmed.trim_eq ⟨fun c hc => ?_, fun c hc => ?_⟩
        · have hhead : ∀ c ∈ (name.spelled dotted ++ [':']).head?, c = '.' ∨ c = 'L' := by
            cases dotted
            · exact fun c hc => by cases hc; exact .inr rfl
            · exact fun c hc => by cases hc; exact .inl rfl
          rcases hhead c hc with rfl | rfl <;> decide
        · rw [render, List.getLast?_concat] at hc
          cases hc
          decide
      rw [isDirective, htrim, opensLocalLabel_label]
      exact Bool.and_false _
  | jump j =>
      rw [isDirective, Text.head?_trim, trimStart_jump]
      rfl

theorem exists_unwords {fields : List Text} {word : Text} (h : fields.head? = some word) :
    ∃ rest, unwords fields = word ++ rest := by
  cases fields with
  | nil => cases h
  | cons first fields =>
      cases h
      cases fields with
      | nil => exact ⟨[], rfl⟩
      | cons second fields =>
          exact ⟨" ".toList ++ unwords (second :: fields), by
            rw [unwords, List.intercalate_cons_cons, List.append_assoc]
            rfl⟩

theorem spaceCommas_eq_self {t : Text} (h : ',' ∉ t) : spaceCommas t = t := by
  induction t with
  | nil => rfl
  | cons c t ih =>
      have hc : (c == ',') = false := beq_eq_false_iff_ne.mpr (List.ne_of_not_mem_cons h).symm
      rw [spaceCommas, List.flatMap_cons, hc]
      exact congrArg (List.cons c) (ih (List.not_mem_of_not_mem_cons h))

theorem comma_not_mem_render : ',' ∉ b.render dotted := by
  cases b with
  | label name =>
      rw [render, List.mem_append, not_or]
      exact ⟨name.not_mem_spelled dotted (by decide), by decide⟩
  | jump j =>
      rw [render, List.mem_append, List.mem_append, List.mem_append, List.mem_cons]
      rintro (h | (h | h) | h | h)
      · exact absurd (j.indent_blank _ h) (by decide)
      · exact absurd h (by decide)
      · exact absurd (j.letters_small _ h).1 (by decide)
      · exact absurd (j.gap_blank _ h) (by decide)
      · exact j.target.not_mem_spelled dotted (by decide) h

/-- The first word of a line with a block. -/
def word (dotted : Bool) : BlockLine → Text
  | label name => name.spelled dotted ++ [':']
  | jump j => 'j' :: j.letters

theorem head?_fields_render : (Text.fields (b.render dotted)).head? = some (b.word dotted) := by
  cases b with
  | label name =>
      have hword : ∀ c ∈ name.spelled dotted ++ [':'], isBlank c = false := by
        intro c hc
        rcases List.mem_append.mp hc with hc | hc
        · exact name.not_isBlank_of_mem_spelled dotted hc
        · exact List.mem_singleton.mp hc ▸ by decide
      rw [render, Text.fields_word hword (by simp)]
      rfl
  | jump j =>
      have hword : ∀ c ∈ 'j' :: j.letters, isBlank c = false := by
        intro c hc
        rcases List.mem_cons.mp hc with rfl | hc
        · decide
        · exact not_isBlank_of_isWordChar (j.letters_small c hc).2
      refine Text.head?_fields j.indent_blank hword (List.cons_ne_nil _ _) fun c hc => ?_
      obtain ⟨d, gap, hg⟩ := List.exists_cons_of_ne_nil j.gap_nonempty
      rw [hg] at hc
      cases hc
      exact j.gap_blank c (hg ▸ List.mem_cons_self)

theorem holdsCode_of_spells {line : Text} (h : b.Spells line) : holdsCode line = true := by
  obtain ⟨dotted, hs⟩ := h
  have htrim : (b.render dotted).trim ≠ [] := fun he => by
    have hword : (b.render dotted).firstWord = [] := by
      rw [← Text.firstWord_trim, he]
      rfl
    have hfields := (b.render dotted).head?_fields_eq
    rw [b.head?_fields_render, if_pos hword] at hfields
    cases hfields
  rw [holdsCode, hs, b.isDirective_render dotted, List.isEmpty_eq_false_iff.mpr htrim]
  rfl

/-- How the normal form of a line with a block starts. -/
theorem exists_normalize {line : Text} (h : b.Spells line) :
    ∃ rest, normalize line = '.' :: rest ∨ normalize line = 'l' :: 'b' :: rest ∨ normalize line = 'j' :: rest := by
  obtain ⟨dotted, hs⟩ := h
  obtain ⟨rest, hrest⟩ := exists_unwords (b.head?_fields_render dotted)
  rw [normalize, hs, spaceCommas_eq_self (b.comma_not_mem_render dotted), hrest]
  cases b with
  | jump j => exact ⟨_, .inr (.inr rfl)⟩
  | label name =>
      cases dotted with
      | true => exact ⟨_, .inl rfl⟩
      | false => exact ⟨_, .inr (.inl rfl)⟩

/-- A line with a block belongs to neither sequence. -/
theorem Spells.isInner {b : BlockLine} {line : Text} (h : b.Spells line) : IsInner line := by
  have hcode := b.holdsCode_of_spells h
  obtain ⟨rest, hn | hn | hn⟩ := b.exists_normalize h
  all_goals
    refine ⟨hcode, ?_, ?_, ?_, ?_⟩
    · rw [EntryForm.ofLine?, hn]
      rfl
    · rw [isExitForm, hn]
      rfl
    · rw [isReturn, hn]
      rfl
    · rw [clearsUpper, hn]
      rfl

end BlockLine

end AsmBridge
