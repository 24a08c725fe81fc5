import AsmBridge.Pool.Basic
import AsmBridge.Proofs.Text.Blank

/-!
# Lines with directives

A directive that is written with its operands is read back with the same operands.
-/

namespace AsmBridge

/-! ## Pieces -/

theorem foldr_pushFirst (t piece : Text) (pieces : List Text) :
    t.foldr pushFirst (piece :: pieces) = (t ++ piece) :: pieces := by
  induction t with
  | nil => rfl
  | cons c t ih => rw [List.foldr_cons, ih, pushFirst, List.cons_append]

theorem exists_pushFirst (c : Char) (pieces : List Text) : ∃ piece rest, pushFirst c pieces = piece :: rest := by
  cases pieces with
  | nil => exact ⟨_, _, rfl⟩
  | cons piece pieces => exact ⟨_, _, rfl⟩

theorem exists_piecesFrom_none (t : Text) : ∃ piece pieces, piecesFrom none t = piece :: pieces := by
  cases t with
  | nil => exact ⟨_, _, rfl⟩
  | cons c t =>
      rw [piecesFrom]
      split
      · exact exists_pushFirst c _
      · split
        · exact ⟨_, _, rfl⟩
        · split
          · exact ⟨_, _, rfl⟩
          · exact exists_pushFirst c _

theorem opensRemark_eq_false {c : Char} (h : c ≠ '#') (t : Text) : opensRemark (c :: t) = false := by
  unfold opensRemark
  split
  · rename_i he
    cases he
    exact absurd rfl h
  · rename_i he
    cases he
    exact absurd rfl h
  · rfl

/-- A character that belongs to the operand it stands in, outside quotes. -/
def isPlain (c : Char) : Bool :=
  !isQuote c && c != ',' && c != '#'

theorem piecesFrom_cons {c : Char} (h : isPlain c) (t : Text) : piecesFrom none (c :: t) = pushFirst c (piecesFrom none t) := by
  simp only [isPlain, Bool.and_eq_true, Bool.not_eq_true', bne_iff_ne, ne_eq] at h
  obtain ⟨⟨hq, hc⟩, hr⟩ := h
  rw [piecesFrom, opensRemark_eq_false hr]
  simp [hq, hc]

theorem isPlain_of_isBlank {c : Char} (h : isBlank c) : isPlain c := by
  have hall : ∀ c ∈ CharSet.blank.chars, isPlain c = true := by decide
  exact hall c (CharSet.mem_chars_of_has h)

theorem piecesFrom_append {t : Text} (h : ∀ c ∈ t, isPlain c) (rest : Text) :
    piecesFrom none (t ++ rest) = t.foldr pushFirst (piecesFrom none rest) := by
  induction t with
  | nil => rfl
  | cons c t ih =>
      rw [List.cons_append, piecesFrom_cons (h c List.mem_cons_self), ih fun d hd => h d (List.mem_cons_of_mem c hd),
        List.foldr_cons]

theorem foldr_pushFirst_append (t : Text) {blanks : Text} (hb : ∀ c ∈ blanks, isBlank c) (rest : Text) :
    t.foldr pushFirst (piecesFrom none (blanks ++ ',' :: rest)) = (t ++ blanks) :: piecesFrom none rest := by
  have hcomma : piecesFrom none (',' :: rest) = [] :: piecesFrom none rest := rfl
  rw [piecesFrom_append fun c hc => isPlain_of_isBlank (hb c hc), hcomma, foldr_pushFirst, foldr_pushFirst, List.append_nil]

/-! ## Literals -/

/-- What may stand between two quotes: a quote of that kind or a backslash only with a backslash in front of it. -/
inductive IsLiteralBody (q : Char) : Text → Prop
  | nil : IsLiteralBody q []
  | plain {c : Char} {body : Text} (quote : c ≠ q) (escape : c ≠ '\\') (h : IsLiteralBody q body) : IsLiteralBody q (c :: body)
  | escaped (c : Char) {body : Text} (h : IsLiteralBody q body) : IsLiteralBody q ('\\' :: c :: body)

section

variable {q : Char} (hq : isQuote q)
include hq

theorem ne_of_isQuote : q ≠ '\\' ∧ isBlank q = false := by
  rw [isQuote, Bool.or_eq_true, beq_iff_eq, beq_iff_eq] at hq
  obtain rfl | rfl := hq <;> decide

theorem IsLiteralBody.piecesFrom_append {body : Text} (h : IsLiteralBody q body) (rest : Text) :
    piecesFrom (some q) (body ++ q :: rest) = (body ++ [q]).foldr pushFirst (piecesFrom none rest) := by
  have hescape := (ne_of_isQuote hq).1
  induction h with
  | nil =>
      rw [List.nil_append, piecesFrom.eq_def]
      simp [hescape]
  | plain quote escape h ih =>
      rw [List.cons_append, piecesFrom.eq_def]
      simp only [beq_iff_eq, quote, escape, ↓reduceIte]
      rw [ih]
      rfl
  | escaped c h ih =>
      have hc (r : Text) : piecesFrom (some q) ('\\' :: c :: r) = pushFirst '\\' (pushFirst c (piecesFrom (some q) r)) := rfl
      rw [List.cons_append, List.cons_append, hc, ih]
      rfl

end

/-! ## Operands -/

/-- A text that is read as one operand. -/
structure IsPiece (t : Text) : Prop where
  pieces : ∀ rest, piecesFrom none (t ++ rest) = t.foldr pushFirst (piecesFrom none rest)
  trimmed : t.IsTrimmed
  nonempty : t ≠ []

/-- A literal is read as one operand, whatever stands between its quotes. -/
theorem IsLiteralBody.isPiece {q : Char} {body : Text} (h : IsLiteralBody q body) (hq : isQuote q) :
    IsPiece (q :: (body ++ [q])) where
  pieces rest := by
    have hopen (r : Text) : piecesFrom none (q :: r) = pushFirst q (piecesFrom (some q) r) := by
      rw [piecesFrom]
      simp only [hq, ↓reduceIte]
    rw [List.cons_append, hopen, List.append_assoc, List.singleton_append, h.piecesFrom_append hq, List.foldr_cons]
  trimmed := by
    have hblank := (ne_of_isQuote hq).2
    rw [← List.cons_append, Text.IsTrimmed, List.getLast?_concat]
    simpa using hblank
  nonempty := List.cons_ne_nil _ _

/-- An operand on one line. -/
structure IsOperand (t : Text) : Prop where
  pieces : ∀ rest, piecesFrom none (t ++ rest) = t.foldr pushFirst (piecesFrom none rest)
  trimmed : t.IsTrimmed
  nonempty : t ≠ []
  oneLine : '\n' ∉ t

theorem IsOperand.isPiece {t : Text} (h : IsOperand t) : IsPiece t :=
  ⟨h.pieces, h.trimmed, h.nonempty⟩

/-- Whether no more operands come. -/
def EndsOperands (t : Text) : Prop :=
  ∃ blanks, (∀ c ∈ blanks, isBlank c) ∧ piecesFrom none t = [blanks]

theorem endsOperands_append {blanks remark : Text} (hb : ∀ c ∈ blanks, isBlank c) (ho : remark = [] ∨ opensRemark remark) :
    EndsOperands (blanks ++ remark) := by
  have hremark : piecesFrom none remark = [[]] := by
    cases remark with
    | nil => rfl
    | cons c r =>
        have ho := ho.resolve_left (List.cons_ne_nil c r)
        obtain rfl : c = '#' := by
          by_contra hc
          rw [opensRemark_eq_false hc] at ho
          cases ho
        rw [piecesFrom, ho]
        rfl
  refine ⟨blanks, hb, ?_⟩
  rw [piecesFrom_append fun c hc => isPlain_of_isBlank (hb c hc), hremark, foldr_pushFirst, List.append_nil]

/-- What may stand behind the operands: white space, and a comment or none. -/
inductive IsTail : Text → Prop
  | mk {blanks remark : Text} (blank : ∀ c ∈ blanks, isBlank c) (opens : remark = [] ∨ opensRemark remark)
      (oneLine : '\n' ∉ blanks ++ remark) : IsTail (blanks ++ remark)

theorem isTail_nil : IsTail [] := by
  change IsTail ([] ++ [])
  exact .mk (List.forall_mem_nil _) (.inl rfl) List.not_mem_nil

theorem IsTail.oneLine {t : Text} (h : IsTail t) : '\n' ∉ t := by
  cases h
  assumption

theorem IsTail.endsOperands {t : Text} (h : IsTail t) : EndsOperands t := by
  cases h with
  | mk blank opens oneLine => exact endsOperands_append blank opens

theorem trim_append_blanks {t blanks : Text} (ht : t.IsTrimmed) (hb : ∀ c ∈ blanks, isBlank c) : Text.trim (t ++ blanks) = t := by
  have htrim := Text.trim_append (List.forall_mem_nil _) hb ht
  rwa [List.nil_append] at htrim

theorem splitOperands_of_endsOperands {t : Text} (h : EndsOperands t) : splitOperands t = [] := by
  obtain ⟨blanks, hb, hp⟩ := h
  have ht : Text.trim blanks = [] := trim_append_blanks (t := []) (by simp [Text.IsTrimmed]) hb
  rw [splitOperands, hp, List.map_singleton, ht]
  rfl

theorem splitOperands_cons {c : Char} (h : isBlank c) (t : Text) : splitOperands (c :: t) = splitOperands t := by
  obtain ⟨piece, pieces, hp⟩ := exists_piecesFrom_none t
  have ht : Text.trim (c :: piece) = Text.trim piece := by
    rw [Text.trim, Text.trimStart, List.dropWhile_cons, if_pos h]
    rfl
  rw [splitOperands, splitOperands, piecesFrom_cons (isPlain_of_isBlank h), hp, pushFirst, List.map_cons, List.map_cons, ht]

theorem splitOperands_append {blanks : Text} (hb : ∀ c ∈ blanks, isBlank c) (t : Text) :
    splitOperands (blanks ++ t) = splitOperands t := by
  induction blanks with
  | nil => rfl
  | cons c blanks ih =>
      obtain ⟨hc, hrest⟩ := List.forall_mem_cons.mp hb
      rw [List.cons_append, splitOperands_cons hc, ih hrest]

theorem splitOperands_trimStart (t : Text) : splitOperands t.trimStart = splitOperands t := by
  have hblank : ∀ c ∈ t.indent, isBlank c := fun c hc => List.all_eq_true.mp List.all_takeWhile c hc
  have h := splitOperands_append hblank t.trimStart
  rwa [t.indent_append_trimStart, eq_comm] at h

namespace IsPiece

variable {t : Text} (ht : IsPiece t)
include ht

theorem splitOperands_end {tail : Text} (h : EndsOperands tail) : splitOperands (t ++ tail) = [t] := by
  obtain ⟨blanks, hb, hp⟩ := h
  have hne : t.isEmpty = false := by simpa using ht.nonempty
  rw [splitOperands, ht.pieces, hp, foldr_pushFirst, List.map_singleton, trim_append_blanks ht.trimmed hb, List.filter_singleton,
    hne]
  rfl

theorem splitOperands_comma {blanks : Text} (hb : ∀ c ∈ blanks, isBlank c) (rest : Text) :
    splitOperands (t ++ (blanks ++ ',' :: rest)) = t :: splitOperands rest := by
  rw [splitOperands, ht.pieces, foldr_pushFirst_append t hb, List.map_cons, trim_append_blanks ht.trimmed hb, List.filter_cons]
  simp [ht.nonempty, splitOperands]

end IsPiece

/-- A text that has operands with a comma between each two, and with white space around the commas. -/
inductive JoinsOperands : List Text → Text → Prop
  | nil : JoinsOperands [] []
  | single (t : Text) : JoinsOperands [t] t
  | cons (t : Text) {before behind : Text} (hbefore : ∀ c ∈ before, isBlank c) (hbehind : ∀ c ∈ behind, isBlank c)
      {next : Text} {operands : List Text} {text : Text} (h : JoinsOperands (next :: operands) text) :
      JoinsOperands (t :: next :: operands) (t ++ (before ++ ',' :: (behind ++ text)))

/-- Operands that are written with commas between them are read back. -/
theorem JoinsOperands.splitOperands_append {operands : List Text} {text : Text} (h : JoinsOperands operands text)
    (ho : ∀ t ∈ operands, IsPiece t) {tail : Text} (ht : EndsOperands tail) : splitOperands (text ++ tail) = operands := by
  induction h with
  | nil => exact splitOperands_of_endsOperands ht
  | single t => exact (ho t List.mem_cons_self).splitOperands_end ht
  | @cons t before behind hbefore hbehind next operands text h ih =>
      obtain ⟨hfirst, hrest⟩ := List.forall_mem_cons.mp ho
      have hassoc : t ++ (before ++ ',' :: (behind ++ text)) ++ tail = t ++ (before ++ ',' :: (behind ++ (text ++ tail))) := by
        simp only [List.append_assoc, List.cons_append]
      rw [hassoc, hfirst.splitOperands_comma hbefore, AsmBridge.splitOperands_append hbehind, ih hrest]

theorem joinsOperands_intercalate (operands : List Text) : JoinsOperands operands (List.intercalate ", ".toList operands) := by
  induction operands with
  | nil => exact .nil
  | cons t operands ih =>
      cases operands with
      | nil =>
          rw [List.intercalate_singleton]
          exact .single t
      | cons next operands =>
          have hcons : List.intercalate ", ".toList (t :: next :: operands) =
              t ++ ([] ++ ',' :: ([' '] ++ List.intercalate ", ".toList (next :: operands))) := by
            rw [List.intercalate_cons_cons, List.append_assoc]
            rfl
          rw [hcons]
          exact .cons t (List.forall_mem_nil _) (by decide) ih

theorem Text.not_mem_intercalate {c : Char} {mark : Text} (hm : c ∉ mark) {parts : List Text} (h : ∀ t ∈ parts, c ∉ t) :
    c ∉ List.intercalate mark parts := by
  induction parts with
  | nil => exact List.not_mem_nil
  | cons t parts ih =>
      obtain ⟨ht, hrest⟩ := List.forall_mem_cons.mp h
      cases parts with
      | nil => rwa [List.intercalate_singleton]
      | cons t' parts =>
          rw [List.intercalate_cons_cons, List.mem_append, List.mem_append, not_or, not_or]
          exact ⟨⟨ht, hm⟩, ih hrest⟩

/-! ## Lines -/

/-- What becomes of a fault of the line with a number. -/
def Pool.settle (number : Nat) : Pool × Option Fault → Pool × Option Fault
  | (p, none) => (p, none)
  | (p, some f) => if f.isValue then (p.warn number f, none) else (p, some f)

/-- A line with a directive. -/
def directiveLine (name : Text) (operands : List Text) (tail : Text) : Text :=
  "\t.".toList ++ (name ++ ("\t".toList ++ (List.intercalate ", ".toList operands ++ tail)))

section

variable {name rest : Text} (hw : ∀ c ∈ name, isWordChar c) (hr : ∀ c ∈ rest.head?, isBlank c)
include hw hr

/-- A directive is no label. -/
theorem Pool.label?_directive : label? ("\t.".toList ++ (name ++ rest)) = none := by
  have hs : ∀ c ∈ '.' :: name, isSymbolChar c := List.forall_mem_cons.mpr ⟨by decide, fun c hc => by simp [isSymbolChar, hw c hc]⟩
  have ht : ∀ c ∈ rest.head?, isSymbolChar c = false := fun c hc => (isSymbolChar_of_isBlank (hr c hc)).1
  have htrim : Text.trimStart ("\t.".toList ++ (name ++ rest)) = '.' :: name ++ rest := rfl
  rw [label?, htrim, leadingSymbol, Text.takeWhile_append hs ht, Text.dropWhile_append hs ht]
  cases rest with
  | nil => rfl
  | cons c rest =>
      have hc := (isSymbolChar_of_isBlank (hr c rfl)).2
      split
      · rename_i he
        cases he
        exact absurd rfl hc
      · rfl

theorem directive?_directive (hn : name ≠ []) (hl : '\n' ∉ rest) :
    directive? ("\t.".toList ++ (name ++ rest)) = some (name, rest.trimStart) := by
  have ht : ∀ c ∈ rest.head?, isWordChar c = false := fun c hc => isWordChar_of_isBlank (hr c hc)
  have hl' : '\n' ∉ rest.trimStart := fun h => hl ((List.dropWhile_suffix _).subset h)
  have htrim : Text.trimStart ("\t.".toList ++ (name ++ rest)) = '.' :: (name ++ rest) := rfl
  simp only [directive?, htrim, Text.takeWhile_append hw ht, Text.dropWhile_append hw ht, Text.isOneLine_of_not_mem hl',
    Text.firstLine_eq_self hl', Bool.and_true]
  rw [if_pos]
  simpa using hn

theorem Pool.readLine_directive (hn : name ≠ []) (hl : '\n' ∉ rest) (p : Pool) (number : Nat) :
    p.readLine number ("\t.".toList ++ (name ++ rest)) = settle number (p.feed name.toLower (splitOperands rest)) := by
  rw [readLine, label?_directive hw hr]
  simp only [directive?_directive hw hr hn hl, splitOperands_trimStart]
  rfl

end

/-! ## Directives for data -/

/-- The names of the directives that add to the data. -/
def dataDirectives : List Text :=
  numberDirectives.map (·.1) ++ stringDirectives.map (·.1) ++ alignmentDirectives.map (·.1) ++ spaceDirectives

namespace Pool

variable {name : Text} (h : name ∈ dataDirectives)
include h

theorem feed_data (p : Pool) (operands : List Text) :
    p.feed name operands =
      if p.inConstants then
        let image := Image.ofDirective name operands p.data.length
        (p.add image, image.fault)
      else (p, none) := by
  have hall : ∀ name ∈ dataDirectives, name ≠ "section".toList ∧ otherSections.contains name = false ∧
      constantSections.contains name = false ∧ ignoredDirectives.contains name = false := by
    decide
  obtain ⟨hs, ho, hc, hi⟩ := hall name h
  have he : entersConstants? name operands = none := by
    simp only [entersConstants?, beq_iff_eq, hs, ho, hc, Bool.false_eq_true, ↓reduceIte]
  rw [feed, he, hi]
  cases p.inConstants <;> rfl

/-- A directive for data adds its image in a section with constants, and nothing elsewhere. -/
theorem readLine_directiveLine {operands : List Text} (ho : ∀ t ∈ operands, IsOperand t) {tail : Text} (ht : IsTail tail)
    (p : Pool) (number : Nat) :
    p.readLine number (directiveLine name operands tail) =
      if p.inConstants then
        let image := Image.ofDirective name operands p.data.length
        settle number (p.add image, image.fault)
      else (p, none) := by
  have hall : ∀ name ∈ dataDirectives, name ≠ [] ∧ (∀ c ∈ name, isWordChar c) ∧ name.toLower = name := by decide
  obtain ⟨hn, hw, hlower⟩ := hall name h
  have htab : isBlank '\t' = true := by decide
  have hjoin : '\n' ∉ List.intercalate ", ".toList operands :=
    Text.not_mem_intercalate (by decide) fun t ht => (ho t ht).oneLine
  have hl : '\n' ∉ '\t' :: (List.intercalate ", ".toList operands ++ tail) := by
    rw [List.mem_cons, List.mem_append, not_or, not_or]
    exact ⟨by decide, hjoin, ht.oneLine⟩
  have hsplit : splitOperands (List.intercalate ", ".toList operands ++ tail) = operands :=
    (joinsOperands_intercalate operands).splitOperands_append (fun t ht => (ho t ht).isPiece) ht.endsOperands
  have hline : p.readLine number (directiveLine name operands tail) =
      settle number (p.feed name.toLower (splitOperands ('\t' :: (List.intercalate ", ".toList operands ++ tail)))) :=
    readLine_directive hw (by simpa using htab) hn hl p number
  rw [hline, hlower, splitOperands_cons htab, hsplit, feed_data h]
  cases p.inConstants <;> rfl

end Pool

end AsmBridge
