import AsmBridge.Proofs.Body.Lemmas.SameReading
import AsmBridge.Proofs.Line.Lemmas.Comment
import AsmBridge.Proofs.Listing.Digits
import AsmBridge.Proofs.Text.Blank

/-!
# Notes in a listing

White space, comments and directives tell the reader of a listing more than its instructions do. A function with more of
them has the same shape, and it is converted to the same lines.
-/

namespace AsmBridge

/-! ## Notes -/

/-- A line without code has white space, and nothing, a comment or a directive behind it. A dot may also start a label. -/
inductive IsIdle : Text → Prop
  | blank {line : Text} (hb : ∀ c ∈ line, isBlank c) : IsIdle line
  | comment {indent note : Text} (hi : ∀ c ∈ indent, isBlank c) (hn : IsComment note) : IsIdle (indent ++ note)
  | directive {indent text : Text} (hi : ∀ c ∈ indent, isBlank c) (hl : opensLocalLabel ('.' :: text) = false) :
      IsIdle (indent ++ '.' :: text)

/-- Whether lines are other lines with lines without code between them, and with comments behind some of them. -/
inductive Annotated : List Text → List Text → Prop
  | nil : Annotated [] []
  | keep (line : Text) {lines others : List Text} (h : Annotated lines others) : Annotated (line :: lines) (line :: others)
  | insert {line : Text} (hl : IsIdle line) {lines others : List Text} (h : Annotated lines others) :
      Annotated lines (line :: others)
  | remark {line note : Text} (hne : line ≠ []) (hmark : '#' ∉ line) (hend : ∀ c ∈ line.getLast?, isBlank c = false)
      (hn : IsComment note) {lines others : List Text} (h : Annotated lines others) :
      Annotated (line :: lines) ((line ++ ' ' :: note) :: others)

/-! ## Comments -/

theorem hash_not_mem_of_isBlank {t : Text} (h : ∀ c ∈ t, isBlank c) : '#' ∉ t := fun hm =>
  absurd (h '#' hm) (by decide)

/-! ## Lines without code -/

/-- A text that starts with a label is one that goes on behind it. -/
theorem opensLocalLabel_mono {t text : Text} (h : t <+: text) (hl : opensLocalLabel ('.' :: t) = true) :
    opensLocalLabel ('.' :: text) = true := by
  obtain ⟨rest, rfl⟩ := h
  rw [opensLocalLabel, withoutDot] at hl
  split at hl
  · rename_i r
    replace hl : (r.dropWhile isSymbolChar).head? = some ':' := eq_of_beq hl
    have hne : r.dropWhile isSymbolChar ≠ [] := fun hnil => by
      rw [hnil] at hl
      cases hl
    change ((r ++ rest).dropWhile isSymbolChar).head? == some ':'
    rw [Text.dropWhile_append_of_ne_nil hne, List.head?_append_of_ne_nil _ hne, hl]
    rfl
  · cases hl

theorem trim_directive {indent : Text} (hi : ∀ c ∈ indent, isBlank c) (text : Text) :
    ∃ t, t <+: text ∧ Text.trim (indent ++ '.' :: text) = '.' :: t := by
  obtain ⟨blanks, hb, he, -⟩ := Text.exists_trimEnd ('.' :: text)
  rw [Text.trim, Text.trimStart_append hi (by simp; decide)]
  cases ht : Text.trimEnd ('.' :: text) with
  | nil =>
      rw [ht, List.nil_append] at he
      exact absurd (hb '.' (he ▸ List.mem_cons_self)) (by decide)
  | cons c t =>
      rw [ht, List.cons_append] at he
      obtain ⟨rfl, rfl⟩ := List.cons.inj he
      exact ⟨t, ⟨blanks, rfl⟩, rfl⟩

theorem holdsCode_of_isIdle {line : Text} (h : IsIdle line) : holdsCode line = false := by
  have hempty {t : Text} (h : Text.trim t = []) : (!(Text.trim t).isEmpty && !isDirective t) = false := by
    rw [h]
    rfl
  rw [holdsCode]
  cases h with
  | blank hb =>
      rw [stripComment_eq_self (hash_not_mem_of_isBlank hb)]
      refine hempty ?_
      have htrim := Text.trim_append (t := []) hb isBlank_of_mem_nil ⟨by simp, by simp⟩
      rwa [List.append_nil, List.append_nil] at htrim
  | comment hi hn =>
      rw [hn.stripComment_append hi]
      exact hempty rfl
  | directive hi hl =>
      rename_i indent text
      have hstrip : stripComment (indent ++ '.' :: text) = indent ++ '.' :: stripComment text := by
        have hmark : '#' ∉ indent ++ ['.'] := by
          rw [List.mem_append, not_or]
          exact ⟨hash_not_mem_of_isBlank hi, by decide⟩
        rw [List.append_cons, stripComment_append hmark (by simp; decide), ← List.append_cons]
      obtain ⟨t, hp, htrim⟩ := trim_directive hi (stripComment text)
      have hlabel : opensLocalLabel ('.' :: t) = false := by
        rw [← Bool.not_eq_true] at hl ⊢
        exact fun ht => hl (opensLocalLabel_mono (hp.trans (stripComment_prefix_self text)) ht)
      rw [hstrip, isDirective, htrim, hlabel]
      rfl

/-! ## Lines with code -/

theorem SameReading.of_stripComment {line other : Text} (h : stripComment line = stripComment other)
    (ho : isCommentOnly line = isCommentOnly other) : SameReading line other where
  code := by rw [holdsCode, holdsCode, h]
  entry := by rw [EntryForm.ofLine?, EntryForm.ofLine?, normalize, normalize, h]
  exit := by rw [isExitForm, isExitForm, normalize, normalize, h]
  ret := by rw [isReturn, isReturn, normalize, normalize, h]
  upper := by rw [clearsUpper, clearsUpper, normalize, normalize, h]
  converted table layout := by rw [convertLine, convertLine, h, ho]

/-- A line is read as without the comment behind it. -/
theorem IsComment.sameReading {note : Text} (hn : IsComment note) {line : Text} (hne : line ≠ []) (hmark : '#' ∉ line)
    (hend : ∀ c ∈ line.getLast?, isBlank c = false) : SameReading line (line ++ ' ' :: note) := by
  have hblank : ∀ c ∈ [' '], isBlank c := by decide
  have hnote : stripComment (' ' :: note) = [] := hn.stripComment_append hblank
  have hstrip : stripComment (line ++ ' ' :: note) = stripComment line := by
    rw [AsmBridge.stripComment_append hmark hend, hnote, List.append_nil, stripComment_eq_self hmark]
  refine .of_stripComment hstrip.symm ?_
  rw [isCommentOnly, isCommentOnly, hstrip, stripComment_eq_self hmark, List.isEmpty_eq_false_iff.mpr hne, Bool.and_false,
    Bool.and_false]

/-- Lines with notes hold the same code, line by line. -/
theorem Annotated.bodyLines {lines others : List Text} (h : Annotated lines others) :
    List.Forall₂ SameReading (bodyLines lines) (bodyLines others) := by
  unfold AsmBridge.bodyLines
  induction h with
  | nil => exact .nil
  | keep line h ih =>
      rw [List.filter_cons, List.filter_cons]
      split
      · exact .cons (.refl line) ih
      · exact ih
  | insert hl h ih => rwa [List.filter_cons_of_neg (by rw [holdsCode_of_isIdle hl]; decide)]
  | remark hne hmark hend hn h ih =>
      have hr := hn.sameReading hne hmark hend
      rw [List.filter_cons, List.filter_cons, hr.code]
      split
      · exact .cons hr ih
      · exact ih

/-! ## Functions -/

/-- Notes make no difference to a function: with them or without, it is wrong in the same way, or it has the same sequences
around bodies of one length that are converted alike. What can be wrong is that it does not return once, or that a number
of its entry sequence is too long. -/
theorem Shape.ofFunction_annotated {f g : Function} (hname : f.name = g.name) (h : Annotated f.lines g.lines) :
    (∃ fault, ofFunction f = .error fault ∧ ofFunction g = .error fault ∧
      (fault.kind = .listing ∨
        ∃ line ∈ f.lines, ∃ form, EntryForm.ofLine? line = some form ∧ Decimal.digitLimit < form.number.longestRun)) ∨
      ∃ shape other, ofFunction f = .ok shape ∧ ofFunction g = .ok other ∧ shape.epilogue = other.epilogue ∧
        shape.offsetToFirst = other.offsetToFirst ∧ shape.body.length = other.body.length ∧
        ∀ name (count : Int) args table,
          convertSubroutine shape.body name shape.epilogue count.toNat args table =
            convertSubroutine other.body name other.epilogue count.toNat args table := by
  have hlines := h.bodyLines
  cases hs : ofFunction f with
  | error fault =>
      refine .inl ⟨fault, rfl, ?_, (fault_of_ofFunction hs).imp_right And.right⟩
      rw [ofFunction_congr hlines hname, hs]
      rfl
  | ok shape =>
      obtain ⟨other, ho, hbody, hepilogue, hoffset⟩ := exists_ofFunction hlines hs
      refine .inr ⟨shape, other, rfl, ho, hepilogue.symm, hoffset.symm, hbody.length_eq, fun name count args table => ?_⟩
      rw [hepilogue]
      exact convertSubroutine_congr hbody name shape.epilogue count.toNat args table

/-- A function that returns one, without notes. -/
def Function.one : Function where
  name := "one".toList
  lineNumber := 1
  lines := ["\tpush\trbp".toList, "\tmov\trbp, rsp".toList, "\tmov\teax, 1".toList, "\tpop\trbp".toList, "\tret".toList]

/-- The function with notes, which tell of another return and of another exit sequence. -/
def Function.oneNoted : Function where
  name := "one".toList
  lineNumber := 1
  lines := ["\t".toList ++ '.' :: "cfi_startproc".toList, "\tpush\trbp".toList,
    "\tmov\trbp, rsp".toList ++ ' ' :: '#' :: ' ' :: "and rsp, -32".toList, "  ".toList,
    "\tmov\teax, 1".toList, "  ".toList ++ '#' :: '#' :: ' ' :: "ret".toList, "\tpop\trbp".toList,
    "\tret".toList ++ ' ' :: '#' :: '#' :: ' ' :: "vzeroupper".toList]

/-- Both have the same shape and are converted alike. -/
theorem Shape.ofFunction_annotated_one :
    Function.one.name = Function.oneNoted.name ∧ Annotated Function.one.lines Function.oneNoted.lines ∧
      ∃ shape other, ofFunction .one = .ok shape ∧ ofFunction .oneNoted = .ok other ∧ shape.epilogue = other.epilogue ∧
        shape.offsetToFirst = other.offsetToFirst ∧ shape.body.length = other.body.length ∧
        ∀ name (count : Int) args table,
          convertSubroutine shape.body name shape.epilogue count.toNat args table =
            convertSubroutine other.body name other.epilogue count.toNat args table := by
  have hspace : isBlank ' ' := by decide
  have hlines : Annotated Function.one.lines Function.oneNoted.lines :=
    .insert (.directive isBlank_of_mem_tab (by decide)) <| .keep _ <|
      .remark (by decide) (by decide) (by decide) (.single hspace (by decide)) <| .insert (.blank (by decide)) <| .keep _ <|
      .insert (.comment (by decide) (.double hspace (by decide))) <| .keep _ <|
      .remark (by decide) (by decide) (by decide) (.double hspace (by decide)) .nil
  have hok : (ofFunction .one).isOk = true := by decide +kernel
  refine ⟨rfl, hlines, (ofFunction_annotated (f := .one) (g := .oneNoted) rfl hlines).resolve_left ?_⟩
  rintro ⟨fault, hfault, -⟩
  rw [hfault] at hok
  cases hok

end AsmBridge
