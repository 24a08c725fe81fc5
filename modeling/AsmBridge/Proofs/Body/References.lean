import AsmBridge.Proofs.Body.Constants

/-!
# References that are checked and references that are read

The labels of a function are chosen by the references of its lines as they are written, comments included. The
conversion looks up one symbol of a line, once the line is without its comment and respelled.
-/

namespace AsmBridge

/-- The symbol that stops a conversion because it has no constant. -/
def unresolved? {α : Type} : Except Fault α → Option Text
  | .error (.unresolved symbol) => some symbol
  | _ => none

/-- The symbol of the first operand that names a constant, outside the comment of a line. -/
def writtenSymbol? (line : Text) : Option Text :=
  (references (stripComment line)).head?

/-- The symbol that is looked up where a line is converted. -/
def readSymbol? (line : Text) : Option Text :=
  if isDropped line then none
  else ((respelledLine line).cut? ripOpening).map fun (_, tail) => Text.trim (tail.takeWhile (· != ']'))

/-- Whether what becomes of a line is the line with its constant at an offset from the base pointer, be it emitted or refused. -/
def ResolvesTo (table : Table) (layout : Layout) (line : Text) (offset : Int) : Prop :=
  isDropped line = false ∧ ∃ front tail, (respelledLine line).cut? ripOpening = some (front, tail) ∧
    convertLine table layout line = (Decimal.write offset >>= fun place =>
      refuseBelowFrame (front ++ rebased place "[rbp]".toList ripOpening tail)).map some

/-- Whether lines are checked for the references that their conversion needs: the first reference without a constant is the
same, and each line that is converted with the labels that are left has its constant where the whole table has it. -/
structure ReferencesAgree (table : Table) (lines : List Text) : Prop where
  unresolved : ∀ layout, unresolved? (restrictTable table lines) =
    lines.findSome? fun line => unresolved? (convertLine table layout line)
  resolved : ∀ used, restrictTable table lines = .ok used → used.isPresent = true → ∀ line ∈ lines, ∀ layout,
    unresolved? (convertLine used layout line) = none ∧ ∀ symbol, writtenSymbol? line = some symbol →
      ∃ label, table.lookup? symbol = some label ∧ ResolvesTo used layout line label.offset

/-! ## What is looked up -/

theorem unresolved?_bind {α β : Type} (x : Except Fault α) {f : α → Except Fault β} (h : ∀ a, unresolved? (f a) = none) :
    unresolved? (x >>= f) = unresolved? x := by
  cases x with
  | error fault => cases fault <;> rfl
  | ok a => exact h a

theorem unresolved?_map {α β : Type} (x : Except Fault α) (f : α → β) : unresolved? (x.map f) = unresolved? x := by
  cases x with
  | error fault => cases fault <;> rfl
  | ok a => rfl

theorem unresolved?_write (n : Int) : unresolved? (Decimal.write n) = none := by
  unfold Decimal.write
  split <;> rfl

theorem unresolved?_refuseBelowFrame (line : Text) : unresolved? (refuseBelowFrame line) = none := by
  unfold refuseBelowFrame
  split <;> rfl

theorem unresolved?_resolveArgument (layout : Layout) (line : Text) : unresolved? (resolveArgument layout line) = none := by
  unfold resolveArgument
  split
  · rename_i digits head tail _ _
    rw [unresolved?_bind _ fun offset => ?_]
    · unfold Decimal.read
      split <;> rfl
    · rw [unresolved?_bind _ fun place => rfl, unresolved?_write]
  · rfl

/-- What is refused is told in the fault, so that the line can be read off what becomes of it. -/
theorem eq_of_map_refuseBelowFrame {line other : Text}
    (h : (refuseBelowFrame line).map some = (refuseBelowFrame other).map some) : line = other := by
  unfold refuseBelowFrame at h
  split at h
  · split at h
    · cases h
      rfl
    · cases h
  · split at h
    · cases h
    · cases h
      rfl

section

variable {table : Table} {line symbol : Text}

theorem unresolved?_restrictTable (table : Table) (lines : List Text) :
    unresolved? (restrictTable table lines) = (lines.flatMap references).find? fun name => (table.lookup? name).isNone := by
  unfold restrictTable
  simp only
  split
  · rename_i name hf
    rw [hf]
    rfl
  · rename_i hf
    rw [hf]
    rfl

theorem unresolved?_convertLine (hp : table.isPresent = true) (layout : Layout) (line : Text) :
    unresolved? (convertLine table layout line) = (readSymbol? line).filter fun name => (table.lookup? name).isNone := by
  rw [convertLine_eq_if, readSymbol?]
  split
  · rfl
  · have hlater : ∀ line, unresolved? (resolveArgument layout line >>= refuseBelowFrame) = none := fun line => by
      rw [unresolved?_bind _ unresolved?_refuseBelowFrame, unresolved?_resolveArgument]
    rw [unresolved?_map, resolveOperands_eq_bind, if_pos hp, unresolved?_bind _ hlater, resolveConstant]
    cases (respelledLine line).cut? ripOpening with
    | none => rfl
    | some cut =>
        simp only [Option.map_some]
        cases hl : table.lookup? (Text.trim (cut.2.takeWhile (· != ']'))) with
        | none =>
            rw [Option.filter_some, hl]
            rfl
        | some label =>
            rw [Option.filter_some, hl, unresolved?_map, unresolved?_write]
            rfl

theorem resolvesTo_of_lookup? (hp : table.isPresent = true) (hr : readSymbol? line = some symbol) {label : Label}
    (hl : table.lookup? symbol = some label) (layout : Layout) : ResolvesTo table layout line label.offset := by
  unfold readSymbol? at hr
  split at hr
  · cases hr
  · rename_i hd
    obtain ⟨⟨front, tail⟩, hcut, rfl⟩ := Option.map_eq_some_iff.mp hr
    refine ⟨by simpa using hd, front, tail, hcut, ?_⟩
    rw [convertLine_eq_if, if_neg hd, resolveOperands_eq_bind, if_pos hp, resolveConstant, hcut]
    simp only [hl]
    cases hw : Decimal.write label.offset with
    | error fault => rfl
    | ok place =>
        obtain ⟨rfl, -⟩ := Decimal.eq_ofInt_of_write hw
        have hends := not_endsInArgument_commented front label.offset "rbp".toList ripOpening tail
        change (resolveArgument layout (commented front label.offset "rbp".toList ripOpening tail) >>=
          refuseBelowFrame).map some = _
        rw [resolveArgument_eq_ok layout hends]
        rfl

end

/-! ## The first name that is not known -/

theorem find?_eraseDups (p : Text → Bool) (names : List Text) : names.eraseDups.find? p = names.find? p := by
  induction hn : names.length using Nat.strong_induction_on generalizing names with
  | _ n ih =>
      cases names with
      | nil => rfl
      | cons name names =>
          rw [List.eraseDups_cons, List.find?_cons, List.find?_cons]
          cases hp : p name with
          | true => rfl
          | false =>
              have hlt : (names.filter fun other => !other == name).length < n := by
                have hle := List.length_filter_le (fun other => !other == name) names
                rw [List.length_cons] at hn
                omega
              simp only [ih _ hlt _ rfl, List.find?_filter]
              congr 1
              funext other
              by_cases ho : other = name
              · simp [ho, hp]
              · simp [ho]

/-- Lists in which the same name is the first that is not known, whatever is known, have the same names in the order of
their first places. -/
theorem eraseDups_eq_of_find? {names others known : List Text}
    (h : ∀ more : List Text, names.find? (fun name => !(more ++ known).contains name) =
      others.find? fun name => !(more ++ known).contains name) :
    (names.filter fun name => !known.contains name).eraseDups = (others.filter fun name => !known.contains name).eraseDups := by
  -- The first name that is not known is the same in both lists. It is known from there on, so fewer names are left.
  induction hn : (names.filter fun name => !known.contains name).length using Nat.strong_induction_on generalizing known with
  | _ n ih =>
      have hhead := h []
      rw [List.nil_append, ← List.head?_filter, ← List.head?_filter] at hhead
      cases hnames : names.filter fun name => !known.contains name with
      | nil =>
          rw [hnames] at hhead
          rw [List.head?_eq_none_iff.mp hhead.symm]
      | cons name rest =>
          rw [hnames] at hhead
          obtain ⟨rest', hothers⟩ := List.head?_eq_some_iff.mp hhead.symm
          have hfilter (list tail : List Text) (hl : (list.filter fun name => !known.contains name) = name :: tail) :
              tail.filter (fun other => !other == name) = list.filter fun other => !(name :: known).contains other := by
            have hboth : (list.filter fun other => !(name :: known).contains other) =
                (list.filter fun other => !known.contains other).filter fun other => !other == name := by
              rw [List.filter_filter]
              refine List.filter_congr fun other _ => ?_
              rw [List.contains_cons, Bool.not_or]
            rw [hboth, hl, List.filter_cons_of_neg (by simp)]
          rw [hothers, List.eraseDups_cons, List.eraseDups_cons, hfilter names rest hnames, hfilter others rest' hothers]
          congr 1
          refine ih _ ?_ (fun more => ?_) rfl
          · rw [← hfilter names rest hnames, ← hn, hnames]
            exact Nat.lt_succ_of_le (List.length_filter_le _ _)
          · have hmore := h (more ++ [name])
            rwa [List.append_assoc] at hmore

theorem exists_not_mem (names : List Text) : ∃ name, name ∉ names := by
  refine ⟨names.flatten ++ ['x'], fun hm => ?_⟩
  have hle := (List.sublist_flatten_of_mem hm).length_le
  rw [List.length_append] at hle
  exact Nat.lt_irrefl _ hle

/-! ## Tables of names -/

/-- A table of names. -/
def tableOf (names : List Text) (offset : Text → Int) : Table where
  labels := names.map fun name => { name := name, offset := offset name }

theorem lookup?_tableOf (names : List Text) (offset : Text → Int) (name : Text) :
    (tableOf names offset).lookup? name = if name ∈ names then some { name := name, offset := offset name } else none := by
  induction names with
  | nil => rfl
  | cons first names ih =>
      rw [Table.lookup?, tableOf, List.map_cons, List.find?_cons]
      by_cases hf : first = name
      · simp [hf]
      · have hm : name ∈ first :: names ↔ name ∈ names := by simp [Ne.symm hf]
        simp only [beq_eq_false_iff_ne.mpr hf, hm]
        exact ih

theorem isNone_lookup?_tableOf (names : List Text) (offset : Text → Int) (name : Text) :
    ((tableOf names offset).lookup? name).isNone = !names.contains name := by
  rw [lookup?_tableOf]
  by_cases hm : name ∈ names
  · simp [hm]
  · simp [hm]

theorem isPresent_tableOf {names : List Text} (h : names ≠ []) (offset : Text → Int) :
    (tableOf names offset).isPresent = true := by
  obtain ⟨name, rest, rfl⟩ := List.exists_cons_of_ne_nil h
  rfl

/-! ## Agreement -/

theorem find?_filterMap_eq_findSome? (f : Text → Option Text) (p : Text → Bool) (lines : List Text) :
    (lines.filterMap f).find? p = lines.findSome? fun line => (f line).filter p := by
  induction lines with
  | nil => rfl
  | cons line lines ih =>
      rw [List.filterMap_cons, List.findSome?_cons]
      cases f line with
      | none => exact ih
      | some name =>
          rw [List.find?_cons, Option.filter_some]
          cases p name with
          | true => rfl
          | false => exact ih

theorem findSome?_unresolved? {table : Table} (hp : table.isPresent = true) (layout : Layout) (lines : List Text) :
    (lines.findSome? fun line => unresolved? (convertLine table layout line)) =
      (lines.filterMap readSymbol?).find? fun name => (table.lookup? name).isNone := by
  simp only [unresolved?_convertLine hp, find?_filterMap_eq_findSome?]

section

variable {lines : List Text}

theorem referencesAgree_of_eraseDups_eq (hfirst : (lines.flatMap references).eraseDups = (lines.filterMap readSymbol?).eraseDups)
    (hread : ∀ line ∈ lines, ∀ symbol, writtenSymbol? line = some symbol → readSymbol? line = some symbol) {table : Table}
    (hp : table.isPresent = true) : ReferencesAgree table lines where
  unresolved layout := by
    rw [unresolved?_restrictTable, findSome?_unresolved? hp, ← find?_eraseDups, hfirst, find?_eraseDups]
  resolved used hu hup line hl layout := by
    have hlabel : ∀ symbol, readSymbol? line = some symbol →
        ∃ label, table.lookup? symbol = some label ∧ used.lookup? symbol = some label := fun symbol hs => by
      have hm : symbol ∈ (lines.filterMap readSymbol?).eraseDups := List.mem_eraseDups.mpr (List.mem_filterMap.mpr ⟨line, hl, hs⟩)
      rw [← hfirst, List.mem_eraseDups] at hm
      exact (exists_of_restrictTable hu).2 symbol hm
    constructor
    · rw [unresolved?_convertLine hup]
      cases hs : readSymbol? line with
      | none => rfl
      | some symbol =>
          obtain ⟨label, -, hused⟩ := hlabel symbol hs
          rw [Option.filter_some, hused]
          rfl
    · intro symbol hw
      have hs := hread line hl symbol hw
      obtain ⟨label, htable, hused⟩ := hlabel symbol hs
      exact ⟨label, htable, resolvesTo_of_lookup? hup hs hused layout⟩

/-- Lines agree for every table only where the names that are checked are the names that are looked up. -/
theorem eraseDups_eq_of_referencesAgree (h : ∀ table : Table, table.isPresent = true → ReferencesAgree table lines) :
    (lines.flatMap references).eraseDups = (lines.filterMap readSymbol?).eraseDups := by
  obtain ⟨fresh, hfresh⟩ := exists_not_mem (lines.flatMap references ++ lines.filterMap readSymbol?)
  rw [List.mem_append, not_or] at hfresh
  have hall : ∀ {names : List Text}, fresh ∉ names → (names.filter fun name => !([fresh] : List Text).contains name) = names := by
    intro names hn
    refine List.filter_eq_self.mpr fun name hm => ?_
    have hne : name ≠ fresh := ne_of_mem_of_not_mem hm hn
    simpa using hne
  -- A table has to have a label, so `fresh` is in all of them and in no line.
  rw [← hall hfresh.1, ← hall hfresh.2]
  refine eraseDups_eq_of_find? fun more => ?_
  have hp : (tableOf (more ++ [fresh]) fun _ => 0).isPresent = true := isPresent_tableOf (by simp) _
  have hagree := (h _ hp).unresolved (.caller {})
  rw [unresolved?_restrictTable, findSome?_unresolved? hp] at hagree
  simpa only [isNone_lookup?_tableOf] using hagree

/-- Lines agree for every table only where the symbol that is looked up is the one that is written. -/
theorem readSymbol?_of_referencesAgree (h : ∀ table : Table, table.isPresent = true → ReferencesAgree table lines) {line : Text}
    (hl : line ∈ lines) {symbol : Text} (hw : writtenSymbol? line = some symbol) : readSymbol? line = some symbol := by
  -- A table of all names of the lines has the written symbol at an offset of its own.
  let offset (name : Text) : Int := if name = symbol then 0 else 1
  let table := tableOf (lines.flatMap references) offset
  have hm : symbol ∈ lines.flatMap references := by
    obtain ⟨comment, hc⟩ := stripComment_prefix_self line
    have hfirst := head?_references_append hw comment
    rw [hc] at hfirst
    exact List.mem_flatMap.mpr ⟨line, hl, List.mem_of_mem_head? hfirst⟩
  have hp : table.isPresent = true := isPresent_tableOf (List.ne_nil_of_mem hm) offset
  have hok : restrictTable table lines = .ok (table.restrict (lines.flatMap references)) := by
    refine restrictTable_eq_ok_iff.mpr ⟨fun name hname => Table.isSome_lookup?_iff.mp ?_, rfl⟩
    rw [lookup?_tableOf, if_pos hname]
    rfl
  have hused (name : Text) (hname : name ∈ lines.flatMap references) :
      (table.restrict (lines.flatMap references)).lookup? name = some { name := name, offset := offset name } := by
    rw [Table.lookup?_restrict hname, lookup?_tableOf, if_pos hname]
  have hup := Table.isPresent_of_lookup? (hused symbol hm)
  obtain ⟨label, hlabel, hdrop, front, tail, hcut, hconvert⟩ := ((h table hp).resolved _ hok hup line hl (.caller {})).2 symbol hw
  rw [lookup?_tableOf, if_pos hm] at hlabel
  cases hlabel
  have hs : readSymbol? line = some (Text.trim (tail.takeWhile (· != ']'))) := by
    rw [readSymbol?, hdrop, hcut]
    rfl
  have hread : Text.trim (tail.takeWhile (· != ']')) ∈ lines.flatMap references := by
    rw [← List.mem_eraseDups, eraseDups_eq_of_referencesAgree h, List.mem_eraseDups]
    exact List.mem_filterMap.mpr ⟨line, hl, hs⟩
  obtain ⟨-, front', tail', hcut', hconvert'⟩ := resolvesTo_of_lookup? hup hs (hused _ hread) (.caller {})
  cases hcut.symm.trans hcut'
  by_contra hne
  rw [hs, Option.some.injEq] at hne
  -- The line that is read with the offset of one symbol cannot be the line with that of the other.
  have hzero : Decimal.write (offset symbol) = .ok ['0'] := by rw [show offset symbol = 0 from if_pos rfl]; rfl
  have hone : Decimal.write (offset (Text.trim (tail.takeWhile (· != ']')))) = .ok ['1'] := by
    rw [show offset _ = 1 from if_neg hne]; rfl
  have hsame := hconvert.symm.trans hconvert'
  simp only [hzero, hone] at hsame
  have hlines := eq_of_map_refuseBelowFrame hsame
  simp [rebased] at hlines

end

/-! ## Plain lines -/

/-- Whether a line has no brackets outside its comment, or one operand that respelling leaves. Its comment names no constant,
and no operand names nothing. -/
structure IsPlainLine (line : Text) : Prop where
  oneLine : '\n' ∉ line
  code : mentionsAlign line = false
  comment : ∀ comment, line = stripComment line ++ comment → ¬ ripOpening <:+: comment
  operand : '[' ∉ stripComment line ∨ ∃ inner, HasOperand line inner ∧ inner ≠ "rip + ".toList

namespace IsPlainLine

variable {line : Text} (h : IsPlainLine line)
include h

/-- The symbol of the operand is looked up, and it is the only one that is checked. -/
theorem references_eq : references line = (readSymbol? line).toList ∧ writtenSymbol? line = readSymbol? line := by
  obtain ⟨comment, hc⟩ := stripComment_prefix_self line
  have hcomment := h.comment comment hc.symm
  rcases h.operand with hn | ⟨inner, ho, hne⟩
  · have hcode : ¬ ripOpening <:+: stripComment line := fun hi => hn (hi.subset (by decide))
    have hline : ¬ ripOpening <:+: line := fun hi => by
      rw [← hc, ripOpening_eq] at hi
      exact hcomment (Text.infix_of_infix_append_left hn hi)
    have hread : readSymbol? line = none := by
      rw [readSymbol?, respelledLine, ripOpening_eq, Text.cut?_eq_none (bracket_not_mem_respell hn), Option.map_none, ite_self]
    rw [hread, writtenSymbol?, references_eq_nil hline, references_eq_nil hcode]
    exact ⟨rfl, rfl⟩
  · obtain ⟨front, back, hf, hb, hr⟩ := ho.exists_respelledLine h.oneLine
    obtain ⟨before, after, hs, hbrackets, -⟩ := ho.operand
    simp only [List.mem_append, not_or] at hbrackets
    obtain ⟨hbefore, hinner, hafter⟩ := hbrackets
    have hdrop : isDropped line = false := by
      rw [isDropped_eq_mentionsAlign, h.code]
      rw [hs]
      exact List.append_ne_nil_of_right_ne_nil _ (List.cons_ne_nil _ _)
    have hread : readSymbol? line = (inner.after? "rip + ".toList).map Text.trim := by
      have hout : '[' ∉ inner ++ ']' :: back := by simp [hinner, hb]
      rw [readSymbol?, hdrop, hr, ripOpening_eq, Text.cut?_append_cons hf hout, Text.after?_append_cons (by decide)]
      cases ha : inner.after? "rip + ".toList with
      | none => rfl
      | some symbol =>
          have hclosed : ']' ∉ symbol := fun hm => ho.closed (by
            rw [Text.eq_append_of_after? ha]
            exact List.mem_append_right _ hm)
          simp [Text.takeWhile_ne_append_cons hclosed]
    have hcode : ¬ ripOpening <:+: after := fun hi => hafter (hi.subset (by decide))
    have hrest : ¬ ripOpening <:+: after ++ comment := fun hi =>
      hcomment (Text.infix_of_infix_append_left hafter hi)
    constructor
    · rw [hread, ← references_bracketed hbefore hinner ho.closed hne hrest]
      conv => lhs; rw [← hc, hs]
      simp only [List.append_assoc, List.cons_append]
    · rw [hread, writtenSymbol?, hs, references_bracketed hbefore hinner ho.closed hne hcode]
      cases inner.after? "rip + ".toList <;> rfl

end IsPlainLine

/-- Lines are checked for the references that their conversion needs, whatever the table, exactly where the names of the
references are those that are looked up and each written symbol is looked up as it is written; so it is for plain lines. -/
theorem referencesAgree_iff (lines : List Text) :
    ((∀ table : Table, table.isPresent = true → ReferencesAgree table lines) ↔
      (lines.flatMap references).eraseDups = (lines.filterMap readSymbol?).eraseDups ∧
        ∀ line ∈ lines, ∀ symbol, writtenSymbol? line = some symbol → readSymbol? line = some symbol) ∧
      ((∀ line ∈ lines, IsPlainLine line) → ∀ table : Table, table.isPresent = true → ReferencesAgree table lines) := by
  refine ⟨⟨fun h => ⟨eraseDups_eq_of_referencesAgree h, fun line hl symbol hw => readSymbol?_of_referencesAgree h hl hw⟩,
    fun h table hp => referencesAgree_of_eraseDups_eq h.1 h.2 hp⟩, fun hplain table hp => ?_⟩
  refine referencesAgree_of_eraseDups_eq ?_ (fun line hl symbol hw => ?_) hp
  · have hnames : lines.flatMap references = lines.filterMap readSymbol? := by
      rw [List.filterMap_eq_flatMap_toList]
      exact List.flatMap_congr fun line hl => (hplain line hl).references_eq.1
    rw [hnames]
  · rw [← (hplain line hl).references_eq.2, hw]

/-- A line that loads a constant, with a comment. -/
def loadLine : Text :=
  "movsd xmm0, qword ptr [rip + .LC0] # load".toList

theorem isPlainLine_loadLine : IsPlainLine loadLine where
  oneLine := by decide
  code := by decide
  comment comment hc := by
    have hline : loadLine = stripComment loadLine ++ " # load".toList := by decide
    obtain rfl : comment = " # load".toList := List.append_cancel_left (hc.symm.trans hline)
    decide
  operand := .inr ⟨"rip + .LC0".toList,
    ⟨by decide, by decide, "movsd xmm0, qword ptr ".toList, [], by decide, by decide, by decide⟩, by decide⟩

theorem referencesAgree_iff_sample :
    let table : Table := { labels := [{ name := ".LC0".toList, offset := 16 }] }
    (∀ line ∈ [loadLine], IsPlainLine line) ∧ table.isPresent = true ∧ ReferencesAgree table [loadLine] := by
  have hplain : ∀ line ∈ [loadLine], IsPlainLine line := fun line hl => List.mem_singleton.mp hl ▸ isPlainLine_loadLine
  exact ⟨hplain, rfl, (referencesAgree_iff [loadLine]).2 hplain _ rfl⟩

/-- A reference in a comment is checked, though the line is converted without it. -/
theorem comment_checked :
    let table : Table := { name := "LCDATA1".toList, labels := [{ name := ".LC0".toList, offset := 0 }] }
    let line := "mov eax, 1 # [rip + .LC9]".toList
    restrictTable table [line] = .error (.unresolved ".LC9".toList) ∧
      ∀ layout, convertLine table layout line = .ok (some (disabledMargin ++ "mov eax, 1".toList)) := by
  intro table line
  have hnames : [line].flatMap references = [".LC9".toList] := by
    have hline : line = "mov eax, 1 # ".toList ++ (ripOpening ++ (".LC9".toList ++ [']'])) := by decide
    have hrefs : references ("mov eax, 1 # ".toList ++ (ripOpening ++ (".LC9".toList ++ [']']))) =
        Text.trim ".LC9".toList :: references [] :=
      references_append (by decide) (by decide) (by decide) []
    rw [List.flatMap_singleton, hline, hrefs, references]
    rfl
  constructor
  · rw [restrictTable, hnames]
    rfl
  · intro layout
    have hrespelled : isDropped line = false ∧ respelledLine line = disabledMargin ++ "mov eax, 1".toList := by decide
    rw [convertLine_eq_if, hrespelled.1, hrespelled.2, resolveOperands_eq_self table layout (by decide)]
    rfl

end AsmBridge
