import AsmBridge.Pool.Basic
import AsmBridge.Proofs.Pool.Lemmas.Definition
import Mathlib.Data.List.Infix

/-!
# Sections of a listing

The functions of a listing and its constants are found by two scanners, each of which keeps track of the section on its
own. A position is in a text section for the one and in a section with constants for the other exactly where a line has
been read that switches the section for one of them only, or that each of them takes for a section of its own kind.
-/

namespace AsmBridge

/-! ## Switches -/

/-- Whether a line switches to a text section, if it switches the section for the scanner of functions. -/
def textSwitch? (line : Text) : Option Bool :=
  (sectionSwitch? line).map fun (keyword, args) => switchesToText keyword args

/-- Whether a line switches to constants, if it switches the section for the scanner of constants, which takes what
looks like a label for one. -/
def constantsSwitch? (line : Text) : Option Bool :=
  match Pool.label? line with
  | some _ => none
  | none => (directive? line).bind fun (name, args) => entersConstants? name.toLower (splitOperands args)

/-- What the last switch among lines says, or `start` where there is none. -/
def lastSwitch (switch? : Text → Option Bool) (start : Bool) (lines : List Text) : Bool :=
  lines.foldl (fun state line => (switch? line).getD state) start

/-- Whether the position after lines is in a text section for the scanner of functions. -/
def inTextAfter (lines : List Text) : Bool :=
  lastSwitch textSwitch? true lines

/-- Whether the position after lines is in a section with constants for the scanner of constants. -/
def inConstantsAfter (lines : List Text) : Bool :=
  lastSwitch constantsSwitch? false lines

theorem lastSwitch_concat (switch? : Text → Option Bool) (start : Bool) (lines : List Text) (line : Text) :
    lastSwitch switch? start (lines ++ [line]) = (switch? line).getD (lastSwitch switch? start lines) := by
  rw [lastSwitch, List.foldl_append]
  rfl

theorem lastSwitch_append (switch? : Text → Option Bool) (start : Bool) (xs ys : List Text) :
    lastSwitch switch? start (xs ++ ys) = lastSwitch switch? (lastSwitch switch? start xs) ys :=
  List.foldl_append

/-! ## The scanner of functions -/

/-- The switch of a line with a role. -/
def LineRole.switch? : LineRole → Option Bool
  | .switch toText => some toText
  | .start _ | .stop | .plain => none

namespace Function

variable {globals : List Text} {machO : Bool}

theorem textSwitch?_eq (globals : List Text) (line : Text) : textSwitch? line = (LineRole.of globals line).switch? := by
  unfold LineRole.of textSwitch?
  cases sectionSwitch? line with
  | some switch => rfl
  | none =>
      cases functionLabel? line with
      | none => cases endsFunction line <;> rfl
      | some symbol =>
          simp only
          split
          · rfl
          · split <;> rfl

theorem lastSwitch_textSwitch?_cons (globals : List Text) (inText : Bool) (line : Text) (lines : List Text) :
    lastSwitch textSwitch? inText (line :: lines) =
      lastSwitch textSwitch? (((LineRole.of globals line).switch?).getD inText) lines := by
  rw [← textSwitch?_eq]
  rfl

/-- After lines, the scanner is where the last switch says. -/
theorem exists_scan_append (inText : Bool) (number : Nat) (xs ys : List Text) :
    ∃ functions, scan globals machO inText number (xs ++ ys) =
      functions ++ scan globals machO (lastSwitch textSwitch? inText xs) (number + xs.length) ys := by
  induction xs generalizing inText number with
  | nil => exact ⟨[], rfl⟩
  | cons line xs ih =>
      rw [List.cons_append, scan, lastSwitch_textSwitch?_cons globals, List.length_cons, Nat.add_comm xs.length, ← Nat.add_assoc]
      cases LineRole.of globals line with
      | switch toText => exact ih toText (number + 1)
      | stop => exact ih inText (number + 1)
      | plain => exact ih inText (number + 1)
      | start symbol =>
          obtain ⟨functions, hf⟩ := ih inText (number + 1)
          cases inText with
          | false => exact ⟨functions, hf⟩
          | true => exact ⟨_ :: functions, congrArg (List.cons _) hf⟩

theorem mem_scan_cons {inText : Bool} {number : Nat} {line : Text} {lines : List Text} {f : Function} :
    f ∈ scan globals machO inText number (line :: lines) ↔
      (∃ symbol, LineRole.of globals line = .start symbol ∧ inText = true ∧
        f = { name := cName symbol machO, lineNumber := number, lines := linesOf globals lines }) ∨
      f ∈ scan globals machO (((LineRole.of globals line).switch?).getD inText) (number + 1) lines := by
  rw [scan]
  cases LineRole.of globals line with
  | start symbol => cases inText <;> simp [LineRole.switch?]
  | _ => simp [LineRole.switch?]

/-- The functions are found at the labels in text sections, and their lines are read from there on. -/
theorem mem_scan_iff {inText : Bool} {number : Nat} {lines : List Text} {f : Function} :
    f ∈ scan globals machO inText number lines ↔
      ∃ above label below symbol, lines = above ++ label :: below ∧ LineRole.of globals label = .start symbol ∧
        lastSwitch textSwitch? inText above = true ∧
        f = { name := cName symbol machO, lineNumber := number + above.length, lines := linesOf globals below } := by
  induction lines generalizing inText number with
  | nil => simp [scan]
  | cons line lines ih =>
      rw [mem_scan_cons, ih]
      constructor
      · rintro (⟨symbol, hrole, ht, rfl⟩ | ⟨above, label, below, symbol, rfl, hrole, ht, rfl⟩)
        · exact ⟨[], line, lines, symbol, rfl, hrole, ht, rfl⟩
        · refine ⟨line :: above, label, below, symbol, rfl, hrole, ?_, ?_⟩
          · rwa [lastSwitch_textSwitch?_cons globals]
          · rw [List.length_cons, Nat.add_assoc, Nat.add_comm 1]
      · rintro ⟨above, label, below, symbol, hlines, hrole, ht, rfl⟩
        rcases List.cons_eq_append_iff.mp hlines with ⟨rfl, hl⟩ | ⟨above, rfl, rfl⟩
        · cases hl
          exact .inl ⟨symbol, hrole, ht, rfl⟩
        · rw [lastSwitch_textSwitch?_cons globals] at ht
          refine .inr ⟨above, label, below, symbol, rfl, hrole, ht, ?_⟩
          rw [List.length_cons, Nat.add_assoc, Nat.add_comm 1]

/-- Whether the line that follows `before` in a listing that declares `globals` is one of the function's lines. -/
def Takes (globals : List Text) (f : Function) (before : List Text) (line : Text) : Prop :=
  f.lineNumber ≤ before.length ∧
    linesOf globals (before.drop f.lineNumber ++ [line]) = linesOf globals (before.drop f.lineNumber) ++ [line]

instance (globals : List Text) (f : Function) (before : List Text) (line : Text) :
    Decidable (f.Takes globals before line) :=
  inferInstanceAs (Decidable (_ ∧ _))

/-- Where a function takes another line, the section has not switched to one without code. -/
theorem lastSwitch_of_linesOf_append {lines : List Text} {line : Text}
    (h : linesOf globals (lines ++ [line]) = linesOf globals lines ++ [line]) : lastSwitch textSwitch? true lines = true := by
  induction lines with
  | nil => rfl
  | cons first lines ih =>
      rw [List.cons_append, linesOf, linesOf] at h
      rw [lastSwitch_textSwitch?_cons globals]
      cases hrole : LineRole.of globals first with
      | switch toText =>
          rw [hrole] at h
          cases toText with
          | true => exact ih h
          | false => cases h
      | plain =>
          rw [hrole] at h
          exact ih (List.cons.inj h).2
      | start symbol => rw [hrole] at h; cases h
      | stop => rw [hrole] at h; cases h

/-- The lines of a function are in a text section. -/
theorem inTextAfter_of_takes {lines before after : List Text} {line : Text} {f : Function} (hf : f ∈ ofListing lines)
    (hl : lines = before ++ line :: after) (h : f.Takes (globalSymbols lines) before line) : inTextAfter before = true := by
  obtain ⟨above, label, below, symbol, hlines, hrole, habove, rfl⟩ := mem_scan_iff.mp hf
  obtain ⟨hle, htakes⟩ := h
  have ht : lastSwitch textSwitch? true (above ++ [label]) = true := by
    rw [lastSwitch_concat, textSwitch?_eq (globalSymbols lines), hrole]
    exact habove
  have hlength : (above ++ [label]).length = 1 + above.length := by
    rw [List.length_append, List.length_singleton, Nat.add_comm]
  have hbefore : before = above ++ [label] ++ before.drop (1 + above.length) := by
    have habove : above ++ [label] <+: lines := ⟨below, by rw [hlines, List.append_assoc]; rfl⟩
    have hstart : above ++ [label] <+: before :=
      List.prefix_of_prefix_length_le habove ⟨line :: after, hl.symm⟩ (by rw [hlength]; exact hle)
    obtain ⟨rest, hrest⟩ := hstart
    rw [← hrest, ← hlength, List.drop_left]
  rw [inTextAfter, hbefore, lastSwitch_append, ht]
  exact lastSwitch_of_linesOf_append htakes

end Function

/-! ## The scanner of constants -/

namespace Pool

variable {p q : Pool} {number : Nat}

theorem inConstants_define (name : Text) : (p.define name).inConstants = p.inConstants := by
  unfold define
  split <;> rfl

theorem inConstants_feed (directive : Text) (operands : List Text) :
    (p.feed directive operands).1.inConstants = (entersConstants? directive operands).getD p.inConstants := by
  unfold feed
  split
  · rename_i h
    rw [h]
    rfl
  · rename_i h
    rw [h]
    split <;> rfl

theorem inConstants_readLine (p : Pool) (number : Nat) (line : Text) :
    (p.readLine number line).1.inConstants = (constantsSwitch? line).getD p.inConstants := by
  unfold readLine constantsSwitch?
  cases label? line with
  | some name => exact inConstants_define name
  | none =>
      cases directive? line with
      | none => rfl
      | some directive =>
          obtain ⟨name, args⟩ := directive
          have hfeed := inConstants_feed (p := p) name.toLower (splitOperands args)
          simp only [Option.bind_some]
          rw [← hfeed]
          cases hf : p.feed name.toLower (splitOperands args) with
          | mk q fault =>
              cases fault with
              | none => rfl
              | some fault => simp only; split <;> rfl

/-- After lines, the scanner is where the last switch says. -/
theorem inConstants_readLines {lines : List Text} (h : p.readLines number lines = (q, none)) :
    q.inConstants = lastSwitch constantsSwitch? p.inConstants lines := by
  induction lines generalizing p number with
  | nil =>
      cases h
      rfl
  | cons line lines ih =>
      obtain ⟨next, hn, hrest⟩ := readLines_cons_eq_none h
      have hline := inConstants_readLine p number line
      rw [hn] at hline
      rw [ih hrest, hline]
      rfl

theorem leave_of_not_inConstants (h : p.inConstants = false) : { p with inConstants := false } = p := by
  rw [← h]

theorem feed_of_not_inConstants (h : p.inConstants = false) (directive : Text) (operands : List Text) :
    p.feed directive operands = ({ p with inConstants := (entersConstants? directive operands).getD false }, none) := by
  unfold feed
  split
  · rename_i he
    rw [he]
    rfl
  · rename_i he
    rw [he, Option.getD_none, leave_of_not_inConstants h, h]
    rfl

/-- Outside the sections with constants, a line changes the section at most. -/
theorem readLine_eq_of_not_inConstants (h : p.inConstants = false) (number : Nat) (line : Text) :
    p.readLine number line = ({ p with inConstants := (constantsSwitch? line).getD false }, none) := by
  unfold readLine constantsSwitch?
  cases label? line with
  | some name =>
      simp only [Option.getD_none, leave_of_not_inConstants h, define, h, Bool.false_eq_true, ↓reduceIte]
  | none =>
      cases directive? line with
      | none => simp only [Option.bind_none, Option.getD_none, leave_of_not_inConstants h]
      | some directive =>
          obtain ⟨name, args⟩ := directive
          simp only [feed_of_not_inConstants h, Option.bind_some]

theorem readLine_of_not_inConstants (h : p.inConstants = false) (number : Nat) (line : Text) :
    (p.readLine number line).1.labels = p.labels ∧ (p.readLine number line).1.data = p.data := by
  rw [readLine_eq_of_not_inConstants h]
  exact ⟨rfl, rfl⟩

end Pool

/-! ## Agreement -/

/-- A line that the scanners read differently, so that the position after it, if not the one before, is in a text section
for one and in a section with constants for the other. -/
inductive Clash (before : List Text) (line : Text) : Prop
  /-- A section directive names a section of both kinds. -/
  | both (args : Text) (read : Pool.label? line = none) (named : directive? line = some ("section".toList, args))
      (text : namesTextSection args = true) (constants : namesConstants (splitOperands args) = true)
  /-- In a text section, a directive that is no switch for the scanner of functions switches to constants. -/
  | unseenConstants (here : inTextAfter before = true) (unseen : sectionSwitch? line = none)
      (switch : constantsSwitch? line = some true)
  /-- In a section with constants, a directive that is a label for the scanner of constants switches to a text section. -/
  | unseenText (here : inConstantsAfter before = true) (label : (Pool.label? line).isSome)
      (switch : textSwitch? line = some true)

section

variable {before : List Text} {line keyword args : Text}

theorem inTextAfter_concat (before : List Text) (line : Text) :
    inTextAfter (before ++ [line]) = (textSwitch? line).getD (inTextAfter before) :=
  lastSwitch_concat textSwitch? true before line

theorem inConstantsAfter_concat (before : List Text) (line : Text) :
    inConstantsAfter (before ++ [line]) = (constantsSwitch? line).getD (inConstantsAfter before) :=
  lastSwitch_concat constantsSwitch? false before line

theorem directive?_of_sectionSwitch? (h : sectionSwitch? line = some (keyword, args)) :
    directive? line = some (keyword, args) ∧ keyword ∈ sectionKeywords := by
  unfold sectionSwitch? at h
  split at h
  · rename_i name rest hd
    split at h
    · rename_i hk
      cases h
      exact ⟨hd, List.contains_iff_mem.mp hk⟩
    · cases h
  · cases h

theorem constantsSwitch?_of_label? (h : (Pool.label? line).isSome) : constantsSwitch? line = none := by
  obtain ⟨name, hl⟩ := Option.isSome_iff_exists.mp h
  rw [constantsSwitch?, hl]

theorem constantsSwitch?_of_directive? (hl : Pool.label? line = none) (hd : directive? line = some (keyword, args)) :
    constantsSwitch? line = entersConstants? keyword.toLower (splitOperands args) := by
  rw [constantsSwitch?, hl, hd]
  rfl

/-- What switches to a text section for the scanner of functions is a switch for that of constants, unless that takes
it for a label, and one to constants only where it names a section of both kinds. -/
theorem constantsSwitch?_of_switchesToText (hl : Pool.label? line = none)
    (hs : sectionSwitch? line = some (keyword, args)) (ht : switchesToText keyword args = true) :
    constantsSwitch? line = some false ∨ keyword = "section".toList ∧ namesTextSection args = true ∧
      constantsSwitch? line = some (namesConstants (splitOperands args)) := by
  obtain ⟨hd, hk⟩ := directive?_of_sectionSwitch? hs
  rw [constantsSwitch?_of_directive? hl hd]
  simp only [sectionKeywords, List.mem_cons, List.not_mem_nil, or_false] at hk
  rcases hk with rfl | rfl | rfl | rfl | rfl
  · exact .inr ⟨rfl, ht, rfl⟩
  · exact .inl rfl
  all_goals cases ht

/-- A clash is what parts the scanners. -/
theorem clash_iff (h : ¬ (inTextAfter before = true ∧ inConstantsAfter before = true)) :
    inTextAfter (before ++ [line]) = true ∧ inConstantsAfter (before ++ [line]) = true ↔ Clash before line := by
  rw [inTextAfter_concat, inConstantsAfter_concat]
  constructor
  · rintro ⟨ht, hc⟩
    cases hs : sectionSwitch? line with
    | none =>
        rw [textSwitch?, hs] at ht
        cases hswitch : constantsSwitch? line with
        | none =>
            rw [hswitch] at hc
            exact absurd ⟨ht, hc⟩ h
        | some toConstants =>
            rw [hswitch] at hc
            cases hc
            exact .unseenConstants ht hs hswitch
    | some switch =>
        obtain ⟨keyword, args⟩ := switch
        rw [textSwitch?, hs] at ht
        cases hl : Pool.label? line with
        | some name =>
            have hsome : (Pool.label? line).isSome := by rw [hl]; rfl
            rw [constantsSwitch?_of_label? hsome] at hc
            exact .unseenText hc hsome (by rw [textSwitch?, hs]; exact congrArg some ht)
        | none =>
            rcases constantsSwitch?_of_switchesToText hl hs ht with hno | ⟨rfl, htext, hboth⟩
            · rw [hno] at hc
              cases hc
            · rw [hboth] at hc
              exact .both args hl (directive?_of_sectionSwitch? hs).1 htext hc
  · rintro (⟨args, hl, hd, htext, hconst⟩ | ⟨ht, hs, hswitch⟩ | ⟨hc, hl, hswitch⟩)
    · have hs : sectionSwitch? line = some ("section".toList, args) := by
        rw [sectionSwitch?, hd]
        rfl
      rw [constantsSwitch?_of_directive? hl hd, textSwitch?, hs]
      exact ⟨htext, hconst⟩
    · rw [hswitch, textSwitch?, hs]
      exact ⟨ht, rfl⟩
    · rw [hswitch, constantsSwitch?_of_label? hl]
      exact ⟨rfl, hc⟩

/-- The scanners agree at every position as long as there is no clash. -/
theorem not_inBoth_of_not_clash {lines : List Text} (h : ∀ before line, before ++ [line] <+: lines → ¬ Clash before line)
    (hb : before <+: lines) : ¬ (inTextAfter before = true ∧ inConstantsAfter before = true) := by
  induction before using List.reverseRecOn with
  | nil => exact fun hboth => Bool.false_ne_true hboth.2
  | append_singleton before line ih =>
      have hagree := ih ((List.prefix_append before [line]).trans hb)
      exact fun hboth => h before line hb ((clash_iff hagree).mp hboth)

end

/-- The sections of both scanners are where their last switches say. They agree on every position of a listing exactly
where no line is a clash, and then no line of a function adds labels or bytes to the constants. -/
theorem sections_agree_iff (lines : List Text) :
    (∀ before after, lines = before ++ after → ∃ functions, Function.ofListing lines = functions ++
      Function.scan (globalSymbols lines) (isMachO lines) (inTextAfter before) (1 + before.length) after) ∧
    (∀ before p, ({} : Pool).readLines 1 before = (p, none) → p.inConstants = inConstantsAfter before) ∧
    ((∀ before, before <+: lines → ¬ (inTextAfter before = true ∧ inConstantsAfter before = true)) ↔
      ∀ before line, before ++ [line] <+: lines → ¬ Clash before line) ∧
    ((∀ before line, before ++ [line] <+: lines → ¬ Clash before line) →
      ∀ f ∈ Function.ofListing lines, ∀ before line after p, lines = before ++ line :: after →
        f.Takes (globalSymbols lines) before line → ({} : Pool).readLines 1 before = (p, none) →
        (p.readLine (1 + before.length) line).1.labels = p.labels ∧
          (p.readLine (1 + before.length) line).1.data = p.data) := by
  refine ⟨?_, fun before p h => Pool.inConstants_readLines h, ⟨?_, fun h before => not_inBoth_of_not_clash h⟩, ?_⟩
  · rintro before after hl
    unfold Function.ofListing
    generalize globalSymbols lines = globals, isMachO lines = machO
    rw [hl]
    exact Function.exists_scan_append true 1 before after
  · intro h before line hb hclash
    have hagree := h before ((List.prefix_append before [line]).trans hb)
    exact h (before ++ [line]) hb ((clash_iff hagree).mpr hclash)
  · intro h f hf before line after p hl htakes hp
    have htext := Function.inTextAfter_of_takes hf hl htakes
    have hagree := not_inBoth_of_not_clash h ⟨line :: after, hl.symm⟩
    refine Pool.readLine_of_not_inConstants (Bool.eq_false_iff.mpr fun hc => hagree ⟨htext, ?_⟩) _ line
    rwa [Pool.inConstants_readLines hp] at hc

/-- A listing with a function and, in another section, a constant. -/
def codeAndConstant : List Text :=
  ["\t.text".toList, "\t.globl\tsum".toList, "sum:".toList, "\tret".toList, "\t.section\t.rodata".toList,
    "\t.byte\t7".toList]

/-- The line of the function is no constant. -/
theorem sections_agree_sample :
    let before := codeAndConstant.take 3
    let p := (({} : Pool).readLines 1 before).1
    (∀ before line, before ++ [line] <+: codeAndConstant → ¬ Clash before line) ∧
      ∃ f ∈ Function.ofListing codeAndConstant, f.Takes (globalSymbols codeAndConstant) before "\tret".toList ∧
        (p.readLine 4 "\tret".toList).1.labels = p.labels ∧ (p.readLine 4 "\tret".toList).1.data = p.data := by
  intro before p
  obtain ⟨-, -, hagree, hlines⟩ := sections_agree_iff codeAndConstant
  let f : Function := { name := "sum".toList, lineNumber := 3, lines := ["\tret".toList] }
  -- One evaluation for all facts, which share most of what has to be evaluated.
  obtain ⟨hall, hf, htakes, hread⟩ :
      (∀ before ∈ codeAndConstant.inits, ¬ (inTextAfter before = true ∧ inConstantsAfter before = true)) ∧
      f ∈ Function.ofListing codeAndConstant ∧
      f.Takes (globalSymbols codeAndConstant) before "\tret".toList ∧
      ({} : Pool).readLines 1 before = (p, none) := by
    decide +kernel
  have hclash : ∀ before line, before ++ [line] <+: codeAndConstant → ¬ Clash before line :=
    hagree.mp fun before hb => hall before ((List.mem_inits _ _).mpr hb)
  exact ⟨hclash, f, hf, htakes, hlines hclash f hf before _ (codeAndConstant.drop 4) p (List.take_append_drop 3 _).symm htakes hread⟩

/-- A byte between the lines of a function is taken for a constant. -/
theorem function_line_in_constants :
    let lines := ["\t.section\t.text.const_scale".toList, "\t.globl\tconst_scale".toList, "const_scale:".toList,
      "\t.byte\t144".toList, "\tret".toList]
    let before := lines.take 3
    let p := (({} : Pool).readLines 1 before).1
    ∃ f ∈ Function.ofListing lines, f.Takes (globalSymbols lines) before "\t.byte\t144".toList ∧
      inTextAfter before = true ∧ p.inConstants = true ∧ (p.readLine 4 "\t.byte\t144".toList).1.data ≠ p.data := by
  intro lines before p
  refine ⟨{ name := "const_scale".toList, lineNumber := 3, lines := ["\t.byte\t144".toList, "\tret".toList] }, ?_⟩
  decide +kernel

end AsmBridge
