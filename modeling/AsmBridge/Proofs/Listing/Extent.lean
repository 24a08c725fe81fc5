import AsmBridge.Proofs.Listing.Section
import AsmBridge.Proofs.Text.Cut

/-!
# Functions by position

Which line of a listing starts a function, and up to which line it reaches, is said of positions in the whole listing. The
functions that are found are these, in order, and no two of them share a line.
-/

namespace AsmBridge

variable {lines : List Text} {globals : List Text} {line symbol : Text} {i j : Nat}

/-! ## Starts and ends -/

/-- The line at a position of a listing starts a function. -/
structure StartsAt (lines : List Text) (i : Nat) (symbol : Text) : Prop where
  label : ∃ line, lines[i]? = some line ∧ sectionSwitch? line = none ∧ functionLabel? line = some symbol
  declared : ∃ line ∈ lines, globalSymbol? line = some symbol
  /-- The last section directive above, if there is one, is that of a text section. -/
  inText : ∀ toText ∈ ((lines.take i).filterMap textSwitch?).getLast?, toText = true

/-- The line at a position of a listing ends the function above it. -/
inductive EndsAt (lines : List Text) (j : Nat) : Prop
  | marker {line : Text} (hl : lines[j]? = some line) (he : endsFunction line = true)
  | start {symbol : Text} (hs : StartsAt lines j symbol)
  | switch {line : Text} (hl : lines[j]? = some line) (hs : textSwitch? line = some false)

/-- A function of a listing whose label is the line at a position and which reaches up to another position. -/
structure Function.StandsAt (lines : List Text) (i stop : Nat) (f : Function) : Prop where
  number : f.lineNumber = i + 1
  name : ∃ symbol, StartsAt lines i symbol ∧ f.name = cName symbol (isMachO lines)
  above : i < stop
  stop_le : stop ≤ lines.length
  inside : ∀ j, i < j → j < stop → ¬ EndsAt lines j
  stops : stop < lines.length → EndsAt lines stop
  /-- The lines in between but the section directives, which are those of text sections. -/
  lines : f.lines = ((lines.take stop).drop (i + 1)).filter fun line => (sectionSwitch? line).isNone

theorem lastSwitch_eq_getLast? (switch? : Text → Option Bool) (start : Bool) (lines : List Text) :
    lastSwitch switch? start lines = ((lines.filterMap switch?).getLast?).getD start := by
  induction lines using List.reverseRecOn with
  | nil => rfl
  | append_singleton lines line ih =>
      rw [lastSwitch_concat, ih, List.filterMap_append]
      cases hs : switch? line <;> simp [hs]

theorem inText_iff : (∀ toText ∈ (lines.filterMap textSwitch?).getLast?, toText = true) ↔ inTextAfter lines = true := by
  rw [inTextAfter, lastSwitch_eq_getLast?]
  cases (lines.filterMap textSwitch?).getLast? <;> simp

/-! ## Roles of lines -/

/-- Whether a line with a role ends the function above it, where it is in a text section. -/
def LineRole.ends : LineRole → Bool
  | .switch toText => !toText
  | .start _ | .stop => true
  | .plain => false

theorem LineRole.of_eq_start_iff :
    LineRole.of globals line = .start symbol ↔
      sectionSwitch? line = none ∧ functionLabel? line = some symbol ∧ symbol ∈ globals := by
  unfold of
  cases sectionSwitch? line with
  | some switch => simp
  | none => cases functionLabel? line <;> grind

theorem exists_of_directive? {name args : Text} (h : directive? line = some (name, args)) :
    ∃ rest, line.trimStart = '.' :: (name ++ rest) := by
  unfold directive? at h
  split at h
  · rename_i r hr
    simp only at h
    split at h
    · cases h
      exact ⟨r.dropWhile isWordChar, by rw [hr, List.takeWhile_append_dropWhile]⟩
    · cases h
  · cases h

theorem exists_of_endsFunction (h : endsFunction line = true) :
    ∃ rest, line = "Lfunc_end".toList ++ rest ∨ line = '.' :: ("Lfunc_end".toList ++ rest) := by
  unfold endsFunction at h
  split at h
  · rename_i c r hr
    refine ⟨c :: r, ?_⟩
    have hline := Text.eq_append_of_after? hr
    unfold withoutDot at hline
    split at hline
    · exact .inr (congrArg _ hline)
    · exact .inl hline
  · cases h

/-- The marker that ends a function is no section directive. -/
theorem sectionSwitch?_of_endsFunction (h : endsFunction line = true) : sectionSwitch? line = none := by
  cases hs : sectionSwitch? line with
  | none => rfl
  | some switch =>
      obtain ⟨hd, hk⟩ := directive?_of_sectionSwitch? hs
      obtain ⟨rest, hrest⟩ := exists_of_directive? hd
      -- The keyword would have to start like the name of the marker.
      have hhead : ∀ keyword ∈ sectionKeywords, keyword.head? ∉ [none, some 'L'] := by decide
      obtain ⟨tail, rfl | rfl⟩ := exists_of_endsFunction h
      · cases hrest
      · refine absurd ?_ (hhead _ hk)
        cases hkey : switch.1 with
        | nil => simp
        | cons c r =>
            rw [hkey] at hrest
            obtain rfl : 'L' = c := (List.cons.inj (List.cons.inj hrest).2).1
            simp

theorem LineRole.ends_iff : (LineRole.of globals line).ends = true ↔
    endsFunction line = true ∨ (∃ symbol, LineRole.of globals line = .start symbol) ∨ textSwitch? line = some false := by
  have hmarker : endsFunction line = true → sectionSwitch? line = none := sectionSwitch?_of_endsFunction
  rw [Function.textSwitch?_eq globals]
  unfold of
  cases hs : sectionSwitch? line with
  | some switch => grind [ends, LineRole.switch?]
  | none => cases functionLabel? line <;> grind [ends, LineRole.switch?]

/-! ## Lines of a function -/

namespace Function

theorem linesOf_eq (globals lines : List Text) :
    linesOf globals lines =
      (lines.takeWhile fun line => !(LineRole.of globals line).ends).filter fun line => (sectionSwitch? line).isNone := by
  induction lines with
  | nil => rfl
  | cons line lines ih =>
      have hswitch : (sectionSwitch? line).isNone = ((LineRole.of globals line).switch?).isNone := by
        rw [← textSwitch?_eq, textSwitch?, Option.isNone_map]
      rw [linesOf, List.takeWhile_cons]
      cases hrole : LineRole.of globals line with
      | switch toText => cases toText <;> simp [LineRole.ends, LineRole.switch?, hswitch, hrole, ih]
      | plain => simp [LineRole.ends, LineRole.switch?, hswitch, hrole, ih]
      | start symbol => rfl
      | stop => rfl

/-- Where no line switches to a section without code, the section stays a text section. -/
theorem lastSwitch_of_forall (h : ∀ line ∈ lines, textSwitch? line ≠ some false) :
    lastSwitch textSwitch? true lines = true := by
  induction lines using List.reverseRecOn with
  | nil => rfl
  | append_singleton lines line ih =>
      obtain ⟨hlines, hline⟩ := List.forall_mem_append.mp h
      have hline := List.forall_mem_singleton.mp hline
      rw [lastSwitch_concat, ih hlines]
      cases hs : textSwitch? line with
      | none => rfl
      | some toText => cases toText with
        | true => rfl
        | false => exact absurd hs hline

/-- The line at a position starts a function where it is a label that starts one and comes in a text section. -/
theorem startsAt_iff : StartsAt lines i symbol ↔
    ∃ line, lines[i]? = some line ∧ LineRole.of (globalSymbols lines) line = .start symbol ∧
      inTextAfter (lines.take i) = true := by
  simp only [LineRole.of_eq_start_iff, ← inText_iff, globalSymbols, List.mem_filterMap]
  constructor
  · rintro ⟨⟨line, hl, hs, hf⟩, hd, ht⟩
    exact ⟨line, hl, ⟨hs, hf, hd⟩, ht⟩
  · rintro ⟨line, hl, ⟨hs, hf, hd⟩, ht⟩
    exact ⟨⟨line, hl, hs, hf⟩, hd, ht⟩

theorem ends_of_endsAt (h : EndsAt lines j) :
    ∃ line, lines[j]? = some line ∧ (LineRole.of (globalSymbols lines) line).ends = true := by
  cases h with
  | marker hl he => exact ⟨_, hl, LineRole.ends_iff.mpr (.inl he)⟩
  | start hs =>
      obtain ⟨line, hl, hrole, -⟩ := startsAt_iff.mp hs
      exact ⟨line, hl, LineRole.ends_iff.mpr (.inr (.inl ⟨_, hrole⟩))⟩
  | switch hl hs => exact ⟨_, hl, LineRole.ends_iff.mpr (.inr (.inr hs))⟩

theorem endsAt_of_ends (hl : lines[j]? = some line) (he : (LineRole.of (globalSymbols lines) line).ends = true)
    (ht : inTextAfter (lines.take j) = true) : EndsAt lines j := by
  rcases LineRole.ends_iff.mp he with he | ⟨symbol, hrole⟩ | hs
  · exact .marker hl he
  · exact .start (startsAt_iff.mpr ⟨line, hl, hrole, ht⟩)
  · exact .switch hl hs

/-! ## Functions of a listing -/

/-- The section stays a text section up to the end of a function. -/
theorem inTextAfter_function {above inner : List Text} {label : Text} (hrole : LineRole.of globals label = .start symbol)
    (ht : inTextAfter above = true) (hinner : ∀ line ∈ inner, (LineRole.of globals line).ends = false) :
    inTextAfter (above ++ label :: inner) = true := by
  rw [inTextAfter, lastSwitch_append, lastSwitch_textSwitch?_cons globals, hrole]
  change lastSwitch textSwitch? (inTextAfter above) inner = true
  rw [ht]
  refine lastSwitch_of_forall fun line hl hs => ?_
  have he : (LineRole.of globals line).ends = true := LineRole.ends_iff.mpr (.inr (.inr hs))
  rw [hinner line hl] at he
  cases he

theorem standsAt_of_eq_append {above inner rest : List Text} {label : Text}
    (hlines : lines = above ++ label :: (inner ++ rest))
    (hrole : LineRole.of (globalSymbols lines) label = .start symbol) (ht : inTextAfter above = true)
    (hinner : ∀ line ∈ inner, (LineRole.of (globalSymbols lines) line).ends = false)
    (hrest : ∀ line ∈ rest.head?, (LineRole.of (globalSymbols lines) line).ends = true) :
    StandsAt lines above.length (above.length + 1 + inner.length)
      { name := cName symbol (isMachO lines), lineNumber := 1 + above.length
        lines := inner.filter fun line => (sectionSwitch? line).isNone } := by
  have hfront : lines = (above ++ label :: inner) ++ rest := by rw [hlines, List.append_assoc, List.cons_append]
  have hstop : (above ++ label :: inner).length = above.length + 1 + inner.length := by
    rw [List.length_append, List.length_cons]
    omega
  have htake : lines.take (above.length + 1 + inner.length) = above ++ label :: inner := by
    rw [← hstop]
    exact hfront ▸ List.take_left
  have hinside (k : Nat) (hk : k < inner.length) : lines[above.length + 1 + k]? = some inner[k] := by
    rw [hlines, List.getElem?_append_right (by omega), Nat.add_assoc, Nat.add_sub_cancel_left, Nat.add_comm 1,
      List.getElem?_cons_succ, List.getElem?_append_left hk, List.getElem?_eq_getElem hk]
  constructor
  · exact Nat.add_comm 1 _
  · refine ⟨symbol, startsAt_iff.mpr ⟨label, ?_, hrole, ?_⟩, rfl⟩
    · rw [hlines, List.getElem?_append_right (Nat.le_refl _), Nat.sub_self, List.getElem?_cons_zero]
    · rwa [hlines, List.take_left]
  · omega
  · rw [← hstop, hfront]
    exact (List.prefix_append _ rest).length_le
  · intro j hij hj he
    obtain ⟨line, hl, he⟩ := ends_of_endsAt he
    obtain ⟨k, rfl⟩ := Nat.exists_eq_add_of_le (Nat.succ_le_of_lt hij)
    have hk : k < inner.length := by omega
    obtain rfl := Option.some.inj ((hinside k hk).symm.trans hl)
    rw [hinner _ (List.getElem_mem hk)] at he
    cases he
  · intro hlt
    cases rest with
    | nil =>
        rw [hfront, List.append_nil, hstop] at hlt
        exact absurd hlt (Nat.lt_irrefl _)
    | cons line rest =>
        have hl : lines[above.length + 1 + inner.length]? = some line := by
          rw [hfront, ← hstop, List.getElem?_append_right (Nat.le_refl _), Nat.sub_self, List.getElem?_cons_zero]
        refine endsAt_of_ends hl (hrest line rfl) ?_
        rw [htake]
        exact inTextAfter_function hrole ht hinner
  · rw [htake, ← List.drop_drop]
    simp

theorem standsAt_of_mem {above below : List Text} {label : Text} (hlines : lines = above ++ label :: below)
    (hrole : LineRole.of (globalSymbols lines) label = .start symbol) (ht : inTextAfter above = true) :
    ∃ stop, StandsAt lines above.length stop
      { name := cName symbol (isMachO lines), lineNumber := 1 + above.length
        lines := linesOf (globalSymbols lines) below } := by
  let ends line := (LineRole.of (globalSymbols lines) line).ends
  have hinner : ∀ line ∈ below.takeWhile fun line => !ends line, ends line = false := fun line hl => by
    simpa using List.all_eq_true.mp List.all_takeWhile line hl
  have hrest : ∀ line ∈ (below.dropWhile fun line => !ends line).head?, ends line = true := fun line hl => by
    have hnot := List.head?_dropWhile_not (fun line => !ends line) below
    rw [hl] at hnot
    simpa using hnot
  rw [linesOf_eq]
  refine ⟨_, standsAt_of_eq_append ?_ hrole ht hinner hrest⟩
  rw [List.takeWhile_append_dropWhile, hlines]

theorem pairwise_lineNumber_scan {globals lines : List Text} {machO inText : Bool} {number : Nat} :
    (scan globals machO inText number lines).Pairwise fun f g => f.lineNumber < g.lineNumber := by
  induction lines generalizing inText number with
  | nil => exact .nil
  | cons line lines ih =>
      rw [scan]
      split
      · exact ih
      · split
        · refine .cons (fun f hf => ?_) ih
          obtain ⟨above, -, -, -, -, -, -, rfl⟩ := mem_scan_iff.mp hf
          exact Nat.lt_of_lt_of_le (Nat.lt_succ_self number) (Nat.le_add_right _ _)
        · exact ih
      all_goals exact ih

/-- The functions of a listing are those that its lines start, each with the lines up to the first one that ends it, in
order and apart from each other. -/
theorem ofListing_standsAt (lines : List Text) :
    (∀ f ∈ ofListing lines, ∃ i stop, f.StandsAt lines i stop) ∧
    (∀ i symbol, StartsAt lines i symbol → ∃ f ∈ ofListing lines, ∃ stop, f.StandsAt lines i stop) ∧
    (ofListing lines).Pairwise fun f g =>
      ∀ i stop j stop', f.StandsAt lines i stop → g.StandsAt lines j stop' → stop ≤ j := by
  refine ⟨fun f hf => ?_, fun i symbol hs => ?_, ?_⟩
  · obtain ⟨above, label, below, symbol, hlines, hrole, ht, rfl⟩ := mem_scan_iff.mp hf
    exact ⟨above.length, standsAt_of_mem hlines hrole ht⟩
  · obtain ⟨label, hl, hrole, ht⟩ := startsAt_iff.mp hs
    obtain ⟨hi, rfl⟩ := List.getElem?_eq_some_iff.mp hl
    have hlines : lines = lines.take i ++ lines[i] :: lines.drop (i + 1) := by
      rw [← List.drop_eq_getElem_cons hi, List.take_append_drop]
    have hlength : (lines.take i).length = i := List.length_take_of_le (Nat.le_of_lt hi)
    refine ⟨_, mem_scan_iff.mpr ⟨_, _, _, symbol, hlines, hrole, ht, rfl⟩, ?_⟩
    obtain ⟨stop, hstands⟩ := standsAt_of_mem hlines hrole ht
    rw [hlength] at hstands ⊢
    exact ⟨stop, hstands⟩
  · refine List.Pairwise.imp (fun hlt i stop j stop' hf hg => ?_) pairwise_lineNumber_scan
    rw [hf.number, hg.number] at hlt
    obtain ⟨symbol, hs, -⟩ := hg.name
    -- The label of the next function would end the one above it.
    exact Nat.le_of_not_lt fun hj => hf.inside j (Nat.lt_of_succ_lt_succ hlt) hj (.start hs)

end Function

/-- A listing with a function that goes on in another text section. -/
def dividedFunction : List Text :=
  ["\t.text".toList, "\t.globl\tsum".toList, "sum:".toList, "\tmov\teax, 1".toList, "\t.section\t.text.cold".toList,
    "\tret".toList, ".Lfunc_end0:".toList, "\tnop".toList]

/-- The function starts at its label and takes the lines of both sections, up to the marker. -/
theorem ofListing_standsAt_sample :
    let f : Function := { name := "sum".toList, lineNumber := 3, lines := ["\tmov\teax, 1".toList, "\tret".toList] }
    StartsAt dividedFunction 2 "sum".toList ∧ Function.ofListing dividedFunction = [f] ∧
      ∃ stop, f.StandsAt dividedFunction 2 stop := by
  intro f
  have hstarts : StartsAt dividedFunction 2 "sum".toList :=
    { label := ⟨"sum:".toList, by decide⟩
      declared := ⟨"\t.globl\tsum".toList, by decide⟩
      inText := by decide }
  have hfunctions : Function.ofListing dividedFunction = [f] := by decide
  obtain ⟨-, hall, -⟩ := Function.ofListing_standsAt dividedFunction
  obtain ⟨g, hg, stop, hstands⟩ := hall 2 "sum".toList hstarts
  rw [hfunctions, List.mem_singleton] at hg
  exact ⟨hstarts, hfunctions, stop, hg ▸ hstands⟩

end AsmBridge
