import AsmBridge.Proofs.Line.Lemmas.Comment
import AsmBridge.Proofs.Line.Lemmas.Settled

/-!
# Disabled lines stay disabled

Instructions without a spelling are disabled in the middle of the conversion of a line. The later changes neither make
such a line active again nor turn another line into an instruction in small letters.
-/

namespace AsmBridge

/-! ## The later changes -/

/-- The changes to a line whose foreign instruction is disabled. -/
def laterSteps (table : Table) (layout : Layout) : List (Text → Except Fault Text) :=
  sizeMarkers.map (fun marker line => .ok (removeMarker line marker)) ++
    (shiftMnemonics.map (fun mnemonic line => .ok (addShiftCount line mnemonic)) ++
      [fun line => .ok (shortenMove line), fun line => if table.isPresent then resolveConstant table line else .ok line,
        resolveArgument layout, refuseBelowFrame])

/-- Makes changes one after the other. -/
def runSteps (steps : List (Text → Except Fault Text)) (line : Text) : Except Fault Text :=
  steps.foldlM (fun line step => step line) line

theorem runSteps_laterSteps (table : Table) (layout : Layout) (line : Text) :
    runSteps (laterSteps table layout) line = resolveOperands table layout (adjustOperands line) := by
  have h : runSteps (laterSteps table layout) line =
      (if table.isPresent then resolveConstant table (adjustOperands line) else .ok (adjustOperands line)) >>= fun line =>
        resolveArgument layout line >>= fun line => refuseBelowFrame line >>= pure := rfl
  simp only [h, bind_pure, resolveOperands_eq_bind]

section

variable {table : Table} {layout : Layout} {step : Text → Except Fault Text} {line out : Text}

/-- Every later change is a change to the tail of a line. -/
theorem tailChanges_of_mem_laterSteps (hs : step ∈ laterSteps table layout) (h : step line = .ok out) :
    TailChanges line out := by
  simp only [laterSteps, List.mem_append, List.mem_map, List.mem_cons, List.not_mem_nil, or_false] at hs
  rcases hs with ⟨marker, hm, rfl⟩ | ⟨mnemonic, -, rfl⟩ | rfl | rfl | rfl | rfl
  · cases h
    exact tailChanges_removeMarker hm line
  · cases h
    exact tailChanges_addShiftCount line mnemonic
  · cases h
    exact tailChanges_shortenMove line
  · simp only at h
    split at h
    · exact tailChanges_resolveConstant h
    · cases h
      exact TailChanges.refl line
  · exact tailChanges_resolveArgument h
  · obtain rfl := eq_of_refuseBelowFrame h
    exact TailChanges.refl out

/-- What every change keeps is kept by a run of changes. -/
theorem runSteps_preserves {P : Text → Prop} {steps : List (Text → Except Fault Text)}
    (hstep : ∀ step ∈ steps, ∀ line out, step line = .ok out → P line → P out) (h : runSteps steps line = .ok out)
    (hp : P line) : P out := by
  induction steps generalizing line with
  | nil =>
      cases h
      exact hp
  | cons step steps ih =>
      obtain ⟨line', hline, hrest⟩ := exists_of_bind_eq_ok h
      exact ih (fun step hs => hstep step (List.mem_cons_of_mem _ hs)) hrest
        (hstep step List.mem_cons_self line line' hline hp)

end

/-! ## The line that is guarded -/

theorem head?_blockLabel? {line label : Text} (h : blockLabel? line = some label) : ∀ c ∈ label.head?, c = 'L' := by
  unfold blockLabel? at h
  split at h
  · rename_i hs
    split at h
    · cases h
    · rename_i d r hup
      cases h
      have hp : d :: r <+: line := by
        rw [← hup, upToColon, ← List.reverse_suffix, List.reverse_reverse]
        exact (List.dropWhile_suffix _).trans (List.reverse_suffix.mpr (List.takeWhile_prefix _))
      intro c hc
      rcases prefix_of_startsBlock hs with ⟨t, rfl⟩ | ⟨t, rfl⟩
      · obtain ⟨rfl, -⟩ := List.cons_prefix_cons.mp hp
        cases hc
        rfl
      · obtain ⟨rfl, hr⟩ := List.cons_prefix_cons.mp hp
        rw [dropDot, List.erase_cons_head] at hc
        cases r with
        | nil => cases hc
        | cons e r =>
            cases hc
            exact (List.cons_prefix_cons.mp hr).1
  · cases h

theorem startsNoComment_respellBlockLabel {t : Text} (h : StartsNoComment t) : StartsNoComment (respellBlockLabel t) := by
  rw [respellBlockLabel]
  cases hl : blockLabel? t with
  | none => exact h
  | some label =>
      have hhead := head?_blockLabel? hl
      refine startsNoComment_of_head? fun c hc => ?_
      rw [Option.getD_some, Text.trimStart_of_head? fun c hc => hhead c hc ▸ by decide] at hc
      exact hhead c hc ▸ by decide

theorem Jump.exists_mnemonic_of_ofLine? {line : Text} {j : Jump} (h : ofLine? line = some j) :
    j.indent = line.indent ∧ ∃ r, j.mnemonic = 'j' :: r := by
  unfold ofLine? at h
  split at h
  · simp only at h
    split at h
    · cases h
      exact ⟨rfl, _, rfl⟩
    · obtain ⟨⟨head, tail⟩, -, rfl⟩ := Option.map_eq_some_iff.mp h
      exact ⟨rfl, _, rfl⟩
  · cases h

theorem isBlank_of_mem_indent {t : Text} {c : Char} (h : c ∈ t.indent) : isBlank c = true :=
  List.all_eq_true.mp List.all_takeWhile c h

theorem startsNoComment_respellJump {t : Text} (h : StartsNoComment t) : StartsNoComment (respellJump t) := by
  unfold respellJump
  split
  · rename_i j hj
    obtain ⟨hindent, r, hm⟩ := Jump.exists_mnemonic_of_ofLine? hj
    have hrender : j.render = t.indent ++ 'J' :: (Text.toUpper r ++ (" ".toList ++ j.label)) := by
      rw [Jump.render, hindent, Jump.instruction, hm, List.append_assoc, List.append_assoc]
      rfl
    refine startsNoComment_of_head? fun c hc => ?_
    rw [hrender, Text.trimStart_append (fun c hc => isBlank_of_mem_indent hc) fun c hc => by cases hc; decide] at hc
    cases hc
    decide
  · exact h

theorem startsNoComment_respellCall {t : Text} (h : StartsNoComment t) : StartsNoComment (respellCall t) := by
  unfold respellCall
  split
  · rename_i callee hc
    refine startsNoComment_of_head? fun c hc => ?_
    rw [List.append_assoc, Text.trimStart_append (fun c hc => isBlank_of_mem_indent hc) fun c hc => by cases hc; decide] at hc
    cases hc
    decide
  · exact h

/-- A line that is guarded is settled. -/
theorem isSettled_guardedLine {line : Text} (hn : '\n' ∉ line) : IsSettled (guardedLine (stripComment line)) := by
  have hstrip : StartsNoComment (stripComment line) := fun d hd hp =>
    not_infix_stripComment hn hd (hp.isInfix.trans (List.dropWhile_suffix isBlank).isInfix)
  have hmark := startsNoComment_respellCall (startsNoComment_respellJump (startsNoComment_respellBlockLabel hstrip))
  rw [guardedLine, disableForeign]
  split
  · have hmargin : ∀ t : Text, Text.trimStart (disabledMargin ++ t) = "// ".toList ++ t := fun t => by
      rw [disabledMargin, List.append_assoc]
      exact Text.trimStart_append (fun c hc => List.eq_of_mem_replicate hc ▸ by decide) (fun c hc => by cases hc; decide)
    refine isSettled_of_head? fun c hc => ?_
    rw [disable, hmargin] at hc
    cases hc
    decide
  · rename_i hf
    exact isSettled_of_isForeign (Bool.eq_false_iff.mpr hf) hmark

/-! ## Unsupported instructions -/

theorem convertLine_eq_runSteps (table : Table) (layout : Layout) (line : Text) : convertLine table layout line =
    if isCommentOnly line || (stripComment line).includes alignDirective then .ok none
    else (runSteps (laterSteps table layout) (guardedLine (stripComment line))).map some := by
  rw [convertLine, runSteps_laterSteps, respell_eq_adjustOperands]

/-- What the guard passes has a colon in its first field or no small letter in front of it. -/
theorem firstField_of_isForeign {t : Text} (h : isForeign t = false) :
    ∀ field ∈ t.fields.head?, ':' ∈ field ∨ startsLowercase field = false := by
  intro field hfield
  unfold isForeign at h
  split at h
  · rename_i hnil
    rw [hnil] at hfield
    cases hfield
  · rename_i first fields hfields
    rw [hfields] at hfield
    cases hfield
    rcases Bool.and_eq_false_iff.mp h with hcolon | hlow
    · exact .inl (List.contains_iff_mem.mp (by simpa using hcolon))
    · exact .inr hlow

theorem isDisabled_disable (line : Text) : isDisabled (disable line) :=
  List.isPrefixOf_iff_prefix.mpr (List.prefix_append disabledMargin _)

/-- No converted line is an instruction in small letters: what is one when the guard looks at it is disabled, later
changes leave a disabled line disabled, and after none of them is the line an instruction in small letters. -/
theorem convertLine_disabled (table : Table) (layout : Layout) {line : Text} (hn : '\n' ∉ line) :
    (∀ out, convertLine table layout line = .ok (some out) →
      isDisabled out ∨ ∀ field ∈ out.fields.head?, ':' ∈ field ∨ startsLowercase field = false) ∧
    (convertLine table layout line =
      if isCommentOnly line || (stripComment line).includes alignDirective then .ok none
      else (runSteps (laterSteps table layout) (disableForeign (renamedLine (stripComment line)))).map some) ∧
    (∀ step ∈ laterSteps table layout, ∀ t out, step t = .ok out → isDisabled t → isDisabled out) ∧
    ∀ done, done <+: laterSteps table layout →
      ∀ out, runSteps done (disableForeign (renamedLine (stripComment line))) = .ok out →
        isForeign out = false ∧ (isForeign (renamedLine (stripComment line)) → isDisabled out) := by
  have hkeeps : ∀ step ∈ laterSteps table layout, ∀ t out, step t = .ok out → isDisabled t → isDisabled out :=
    fun step hs t out h => (tailChanges_of_mem_laterSteps hs h).isDisabled
  have hrun : ∀ done, done <+: laterSteps table layout →
      ∀ out, runSteps done (disableForeign (renamedLine (stripComment line))) = .ok out →
        isForeign out = false ∧ (isForeign (renamedLine (stripComment line)) → isDisabled out) := by
    intro done hd out hout
    constructor
    · have hsettled := runSteps_preserves (P := IsSettled) (fun step hs t out h =>
        (tailChanges_of_mem_laterSteps (hd.subset hs) h).isSettled) hout (isSettled_guardedLine hn)
      exact hsettled.isForeign
    · intro hf
      refine runSteps_preserves (P := fun t => isDisabled t) (fun step hs => hkeeps step (hd.subset hs)) hout ?_
      rw [disableForeign, if_pos hf]
      exact isDisabled_disable _
  refine ⟨fun out h => .inr fun field hfield => ?_, convertLine_eq_runSteps table layout line, hkeeps, hrun⟩
  rw [convertLine_eq_runSteps] at h
  split at h
  · cases h
  · obtain ⟨out', hout, he⟩ := exists_of_map_eq_ok h
    cases he
    exact firstField_of_isForeign (hrun _ (List.prefix_refl _) out hout).1 field hfield

/-- An addition, whose size marker is removed and whose operand is moved, stays disabled. -/
theorem convertLine_disabled_sample :
    let table : Table := { name := "LCDATA1".toList, labels := [⟨".LCPI0_1".toList, 32⟩] }
    let line := "\tvaddps\tymm0, ymm1, ymmword ptr [rip + .LCPI0_1]".toList
    let out := disabledMargin ++ "vaddps\tymm0, ymm1, 32[rbp] /* [rip + .LCPI0_1] */".toList
    '\n' ∉ line ∧ isForeign (renamedLine (stripComment line)) ∧
      convertLine table (.caller {}) line = .ok (some out) ∧ isDisabled out := by
  intro table line out
  have hn : '\n' ∉ line := by decide
  obtain ⟨hf, hkept, hout⟩ : isForeign (renamedLine (stripComment line)) ∧
      ¬ (isCommentOnly line || (stripComment line).includes alignDirective) ∧
      convertLine table (.caller {}) line = .ok (some out) := by
    decide +kernel
  obtain ⟨-, hconvert, -, hrun⟩ := convertLine_disabled table (.caller {}) hn
  rw [if_neg hkept, hout] at hconvert
  obtain ⟨out', hsteps, he⟩ := exists_of_map_eq_ok hconvert.symm
  cases he
  exact ⟨hn, hf, hout, (hrun _ (List.prefix_refl _) _ hsteps).2 hf⟩

end AsmBridge
