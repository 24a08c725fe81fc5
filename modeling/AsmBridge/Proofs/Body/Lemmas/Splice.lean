import AsmBridge.Proofs.Fault
import AsmBridge.Subroutine
import Mathlib.Data.List.Forall2
import Mathlib.Data.List.ReduceOption

/-!
# The body around the exit sequence

The lines before and after the compiler's exit sequence are converted one by one, and the new exit sequence stands
between what comes of them.
-/

namespace AsmBridge

/-- What takes the place of lines of which none belongs to the exit sequence. -/
def convertLines (table : Table) (layout : Layout) : List Text → Except Fault (List Text)
  | [] => .ok []
  | line :: lines => do
    let here ← convertLine table layout line
    let after ← convertLines table layout lines
    return here.toList ++ after

/-- Whether a line is dropped. -/
def isDropped (line : Text) : Bool :=
  isCommentOnly line || (stripComment line).includes alignDirective

/-- The lines that are not dropped. -/
def keptLines (lines : List Text) : List Text :=
  lines.filter (!isDropped ·)

/-- A line before its memory operands are looked at. -/
def respelledLine (line : Text) : Text :=
  respell (stripComment line)

/-- Whether one line becomes another. -/
def Converts (table : Table) (layout : Layout) (line converted : Text) : Prop :=
  convertLine table layout line = .ok (some converted)

/-- The lines outside the exit sequence. -/
def Epilogue.outside (e : Epilogue) (lines : List Text) : List Text :=
  lines.take e.start.toNat ++ lines.drop e.stop.toNat

theorem Epilogue.outside_subset (e : Epilogue) (lines : List Text) : e.outside lines ⊆ lines :=
  List.append_subset.mpr ⟨List.take_subset _ _, List.drop_subset _ _⟩

/-! ## Lines one by one -/

theorem convertLine_eq_if (table : Table) (layout : Layout) (line : Text) :
    convertLine table layout line =
      if isDropped line then .ok none else (resolveOperands table layout (respelledLine line)).map some :=
  rfl

theorem Converts.resolveOperands_eq {table : Table} {layout : Layout} {line converted : Text}
    (h : Converts table layout line converted) : resolveOperands table layout (respelledLine line) = .ok converted := by
  rw [Converts, convertLine_eq_if] at h
  split at h
  · cases h
  · obtain ⟨out, ho, he⟩ := exists_of_map_eq_ok h
    cases he
    exact ho

/-- Each line that is not dropped becomes one line, in order. -/
theorem forall₂_convertLines {table : Table} {layout : Layout} {lines out : List Text}
    (h : convertLines table layout lines = .ok out) :
    List.Forall₂ (Converts table layout) (keptLines lines) out := by
  induction lines generalizing out with
  | nil =>
      cases h
      exact .nil
  | cons line lines ih =>
      obtain ⟨here, hhere, h⟩ := exists_of_bind_eq_ok h
      obtain ⟨after, hafter, h⟩ := exists_of_bind_eq_ok h
      cases h
      have hkept : keptLines (line :: lines) = if isDropped line then keptLines lines else line :: keptLines lines := by
        rw [keptLines, List.filter_cons]
        cases isDropped line <;> rfl
      rw [hkept]
      by_cases hd : isDropped line = true
      · rw [if_pos hd]
        have hnone : here = none := by
          rw [convertLine_eq_if, if_pos hd] at hhere
          cases hhere
          rfl
        rw [hnone]
        exact ih hafter
      · rw [if_neg hd]
        obtain ⟨converted, rfl⟩ : ∃ converted, here = some converted := by
          rw [convertLine_eq_if, if_neg hd] at hhere
          obtain ⟨converted, -, rfl⟩ := exists_of_map_eq_ok hhere
          exact ⟨converted, rfl⟩
        exact .cons hhere (ih hafter)

/-- The lines that a line becomes, none where it is not converted. -/
def outputOf (table : Table) (layout : Layout) (line : Text) : List Text :=
  match convertLine table layout line with
  | .ok converted => converted.toList
  | .error _ => []

theorem outputOf_of_convertLine {table : Table} {layout : Layout} {line : Text} {converted : Option Text}
    (h : convertLine table layout line = .ok converted) : outputOf table layout line = converted.toList := by
  rw [outputOf, h]

/-- Lines become what each of them becomes, in order. -/
theorem eq_flatMap_of_convertLines {table : Table} {layout : Layout} {lines out : List Text}
    (h : convertLines table layout lines = .ok out) : out = lines.flatMap (outputOf table layout) := by
  induction lines generalizing out with
  | nil =>
      cases h
      rfl
  | cons line lines ih =>
      obtain ⟨here, hhere, h⟩ := exists_of_bind_eq_ok h
      obtain ⟨after, hafter, h⟩ := exists_of_bind_eq_ok h
      cases h
      rw [List.flatMap_cons, outputOf_of_convertLine hhere, ← ih hafter]

theorem convertLines_append (table : Table) (layout : Layout) (xs ys : List Text) :
    convertLines table layout (xs ++ ys) = do
      let before ← convertLines table layout xs
      let after ← convertLines table layout ys
      return before ++ after := by
  induction xs with
  | nil =>
      change convertLines table layout ys = convertLines table layout ys >>= fun after => .ok ([] ++ after)
      cases convertLines table layout ys <;> rfl
  | cons x xs ih =>
      rw [List.cons_append, convertLines, convertLines, ih]
      cases convertLine table layout x with
      | error fault => rfl
      | ok here =>
          cases convertLines table layout xs with
          | error fault => rfl
          | ok before =>
              cases convertLines table layout ys with
              | error fault => rfl
              | ok after => exact congrArg Except.ok (List.append_assoc here.toList before after).symm

/-- Whether all lines in front of a line are converted. -/
def IsReached (table : Table) (layout : Layout) (lines : List Text) (line : Text) : Prop :=
  ∃ before after, lines = before ++ line :: after ∧
    ∀ other ∈ before, ∃ converted, convertLine table layout other = .ok converted

/-- Whether a fault is that of the first line that is not converted. -/
def IsFirstFault (table : Table) (layout : Layout) (lines : List Text) (fault : Fault) : Prop :=
  ∃ line, IsReached table layout lines line ∧ convertLine table layout line = .error fault

theorem IsReached.mem {table : Table} {layout : Layout} {lines : List Text} {line : Text}
    (h : IsReached table layout lines line) : line ∈ lines := by
  obtain ⟨before, after, rfl, -⟩ := h
  exact List.mem_append_right before List.mem_cons_self

theorem convertLines_eq_error_iff {table : Table} {layout : Layout} {lines : List Text} {fault : Fault} :
    convertLines table layout lines = .error fault ↔ IsFirstFault table layout lines fault := by
  constructor
  · intro h
    induction lines with
    | nil => cases h
    | cons line lines ih =>
        rcases cases_of_bind_eq_error h with h | ⟨here, hhere, h⟩
        · exact ⟨line, ⟨[], lines, rfl, nofun⟩, h⟩
        · rcases cases_of_bind_eq_error h with h | ⟨after, -, h⟩
          · obtain ⟨other, ⟨before, rest, rfl, hbefore⟩, hother⟩ := ih h
            exact ⟨other, ⟨line :: before, rest, rfl, List.forall_mem_cons.mpr ⟨⟨here, hhere⟩, hbefore⟩⟩, hother⟩
          · cases h
  · rintro ⟨line, ⟨before, after, rfl, hbefore⟩, hline⟩
    induction before with
    | nil =>
        rw [List.nil_append, convertLines, hline]
        rfl
    | cons other before ih =>
        obtain ⟨⟨converted, hother⟩, hbefore⟩ := List.forall_mem_cons.mp hbefore
        rw [List.cons_append, convertLines, hother, ih hbefore]
        rfl

/-- Lines are converted one by one, and those without an answer are left out. -/
theorem convertLines_eq_mapM (table : Table) (layout : Layout) (lines : List Text) :
    convertLines table layout lines = (lines.mapM (convertLine table layout)).map List.reduceOption := by
  induction lines with
  | nil => rfl
  | cons line lines ih =>
      rw [convertLines, List.mapM_cons, ih]
      cases convertLine table layout line with
      | error fault => rfl
      | ok here =>
          cases lines.mapM (convertLine table layout) with
          | error fault => rfl
          | ok after => cases here <;> rfl

theorem exists_mem_iff_of_forall₂ {α β : Type} {r : α → β → Prop} {p : α → Prop} {q : β → Prop} {xs : List α} {ys : List β}
    (h : List.Forall₂ r xs ys) (hpq : ∀ x ∈ xs, ∀ y, r x y → (p x ↔ q y)) : (∃ x ∈ xs, p x) ↔ ∃ y ∈ ys, q y := by
  induction h with
  | nil => simp only [List.not_mem_nil, false_and, exists_false]
  | cons hr _ ih =>
      rw [List.exists_mem_cons_iff, List.exists_mem_cons_iff, hpq _ List.mem_cons_self _ hr,
        ih fun x hx => hpq x (List.mem_cons_of_mem _ hx)]

theorem exists_mem_of_forall₂ {α β : Type} {r : α → β → Prop} {xs : List α} {ys : List β} (h : List.Forall₂ r xs ys)
    {x : α} (hx : x ∈ xs) : ∃ y ∈ ys, r x y := by
  induction h with
  | nil => exact absurd hx List.not_mem_nil
  | cons hr _ ih =>
      rcases List.mem_cons.mp hx with rfl | hx
      · exact ⟨_, List.mem_cons_self, hr⟩
      · obtain ⟨y, hy, hxy⟩ := ih hx
        exact ⟨y, List.mem_cons_of_mem _ hy, hxy⟩

/-! ## Lines numbered from an index on -/

section

variable (e : Epilogue) (table : Table) (layout : Layout)

theorem convertFrom_append (index : Nat) (xs ys : List Text) :
    convertFrom e table layout index (xs ++ ys) = do
      let before ← convertFrom e table layout index xs
      let after ← convertFrom e table layout (index + xs.length) ys
      return before ++ after := by
  induction xs generalizing index with
  | nil =>
      rw [List.nil_append, List.length_nil, Nat.add_zero]
      change _ = convertFrom e table layout index ys >>= fun after => .ok ([] ++ after)
      cases convertFrom e table layout index ys <;> rfl
  | cons x xs ih =>
      rw [List.cons_append, convertFrom, convertFrom, ih, List.length_cons, Nat.add_comm xs.length 1, ← Nat.add_assoc]
      cases convertAt e table layout index x with
      | error fault => rfl
      | ok here =>
          cases convertFrom e table layout (index + 1) xs with
          | error fault => rfl
          | ok before =>
              cases convertFrom e table layout (index + 1 + xs.length) ys with
              | error fault => rfl
              | ok after => exact congrArg Except.ok (List.append_assoc here before after).symm

variable {e}

theorem convertFrom_outside {index : Nat} {lines : List Text} (h : ∀ i < lines.length, e.covers (index + i) = false) :
    convertFrom e table layout index lines = convertLines table layout lines := by
  induction lines generalizing index with
  | nil => rfl
  | cons line lines ih =>
      have hhere : e.covers index = false := h 0 (Nat.succ_pos _)
      have hafter : convertFrom e table layout (index + 1) lines = convertLines table layout lines := ih fun i hi => by
        rw [Nat.add_assoc, Nat.add_comm 1 i]
        exact h (i + 1) (Nat.succ_lt_succ hi)
      rw [convertFrom, convertLines, hafter, convertAt, hhere]
      cases convertLine table layout line <;> rfl

/-- The last line of the exit sequence gives way to the new one, and the others to nothing. -/
theorem convertFrom_inside {index : Nat} {lines : List Text} (hc : ∀ i < lines.length, e.covers (index + i) = true)
    (he : ∀ i < lines.length, e.endsAt (index + i) = decide (i + 1 = lines.length)) :
    convertFrom e table layout index lines = .ok (if lines = [] then [] else epilogueLines e.frame) := by
  induction lines generalizing index with
  | nil => rfl
  | cons line lines ih =>
      have hhere : e.covers index = true := hc 0 (Nat.succ_pos _)
      have hend : e.endsAt index = decide (1 = lines.length + 1) := he 0 (Nat.succ_pos _)
      have hafter : convertFrom e table layout (index + 1) lines =
          .ok (if lines = [] then [] else epilogueLines e.frame) := ih
        (fun i hi => by
          rw [Nat.add_assoc, Nat.add_comm 1 i]
          exact hc (i + 1) (Nat.succ_lt_succ hi))
        (fun i hi => by
          rw [Nat.add_assoc, Nat.add_comm 1 i, he (i + 1) (Nat.succ_lt_succ hi), List.length_cons, decide_eq_decide]
          exact Nat.succ_inj)
      rw [convertFrom, hafter, convertAt, hhere, hend]
      cases lines with
      | nil => exact congrArg Except.ok (List.append_nil _)
      | cons line' lines => rfl

/-- The new exit sequence stands between what comes of the lines before the old one and of those after it. -/
theorem convertFrom_splice {before inside after : List Text} (hs : e.start = before.length)
    (ht : e.stop = before.length + inside.length) :
    convertFrom e table layout 0 (before ++ (inside ++ after)) = do
      let before ← convertLines table layout before
      let after ← convertLines table layout after
      return before ++ ((if inside = [] then [] else epilogueLines e.frame) ++ after) := by
  have hbefore : convertFrom e table layout 0 before = convertLines table layout before :=
    convertFrom_outside table layout fun i hi => by
      simp only [Epilogue.covers, Bool.and_eq_false_iff, decide_eq_false_iff_not]
      omega
  have hinside : convertFrom e table layout (0 + before.length) inside =
      .ok (if inside = [] then [] else epilogueLines e.frame) := by
    refine convertFrom_inside table layout (fun i hi => ?_) fun i hi => ?_
    · simp only [Epilogue.covers, Bool.and_eq_true, decide_eq_true_eq]
      omega
    · rw [Epilogue.endsAt, decide_eq_decide]
      omega
  have hafter : convertFrom e table layout (0 + before.length + inside.length) after =
      convertLines table layout after :=
    convertFrom_outside table layout fun i hi => by
      simp only [Epilogue.covers, Bool.and_eq_false_iff, decide_eq_false_iff_not]
      omega
  rw [convertFrom_append, convertFrom_append, hbefore, hinside, hafter]
  cases convertLines table layout before with
  | error fault => rfl
  | ok before => cases convertLines table layout after <;> rfl

end

/-! ## The whole body -/

theorem Epilogue.fits_iff {e : Epilogue} {count : Int} : e.fits count = true ↔ 0 ≤ e.start ∧ e.start ≤ e.stop ∧ e.stop ≤ count := by
  simp only [fits, Bool.and_eq_true, decide_eq_true_eq, and_assoc]

/-- The layout that the operands of a body are resolved in. -/
def Epilogue.layout (e : Epilogue) (args : StackArgs) (table : Table) : Layout :=
  .select args e.frame.realigned table.isPresent

theorem convertBody_of_not_fits {lines : List Text} {e : Epilogue} (hf : e.fits lines.length = false) (args : StackArgs)
    (table : Table) : convertBody lines e args table = .error (.epilogueRange e.start e.stop lines.length) := by
  have hcheck : e.check lines.length = .error (.epilogueRange e.start e.stop lines.length) :=
    if_neg (Bool.eq_false_iff.mp hf)
  rw [convertBody, hcheck]
  rfl

theorem convertBody_eq {lines : List Text} {e : Epilogue} (hf : e.fits lines.length) (args : StackArgs) (table : Table) :
    convertBody lines e args table = do
      let before ← convertLines table (e.layout args table) (lines.take e.start.toNat)
      let after ← convertLines table (e.layout args table) (lines.drop e.stop.toNat)
      return before ++ ((if e.start < e.stop then epilogueLines e.frame else []) ++ after) := by
  obtain ⟨h0, hse, hel⟩ := Epilogue.fits_iff.mp hf
  have hlines : lines = lines.take e.start.toNat ++
      ((lines.drop e.start.toNat).take (e.stop.toNat - e.start.toNat) ++ lines.drop e.stop.toNat) := by
    have hdrop : lines.drop e.stop.toNat = (lines.drop e.start.toNat).drop (e.stop.toNat - e.start.toNat) := by
      rw [List.drop_drop]
      congr 1
      omega
    rw [hdrop, List.take_append_drop, List.take_append_drop]
  have hstart : (lines.take e.start.toNat).length = e.start.toNat := by
    rw [List.length_take]
    omega
  have hinside : ((lines.drop e.start.toNat).take (e.stop.toNat - e.start.toNat)).length = e.stop.toNat - e.start.toNat := by
    rw [List.length_take, List.length_drop]
    omega
  have hempty : (lines.drop e.start.toNat).take (e.stop.toNat - e.start.toNat) = [] ↔ ¬ e.start < e.stop := by
    rw [← List.length_eq_zero_iff, hinside]
    omega
  have hcheck : e.check lines.length = .ok () := if_pos hf
  rw [convertBody, hcheck]
  change convertFrom e table (e.layout args table) 0 lines = _
  conv => lhs; rw [hlines]
  rw [convertFrom_splice table _ (by omega) (by omega)]
  simp only [hempty, ite_not]

/-- A body is refused for the first of its lines outside the exit sequence that is not converted. -/
theorem convertBody_eq_error_iff {lines : List Text} {e : Epilogue} (hf : e.fits lines.length) {args : StackArgs} {table : Table}
    {fault : Fault} : convertBody lines e args table = .error fault ↔
      IsFirstFault table (e.layout args table) (e.outside lines) fault := by
  rw [← convertLines_eq_error_iff, Epilogue.outside, convertLines_append, convertBody_eq hf]
  cases convertLines table (e.layout args table) (lines.take e.start.toNat) with
  | error other => rfl
  | ok before =>
      cases convertLines table (e.layout args table) (lines.drop e.stop.toNat) with
      | error other => rfl
      | ok after => exact iff_of_false nofun nofun

/-- A body around its exit sequence becomes what its lines become around the new one. -/
theorem eq_splice_of_convertBody {before exit after out : List Text} {e : Epilogue} {args : StackArgs} {table : Table}
    (hs : e.start = before.length) (ht : e.stop = before.length + exit.length) (hne : exit ≠ [])
    (h : convertBody (before ++ (exit ++ after)) e args table = .ok out) :
    out = before.flatMap (outputOf table (e.layout args table)) ++
      (epilogueLines e.frame ++ after.flatMap (outputOf table (e.layout args table))) := by
  unfold convertBody at h
  obtain ⟨-, -, h⟩ := exists_of_bind_eq_ok h
  rw [convertFrom_splice table _ hs ht, if_neg hne] at h
  obtain ⟨front, hfront, h⟩ := exists_of_bind_eq_ok h
  obtain ⟨back, hback, h⟩ := exists_of_bind_eq_ok h
  cases h
  rw [eq_flatMap_of_convertLines hfront, eq_flatMap_of_convertLines hback]
  rfl

theorem keptLines_outside (e : Epilogue) (lines : List Text) : keptLines (e.outside lines) =
    keptLines (lines.take e.start.toNat) ++ keptLines (lines.drop e.stop.toNat) :=
  List.filter_append _ _

/-- What a body that is converted becomes. -/
theorem exists_of_convertBody {lines out : List Text} {e : Epilogue} {args : StackArgs} {table : Table}
    (h : convertBody lines e args table = .ok out) :
    e.fits lines.length ∧ ∃ before after,
      List.Forall₂ (Converts table (e.layout args table)) (keptLines (lines.take e.start.toNat)) before ∧
      List.Forall₂ (Converts table (e.layout args table)) (keptLines (lines.drop e.stop.toNat)) after ∧
      out = before ++ ((if e.start < e.stop then epilogueLines e.frame else []) ++ after) := by
  have hf : e.fits lines.length = true := by
    by_contra hf
    rw [convertBody_of_not_fits (Bool.eq_false_iff.mpr hf)] at h
    cases h
  rw [convertBody_eq hf] at h
  obtain ⟨before, hbefore, h⟩ := exists_of_bind_eq_ok h
  obtain ⟨after, hafter, h⟩ := exists_of_bind_eq_ok h
  cases h
  exact ⟨hf, before, after, forall₂_convertLines hbefore, forall₂_convertLines hafter, rfl⟩

/-- A line outside the exit sequence that is not dropped becomes a line of the body. -/
theorem exists_converts_of_mem_outside {lines out : List Text} {e : Epilogue} {args : StackArgs} {table : Table}
    (h : convertBody lines e args table = .ok out) {line : Text} (hl : line ∈ e.outside lines) (hd : isDropped line = false) :
    ∃ converted ∈ out, Converts table (e.layout args table) line converted := by
  obtain ⟨-, before, after, hbefore, hafter, rfl⟩ := exists_of_convertBody h
  have hk : line ∈ keptLines (e.outside lines) := List.mem_filter.mpr ⟨hl, by simp [hd]⟩
  rw [keptLines_outside] at hk
  rcases List.mem_append.mp hk with hk | hk
  · obtain ⟨converted, hm, hc⟩ := exists_mem_of_forall₂ hbefore hk
    exact ⟨converted, List.mem_append_left _ hm, hc⟩
  · obtain ⟨converted, hm, hc⟩ := exists_mem_of_forall₂ hafter hk
    exact ⟨converted, List.mem_append_right _ (List.mem_append_right _ hm), hc⟩

end AsmBridge
