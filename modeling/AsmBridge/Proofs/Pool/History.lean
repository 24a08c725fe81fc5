import AsmBridge.Proofs.Pool.Totality

/-!
# The history of a pool

A pool is filled by calls: the lines of a listing are read up to the first fault that becomes no warning, or a directive is
applied. Each line and each directive is a step, whatever its fault is. A step only adds to a pool, and only in a section with
constants, and a label is where its last definition was.
-/

namespace AsmBridge

namespace Pool

/-! ## Calls and steps -/

/-- What changes a pool: a line with a number, or a directive with its operands. -/
inductive Step
  | line (number : Nat) (text : Text)
  | directive (name : Text) (operands : List Text)

/-- The pool after a step, and the fault of the step. -/
def step (p : Pool) : Step → Pool × Option Fault
  | .line number text => p.readLine number text
  | .directive name operands => p.feed name operands

/-- The pool after steps, whatever their faults are. -/
def after (p : Pool) (steps : List Step) : Pool :=
  steps.foldl (fun q s => (q.step s).1) p

/-- What a pool is asked for: to read a listing, or to apply a directive. -/
inductive Call
  | listing (lines : List Text)
  | directive (name : Text) (operands : List Text)

/-- The pool after a call, and the fault that ended it. -/
def call (p : Pool) : Call → Pool × Option Fault
  | .listing lines => p.readLines 1 lines
  | .directive name operands => p.feed name operands

/-- The pool after calls, whatever their faults are. -/
def afterCalls (p : Pool) (calls : List Call) : Pool :=
  calls.foldl (fun q c => (q.call c).1) p

/-- The lines that are read of those numbered from `number` on: none behind a fault. -/
def lineSteps (p : Pool) (number : Nat) : List Text → List Step
  | [] => []
  | line :: lines =>
    .line number line ::
      match p.readLine number line with
      | (q, none) => q.lineSteps (number + 1) lines
      | (_, some _) => []

/-- The steps of a call. -/
def callSteps (p : Pool) : Call → List Step
  | .listing lines => p.lineSteps 1 lines
  | .directive name operands => [.directive name operands]

/-- The steps of calls that are made one after another. -/
def steps (p : Pool) : List Call → List Step
  | [] => []
  | c :: calls => p.callSteps c ++ (p.call c).1.steps calls

theorem after_append (p : Pool) (xs ys : List Step) : p.after (xs ++ ys) = (p.after xs).after ys :=
  List.foldl_append

theorem after_concat (p : Pool) (xs : List Step) (s : Step) : p.after (xs ++ [s]) = ((p.after xs).step s).1 :=
  p.after_append xs [s]

theorem after_take_add_one (p : Pool) {steps : List Step} {s : Step} {i : Nat} (h : steps[i]? = some s) :
    p.after (steps.take (i + 1)) = ((p.after (steps.take i)).step s).1 := by
  rw [List.take_add_one, h, Option.toList_some, after_concat]

theorem after_lineSteps (p : Pool) (number : Nat) (lines : List Text) :
    p.after (p.lineSteps number lines) = (p.readLines number lines).1 := by
  induction lines generalizing p number with
  | nil => rfl
  | cons line lines ih =>
      have hline (rest : List Step) : p.after (.line number line :: rest) = (p.readLine number line).1.after rest := rfl
      rw [lineSteps, hline, readLines]
      generalize p.readLine number line = result
      obtain ⟨q, _ | fault⟩ := result
      · exact ih q (number + 1)
      · rfl

/-- Calls come to the same pool as their steps. -/
theorem after_steps (p : Pool) (calls : List Call) : p.after (p.steps calls) = p.afterCalls calls := by
  induction calls generalizing p with
  | nil => rfl
  | cons c calls ih =>
      have hcall : p.after (p.callSteps c) = (p.call c).1 := by
        cases c with
        | listing lines => exact p.after_lineSteps 1 lines
        | directive name operands => rfl
      rw [steps, after_append, hcall, ih]
      rfl

/-! ## One step -/

/-- What a step leaves of a pool: bytes, warnings and names stay in front of those that are added, and outside the sections
with constants only the section changes. -/
structure Grows (p q : Pool) : Prop where
  data : p.data <+: q.data
  warnings : p.warnings <+: q.warnings
  names : p.labels.map (·.1) <+: q.labels.map (·.1)
  outside : p.inConstants = false → q = { p with inConstants := q.inConstants }

/-- Whether a step defines a name: it is a line with that label in a section with constants. -/
def Defines (p : Pool) (s : Step) (name : Text) : Prop :=
  p.inConstants = true ∧ ∃ number text, s = .line number text ∧ label? text = some name

theorem grows_feed (p : Pool) (directive : Text) (operands : List Text) : p.Grows (p.feed directive operands).1 where
  data := (p.extends_feed directive operands).data
  warnings := p.warnings_prefix_feed directive operands
  names := (p.extends_feed directive operands).labels ▸ List.prefix_refl _
  outside h := by rw [feed_of_not_inConstants h]

theorem names_prefix_readLine (p : Pool) (number : Nat) (line : Text) :
    p.labels.map (·.1) <+: (p.readLine number line).1.labels.map (·.1) := by
  cases hl : label? line with
  | none => exact (extends_readLine hl).labels ▸ List.prefix_refl _
  | some name =>
      rw [readLine_of_label? hl, define]
      split
      · exact names_prefix_putLabel name p.data.length p.labels
      · exact List.prefix_refl _

theorem grows_step (p : Pool) (s : Step) : p.Grows (p.step s).1 := by
  cases s with
  | line number text =>
      exact {
        data := p.data_prefix_readLine number text
        warnings := p.warnings_prefix_readLine number text
        names := p.names_prefix_readLine number text
        outside := fun h => by rw [step, readLine_eq_of_not_inConstants h] }
  | directive name operands => exact p.grows_feed name operands

theorem wellPlaced_step {p : Pool} (h : p.WellPlaced) (s : Step) : (p.step s).1.WellPlaced := by
  cases s with
  | line number text => exact wellPlaced_readLine h number text
  | directive name operands => exact (p.extends_feed name operands).wellPlaced h

theorem lookup_labels_of_defines {p : Pool} {s : Step} {name : Text} (h : p.Defines s name) :
    (p.step s).1.labels.lookup name = some p.data.length := by
  obtain ⟨hc, number, text, rfl, hl⟩ := h
  rw [step, lookup_labels_readLine, if_pos ⟨hc, hl⟩]

theorem lookup_labels_of_not_defines {p : Pool} {s : Step} {name : Text} (h : ¬ p.Defines s name) :
    (p.step s).1.labels.lookup name = p.labels.lookup name := by
  cases s with
  | line number text =>
      rw [step, lookup_labels_readLine, if_neg]
      exact fun hl => h ⟨hl.1, number, text, rfl, hl.2⟩
  | directive directive operands => rw [step, (p.extends_feed directive operands).labels]

/-! ## All steps -/

/-- Whether the step at an index defines a name. -/
def DefinesAt (p : Pool) (steps : List Step) (i : Nat) (name : Text) : Prop :=
  ∃ s, steps[i]? = some s ∧ (p.after (steps.take i)).Defines s name

/-- Whether the last step that defines a name is made when the bytes have a length. -/
def LastDefinedAt (p : Pool) (steps : List Step) (name : Text) (length : Nat) : Prop :=
  ∃ i, p.DefinesAt steps i name ∧ length = (p.after (steps.take i)).data.length ∧ ∀ j, i < j → ¬ p.DefinesAt steps j name

section

variable {p : Pool} {steps : List Step} {s : Step} {i : Nat} {name : Text} {length : Nat}

theorem DefinesAt.lt (h : p.DefinesAt steps i name) : i < steps.length := by
  obtain ⟨s, hs, -⟩ := h
  exact (List.getElem?_eq_some_iff.mp hs).1

theorem definesAt_concat_iff : p.DefinesAt (steps ++ [s]) i name ↔
    p.DefinesAt steps i name ∨ i = steps.length ∧ (p.after steps).Defines s name := by
  rcases lt_trichotomy i steps.length with hi | rfl | hi
  · rw [or_iff_left fun h => hi.ne h.1, DefinesAt, DefinesAt, List.getElem?_append_left hi,
      List.take_append_of_le_length hi.le]
  · rw [or_iff_right fun h => Nat.lt_irrefl _ h.lt]
    simp [DefinesAt]
  · refine iff_of_false (fun h => ?_) (not_or.mpr ⟨fun h => Nat.lt_asymm hi h.lt, fun h => hi.ne' h.1⟩)
    have hlt := h.lt
    rw [List.length_append, List.length_singleton] at hlt
    exact Nat.not_lt.mpr (Nat.succ_le_of_lt hi) hlt

theorem lastDefinedAt_concat_of_defines (h : (p.after steps).Defines s name) :
    p.LastDefinedAt (steps ++ [s]) name length ↔ length = (p.after steps).data.length := by
  have hlast : p.DefinesAt (steps ++ [s]) steps.length name := definesAt_concat_iff.mpr (.inr ⟨rfl, h⟩)
  have hbound {j : Nat} (hj : p.DefinesAt (steps ++ [s]) j name) : j ≤ steps.length :=
    (definesAt_concat_iff.mp hj).elim (fun hj => hj.lt.le) fun hj => hj.1.le
  constructor
  · rintro ⟨i, hi, hlength, hbehind⟩
    obtain rfl : i = steps.length := (hbound hi).eq_of_not_lt fun hlt => hbehind _ hlt hlast
    rwa [List.take_left] at hlength
  · intro hlength
    refine ⟨steps.length, hlast, ?_, fun j hj hdefines => absurd (hbound hdefines) (Nat.not_le.mpr hj)⟩
    rwa [List.take_left]

theorem lastDefinedAt_concat_of_not_defines (h : ¬ (p.after steps).Defines s name) :
    p.LastDefinedAt (steps ++ [s]) name length ↔ p.LastDefinedAt steps name length := by
  have hsame (i : Nat) : p.DefinesAt (steps ++ [s]) i name ↔ p.DefinesAt steps i name :=
    definesAt_concat_iff.trans (or_iff_left fun hlast => h hlast.2)
  simp only [LastDefinedAt, hsame]
  refine exists_congr fun i => and_congr_right fun hi => and_congr_left' ?_
  rw [List.take_append_of_le_length hi.lt.le]

theorem wellPlaced_after (h : p.WellPlaced) (steps : List Step) : (p.after steps).WellPlaced := by
  induction steps using List.reverseRecOn with
  | nil => exact h
  | append_singleton steps s ih =>
      rw [after_concat]
      exact wellPlaced_step ih s

theorem lookup_labels_after (h : p.labels = []) (steps : List Step) (name : Text) (length : Nat) :
    (p.after steps).labels.lookup name = some length ↔ p.LastDefinedAt steps name length := by
  induction steps using List.reverseRecOn with
  | nil =>
      rw [after, List.foldl_nil, h]
      refine iff_of_false (by simp) ?_
      rintro ⟨i, hi, -⟩
      exact Nat.not_lt_zero i hi.lt
  | append_singleton steps s ih =>
      rw [after_concat]
      by_cases hs : (p.after steps).Defines s name
      · rw [lookup_labels_of_defines hs, lastDefinedAt_concat_of_defines hs, Option.some.injEq, eq_comm]
      · rw [lookup_labels_of_not_defines hs, lastDefinedAt_concat_of_not_defines hs, ih]

end

/-- After every step of any calls, a pool has what it had, and outside the sections with constants it is the same but for the
section. Directives leave the labels; a label is there exactly if a step has defined it, at the length that the bytes had
when the last step did. So the table of a listing has each name once, within the bytes or at their end. -/
theorem steps_grow (calls : List Call) :
    let steps := ({} : Pool).steps calls
    let state (i : Nat) := ({} : Pool).after (steps.take i)
    state steps.length = ({} : Pool).afterCalls calls ∧
      (∀ i s, steps[i]? = some s →
        state (i + 1) = ((state i).step s).1 ∧ (state i).Grows (state (i + 1)) ∧ (state (i + 1)).WellPlaced ∧
          (∀ directive operands, s = .directive directive operands → (state (i + 1)).labels = (state i).labels) ∧
          ∀ name offset, (name, offset) ∈ (state (i + 1)).labels ↔ ({} : Pool).LastDefinedAt (steps.take (i + 1)) name offset) ∧
      ∀ lines pool table, ofListing lines = .ok pool →
        ((pool.table table).labels.map (·.name)).Nodup ∧
          ∀ label ∈ (pool.table table).labels, 0 ≤ label.offset ∧ label.offset ≤ pool.data.length := by
  intro steps state
  refine ⟨?_, fun i s hs => ?_, fun lines pool table h => ?_⟩
  · rw [← after_steps]
    exact congrArg _ List.take_length
  · have hstep : state (i + 1) = ((state i).step s).1 := after_take_add_one _ hs
    have hplaced : (state (i + 1)).WellPlaced := wellPlaced_after wellPlaced_empty _
    refine ⟨hstep, hstep ▸ (state i).grows_step s, hplaced, ?_, fun name offset => ?_⟩
    · rintro directive operands rfl
      rw [hstep]
      exact ((state i).extends_feed directive operands).labels
    · rw [← lookup_eq_some_iff_mem hplaced.nodup]
      exact lookup_labels_after rfl _ name offset
  · have hplaced := wellPlaced_of_ofListing h
    exact ⟨hplaced.nodup_table table, hplaced.offset_table table⟩

end Pool

end AsmBridge
