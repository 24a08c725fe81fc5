import AsmBridge.Proofs.Conversion.Lemmas.Report
import AsmBridge.Proofs.Pool.Lemmas.Reference

/-!
# Functions one by one

What a report has of a function depends on the function, on the constants of the listing and on the count that is declared
for the function's name. The report puts the outcomes one after the other, in the order of the listing.
-/

namespace AsmBridge

/-! ## The outcome of a function -/

/-- The stack arguments of a function of a shape that has `count` arguments. -/
def Shape.stackArgs (shape : Shape) (count : Int) : StackArgs :=
  { number := (max 0 (count - registerCount)).toNat, offsetToFirst := shape.offsetToFirst }

/-- What becomes of a function where `count?` is the count that is declared for its name. No other function and no other
count has a part in it. -/
inductive Function.Becomes (table : Table) (f : Function) : Option Int → Except Fault (List Text) → Prop
  | undeclared : Becomes table f none (.error (.undeclared f.name))
  | shapeless {count : Int} {fault : Fault} (hs : Shape.ofFunction f = .error fault) :
    Becomes table f (some count) (.error fault)
  | unresolved {count : Int} {shape : Shape} {fault : Fault} (hs : Shape.ofFunction f = .ok shape)
    (hu : restrictTable table shape.body = .error fault) : Becomes table f (some count) (.error fault)
  | refused {count : Int} {shape : Shape} {used : Table} {fault : Fault} (hs : Shape.ofFunction f = .ok shape)
    (hu : restrictTable table shape.body = .ok used)
    (hb : convertBody shape.body shape.epilogue (shape.stackArgs count) used = .error fault) :
    Becomes table f (some count) (.error fault)
  | converted {count : Int} {shape : Shape} {used : Table} {body : List Text} (hs : Shape.ofFunction f = .ok shape)
    (hu : restrictTable table shape.body = .ok used)
    (hb : convertBody shape.body shape.epilogue (shape.stackArgs count) used = .ok body) :
    Becomes table f (some count) (.ok (prologueLines shape.epilogue.frame f.name count.toNat used ++ body))

section

variable {table : Table} {f : Function}

theorem Outcome.convertShape_eq_bind (name : Text) (count : Int) (shape : Shape) :
    convertShape table name count shape = restrictTable table shape.body >>= fun used =>
      convertBody shape.body shape.epilogue (shape.stackArgs count) used >>= fun body =>
        .ok (prologueLines shape.epilogue.frame name count.toNat used ++ body) := by
  have hargs : shape.stackArgs count = { number := count.toNat - registerCount, offsetToFirst := shape.offsetToFirst } := by
    rw [Shape.stackArgs]
    congr 1
    omega
  rw [hargs]
  rfl

/-- A function becomes one thing only. -/
theorem Function.Becomes.unique {count? : Option Int} {first second : Except Fault (List Text)}
    (h : f.Becomes table count? first) (h' : f.Becomes table count? second) : first = second := by
  cases h with
  | undeclared =>
      cases h'
      rfl
  | shapeless hs => cases h' <;> simp_all
  | unresolved hs hu => cases h' <;> simp_all
  | refused hs hu hb => cases h' <;> simp_all
  | converted hs hu hb => cases h' <;> simp_all

theorem Outcome.becomes (counts : ArgumentCounts) :
    f.Becomes table (counts.lookup f.name) (Outcome.ofFunction counts table f).block := by
  unfold ofFunction
  cases counts.lookup f.name with
  | none => exact .undeclared
  | some count =>
      cases hs : Shape.ofFunction f with
      | error fault => exact .shapeless hs
      | ok shape =>
          simp only [convertShape_eq_bind]
          cases hu : restrictTable table shape.body with
          | error fault => exact .unresolved hs hu
          | ok used =>
              change f.Becomes table _ (convertBody _ _ _ used >>= _)
              cases hb : convertBody shape.body shape.epilogue (shape.stackArgs count) used with
              | error fault => exact .refused hs hu hb
              | ok body => exact .converted hs hu hb

/-- Only a fault that concerns more than the function ends the run. -/
theorem Function.Becomes.fatal?_eq_none_iff {counts : ArgumentCounts} {outcome : Except Fault (List Text)}
    (h : f.Becomes table (counts.lookup f.name) outcome) :
    (Outcome.ofFunction counts table f).fatal? = none ↔ ∀ fault, outcome = .error fault → fault.isLocal = true := by
  rw [Outcome.fatal?, (Outcome.becomes counts).unique h]
  cases outcome with
  | ok block => simp
  | error fault => simp

end

/-! ## The report -/

/-- The lines that an outcome adds to the output. -/
def outcomeLines : Except Fault (List Text) → List Text
  | .ok block => block ++ [[]]
  | .error _ => []

/-- The error that an outcome adds. -/
def outcomeError? (name : Text) : Except Fault (List Text) → Option Text
  | .ok _ => none
  | .error fault => some (name ++ ": ".toList ++ fault.message)

theorem Outcome.lines_eq (o : Outcome) : o.lines = outcomeLines o.block := by
  obtain ⟨name, shape, block⟩ := o
  cases block <;> rfl

theorem Outcome.error?_eq (o : Outcome) : o.error? = outcomeError? o.name o.block := by
  obtain ⟨name, shape, block⟩ := o
  cases block <;> rfl

/-- A report on functions is put together from their outcomes. -/
structure Report.Composes (report : Report) (pool : Pool) (table : Table) (functions : List Function)
    (outcome : Function → Except Fault (List Text)) : Prop where
  lines : report.lines = fileHeader ++ (if table.labels = [] then [] else dataLines table.name pool.data ++ [[]]) ++
    functions.flatMap fun f => outcomeLines (outcome f)
  subroutines : report.subroutines = (functions.filter fun f => (outcome f).isOk).map (·.name)
  errors : report.errors = functions.filterMap fun f => outcomeError? f.name (outcome f)
  warnings : report.warnings = pool.warnings
  /-- What is wrong with a function does not end the run. -/
  isLocal : ∀ f ∈ functions, ∀ fault, outcome f = .error fault → fault.isLocal = true

theorem Report.composes_of_convert {source : Text} {counts : ArgumentCounts} {settings : Settings} {report : Report}
    (he : settings.encode = false) (h : convert source counts settings = .ok report) :
    ∃ pool, Pool.ofListing source.splitLines = .ok pool ∧
      report.Composes pool (pool.table settings.tableName) (Function.ofListing source.splitLines)
        fun f => (Outcome.ofFunction counts (pool.table settings.tableName) f).block := by
  obtain ⟨plain, hp, rfl⟩ := exists_of_map_eq_ok h
  rw [if_neg (Bool.eq_false_iff.mp he)]
  obtain ⟨pool, hpool, hp⟩ := exists_of_bind_eq_ok hp
  refine ⟨pool, hpool, ?_⟩
  simp only at hp
  split at hp
  · cases hp
  · rename_i hfatal
    cases hp
    have hpreamble (table : Table) : preamble pool table =
        fileHeader ++ (if table.labels = [] then [] else dataLines table.name pool.data ++ [[]]) := by
      rw [preamble, Table.isPresent]
      cases table.labels <;> rfl
    exact {
      lines := by simp only [hpreamble, List.flatMap_map, Outcome.lines_eq]
      subroutines := filterMap_converted? _
      errors := by simp only [List.filterMap_map, Function.comp_def, Outcome.error?_eq, Outcome.name_ofFunction]
      warnings := rfl
      isLocal := by
        intro f hf fault hb
        have hnone := List.findSome?_eq_none_iff.mp hfatal _ (List.mem_map_of_mem hf)
        rw [Outcome.fatal?, hb] at hnone
        simpa using hnone }

/-- A report has one outcome for each function, in the order of the listing. Two runs have the same outcome for a function
where their counts for its name agree, whatever becomes of the other functions. -/
theorem convert_composes {source : Text} {counts counts' : ArgumentCounts} {settings : Settings} {report report' : Report}
    (he : settings.encode = false) (h : convert source counts settings = .ok report)
    (h' : convert source counts' settings = .ok report') :
    ∃ pool outcome outcome', Pool.ofListing source.splitLines = .ok pool ∧
      let table := pool.table settings.tableName
      let functions := Function.ofListing source.splitLines
      (report.Composes pool table functions outcome ∧ ∀ f ∈ functions, f.Becomes table (counts.lookup f.name) (outcome f)) ∧
        (report'.Composes pool table functions outcome' ∧
          ∀ f ∈ functions, f.Becomes table (counts'.lookup f.name) (outcome' f)) ∧
        ∀ f ∈ functions, counts.lookup f.name = counts'.lookup f.name → outcome f = outcome' f := by
  obtain ⟨pool, hpool, hreport⟩ := Report.composes_of_convert he h
  obtain ⟨pool', hpool', hreport'⟩ := Report.composes_of_convert he h'
  -- No count has a part in the constants, so both runs have the same table.
  obtain rfl : pool = pool' := Except.ok.inj (hpool.symm.trans hpool')
  refine ⟨pool, _, _, hpool, ⟨hreport, fun f _ => Outcome.becomes counts⟩, ⟨hreport', fun f _ => Outcome.becomes counts'⟩,
    fun f _ hc => ?_⟩
  have hb : f.Becomes (pool.table settings.tableName) (counts.lookup f.name) _ := Outcome.becomes counts
  rw [hc] at hb
  exact hb.unique (Outcome.becomes counts')

/-- A listing of two functions. -/
def twoFunctions : Text :=
  "\t.globl\tf\nf:\n\tmov\teax, 1\n\tret\n\t.globl\tg\ng:\n\tret\n".toList

/-- The first function has the same outcome whether the second one is declared or not. -/
theorem convert_composes_sample :
    let f : Function :=
      { name := "f".toList, lineNumber := 2, lines := ["\tmov\teax, 1".toList, "\tret".toList, "\t.globl\tg".toList] }
    let g : Function := { name := "g".toList, lineNumber := 6, lines := ["\tret".toList] }
    let table : Table := { name := defaultTableName }
    ∃ report report' outcome outcome', convert twoFunctions [("f".toList, 0)] {} = .ok report ∧
      convert twoFunctions [("f".toList, 0), ("g".toList, 1)] {} = .ok report' ∧
      report.Composes {} table [f, g] outcome ∧ report'.Composes {} table [f, g] outcome' ∧
      outcome f = outcome' f ∧ outcome g = .error (.undeclared "g".toList) ∧
      outcome' g = .ok (prologueLines {} "g".toList 1 table ++ ["    RET".toList]) := by
  intro f g table
  have hfunctions : Function.ofListing twoFunctions.splitLines = [f, g] := by rfl
  have hpool : Pool.ofListing twoFunctions.splitLines = .ok {} := by rfl
  have hplain : ∀ h ∈ [f, g], ∀ line ∈ bodyLines h.lines, ¬ ripOpening <:+: line := by decide
  have hused : ∀ h ∈ [f, g], restrictTable table (bodyLines h.lines) = .ok table :=
    fun h hh => restrictTable_eq_of_not_infix table (hplain h hh)
  have hfshape : Shape.ofFunction f =
      .ok { body := bodyLines f.lines, epilogue := { start := 1, stop := 2 }, offsetToFirst := 8 } := by rfl
  have hgshape : Shape.ofFunction g =
      .ok { body := bodyLines g.lines, epilogue := { start := 0, stop := 1 }, offsetToFirst := 8 } := by rfl
  have hf : f.Becomes table (some 0) (.ok (prologueLines {} "f".toList 0 table ++
      [disabledMargin ++ "mov\teax, 1".toList, "    RET".toList])) :=
    .converted hfshape (hused f List.mem_cons_self) (by rfl)
  have hg : g.Becomes table (some 1) (.ok (prologueLines {} "g".toList 1 table ++ ["    RET".toList])) :=
    .converted hgshape (hused g (List.mem_cons_of_mem _ List.mem_cons_self)) (by rfl)
  have hg' : g.Becomes table none (.error (.undeclared "g".toList)) := .undeclared
  -- What each of the two functions becomes does not end the run.
  have hreturns (counts : ArgumentCounts) (block : List Text) (outcome : Except Fault (List Text))
      (hf : f.Becomes table (counts.lookup f.name) (.ok block)) (hg : g.Becomes table (counts.lookup g.name) outcome)
      (hl : ∀ fault, outcome = .error fault → fault.isLocal = true) :
      ∃ report, convert twoFunctions counts {} = .ok report := by
    refine exists_convert_eq_ok hpool ?_
    rw [hfunctions, List.forall_mem_cons, List.forall_mem_singleton]
    exact ⟨hf.fatal?_eq_none_iff.mpr (by simp), hg.fatal?_eq_none_iff.mpr hl⟩
  obtain ⟨report, h⟩ : ∃ report, convert twoFunctions [("f".toList, 0)] {} = .ok report :=
    hreturns _ _ _ hf hg' (by simp [Fault.isLocal, Fault.kind])
  obtain ⟨report', h'⟩ : ∃ report, convert twoFunctions [("f".toList, 0), ("g".toList, 1)] {} = .ok report :=
    hreturns _ _ _ hf hg (by simp)
  obtain ⟨pool, outcome, outcome', hp, ⟨hreport, hb⟩, ⟨hreport', hb'⟩, hagree⟩ := convert_composes rfl h h'
  obtain rfl : ({} : Pool) = pool := Except.ok.inj (hpool.symm.trans hp)
  rw [hfunctions] at hreport hreport' hb hb' hagree
  have hgm : g ∈ [f, g] := List.mem_cons_of_mem _ List.mem_cons_self
  exact ⟨report, report', outcome, outcome', h, h', hreport, hreport', hagree f List.mem_cons_self rfl,
    (hb g hgm).unique hg', (hb' g hgm).unique hg⟩

end AsmBridge
