import AsmBridge.CommandLine.Run
import AsmBridge.Proofs.Files.Disk

/-!
# Exit code and disk

A run of the program ends with zero where the conversion that its options ask for has no errors, and the output is then
written. However else it ends, the disk is as it was.
-/

namespace AsmBridge

namespace Options

/-! ## The program on a disk -/

/-- Converts the files that the options name, step by step. -/
def filesProgram (o : Options) (output : Option Path) (counts : ArgumentCounts) (engine : Engine) : Disk Report := do
  let job : Job := { source := o.source, output := output, stub := o.stub.value?, counts := counts }
  if o.stub.isLost then
    match ← Disk.look job.readSource with
    | .error report => return report
    | .ok _ => throw .pathMissing
  else
    let report ← job.program (o.settings engine)
    if output.isNone && report.success then throw .pathMissing else return report

/-- Runs the program with options, step by step, to its exit code. What is printed is left out. -/
def program (o : Options) (engine : Engine) : Disk Nat := do
  let output ← Disk.look fun _ => o.outputPath
  if ← Disk.look fun s => s.isThere o.source then
    let counts ← Disk.look fun _ => o.argumentCounts
    let report ← o.filesProgram output counts engine
    return if report.success then 0 else 1
  else return 1

variable {o : Options} {engine : Engine} {s after : Store} {report : Report}

theorem run_filesProgram (o : Options) (output : Option Path) (counts : ArgumentCounts) (engine : Engine) (s : Store) :
    (o.filesProgram output counts engine).run s = Disk.leaving s (o.convertFiles output counts s engine) := by
  unfold filesProgram convertFiles
  simp only
  split
  · refine Disk.run_look_bind s fun source => ?_
    cases source <;> rfl
  · rw [Disk.run_bind, Job.run_program]
    cases hrun : Job.run { source := o.source, output := output, stub := o.stub.value?, counts := counts } s (o.settings engine) with
    | error fault => rfl
    | ok pair =>
        obtain ⟨report, after⟩ := pair
        simp only [Disk.leaving, bind, Except.bind]
        split
        · rename_i hlost
          -- Without a path nothing was written before the path is missed.
          have hsame : after = s :=
            (Job.leaves_of_run hrun).unchanged (.inr (Option.isNone_iff_eq_none.mp (Bool.and_eq_true_iff.mp hlost).1))
          rw [hsame]
          rfl
        · rfl

theorem run_program (o : Options) (engine : Engine) (s : Store) : (o.program engine).run s =
    Disk.leaving s ((fun r => (r.exitCode, r.store)) <$> o.run s engine) := by
  unfold program Options.run
  rw [map_bind]
  refine Disk.run_look_bind s fun output => ?_
  rw [map_bind]
  refine Disk.run_look_bind s fun there => ?_
  cases there with
  | false => rfl
  | true =>
      change _ = Disk.leaving s (_ <$> (o.argumentCounts >>= _))
      rw [map_bind]
      refine Disk.run_look_bind s fun counts => ?_
      rw [map_bind, Disk.run_bind, run_filesProgram]
      cases o.convertFiles output counts s engine <;> rfl

theorem exitCode_eq (report : Report) : (if report.success then 0 else 1 : Nat) = if report.errors = [] then 0 else 1 :=
  if_congr List.isEmpty_iff rfl rfl

/-! ## What options ask for -/

/-- The conversion that options ask for, if none of them has lost its value. The output goes beside the source unless it is
named. -/
structure Asks (o : Options) (job : Job) : Prop where
  source : job.source = o.source
  output : ∃ path, job.output = some path ∧ (o.output = .value path ∨ o.output = .absent ∧ ∃ front name,
    o.source.parts = front ++ [name] ∧ path = { o.source with parts := front ++ [Path.stemOf name ++ "_amd64.s".toList] })
  stub : o.stub = .absent ∧ job.stub = none ∨ ∃ path, o.stub = .value path ∧ job.stub = some path
  counts : ∃ pairs, o.counts = pairs.map some ∧ job.counts = ArgumentCounts.override [] pairs

/-- Whether no option has lost its value. -/
structure IsComplete (o : Options) : Prop where
  output : o.output ≠ .lost
  stub : o.stub ≠ .lost
  counts : none ∉ o.counts

theorem argumentCounts_of_not_mem (h : none ∉ o.counts) :
    o.argumentCounts = .ok (ArgumentCounts.override [] (o.counts.filterMap id)) := by
  have hnone : o.counts.findIdx? Option.isNone = none := by
    rw [List.findIdx?_eq_none_iff]
    intro count hc
    cases count with
    | none => exact absurd hc h
    | some pair => rfl
  rw [argumentCounts, hnone]

namespace Asks

variable {job : Job} (h : o.Asks job)
include h

theorem outputPath_eq : o.outputPath = .ok job.output := by
  obtain ⟨path, hjob, ho | ⟨ho, front, name, hparts, rfl⟩⟩ := h.output
  · rw [outputPath, ho, hjob]
  · rw [outputPath, ho, hjob]
    simp only [Path.renamed, hparts, List.getLast?_concat, List.dropLast_concat]
    rfl

theorem argumentCounts_eq : o.argumentCounts = .ok job.counts := by
  obtain ⟨pairs, ho, hjob⟩ := h.counts
  have hmem : none ∉ o.counts := by
    rw [ho]
    simp
  rw [argumentCounts_of_not_mem hmem, ho, hjob, List.filterMap_map]
  simp only [Function.comp_def, id, List.filterMap_some]

theorem stub_eq : o.stub.isLost = false ∧ o.stub.value? = job.stub := by
  rcases h.stub with ⟨ho, hjob⟩ | ⟨path, ho, hjob⟩
  · rw [ho, hjob]
    exact ⟨rfl, rfl⟩
  · rw [ho, hjob]
    exact ⟨rfl, rfl⟩

theorem filesProgram_eq (engine : Engine) :
    o.filesProgram job.output job.counts engine = job.program (o.settings engine) := by
  obtain ⟨hlost, hstub⟩ := h.stub_eq
  obtain ⟨path, hpath, -⟩ := h.output
  have hjob : { source := o.source, output := job.output, stub := o.stub.value?, counts := job.counts } = job := by
    rw [hstub, ← h.source]
  unfold filesProgram
  simp only [hlost, hjob, Bool.false_eq_true, ↓reduceIte]
  simp only [hpath, Option.isNone_some, Bool.false_and, Bool.false_eq_true, ↓reduceIte]
  exact bind_pure (job.program (o.settings engine))

/-- The exit code tells whether the conversion has errors. -/
theorem run_program (engine : Engine) (s : Store) : (o.program engine).run s =
    Disk.run (do return if (← job.program (o.settings engine)).success then 0 else 1) s := by
  unfold program
  rw [Disk.run_bind, Disk.run_look, Disk.run_bind, Job.run_program, h.outputPath_eq]
  simp only
  rw [Disk.run_bind, Disk.run_look, ← h.source]
  cases hthere : s.isThere job.source with
  | error fault =>
      rw [Job.run_of_isThere_error hthere]
      rfl
  | ok there =>
      cases there with
      | false =>
          obtain ⟨message, hrun⟩ := Job.run_of_isThere_false hthere
          rw [hrun]
          rfl
      | true =>
          simp only [↓reduceIte]
          rw [Disk.run_bind, Disk.run_look, h.argumentCounts_eq]
          simp only
          rw [Disk.run_bind, h.filesProgram_eq, Job.run_program]

theorem run_eq_ok_iff {code : Nat} : (o.program engine).run s = (.ok code, after) ↔
    ∃ report, (job.program (o.settings engine)).run s = (.ok report, after) ∧ code = if report.errors = [] then 0 else 1 := by
  rw [h.run_program, Disk.run_bind]
  generalize (job.program (o.settings engine)).run s = ended
  obtain ⟨answer, after'⟩ := ended
  cases answer with
  | error fault =>
      refine ⟨nofun, ?_⟩
      rintro ⟨report, hrun, -⟩
      cases hrun
  | ok report =>
      constructor
      · intro hrun
        cases hrun
        exact ⟨report, rfl, exitCode_eq report⟩
      · rintro ⟨other, hrun, rfl⟩
        cases hrun
        rw [← exitCode_eq]
        rfl

end Asks

/-! ## Runs -/

theorem convertFiles_cases {output : Option Path} {counts : ArgumentCounts}
    (h : o.convertFiles output counts s engine = .ok (report, after)) :
    report.errors ≠ [] ∧ after = s ∨ report.errors = [] ∧ o.stub.isLost = false ∧ output.isSome := by
  unfold convertFiles at h
  simp only at h
  split at h
  · obtain ⟨source, hsource, h⟩ := exists_of_bind_eq_ok h
    cases source with
    | error failed =>
        cases h
        exact .inl ⟨Job.errors_of_readSource hsource, rfl⟩
    | ok text => cases h
  · rename_i hlost
    obtain ⟨⟨report', after'⟩, hrun, h⟩ := exists_of_bind_eq_ok h
    simp only at h
    split at h
    · cases h
    · rename_i hnone
      cases h
      by_cases herrors : report.errors = []
      · have hsuccess : report.success = true := List.isEmpty_iff.mpr herrors
        rw [hsuccess, Bool.and_true] at hnone
        exact .inr ⟨herrors, Bool.not_eq_true _ ▸ hlost, by simpa [Option.isSome_iff_ne_none] using hnone⟩
      · exact .inl ⟨herrors, (Job.leaves_of_run hrun).unchanged (.inl herrors)⟩

/-- The source is missing, or the files are converted. -/
theorem cases_of_run {code : Nat} (h : (o.program engine).run s = (.ok code, after)) :
    ∃ output, o.outputPath = .ok output ∧ (code = 1 ∧ after = s ∨ ∃ counts report, o.argumentCounts = .ok counts ∧
      o.convertFiles output counts s engine = .ok (report, after) ∧ code = if report.errors = [] then 0 else 1) := by
  rw [run_program, Disk.leaving_eq_ok_iff] at h
  obtain ⟨r, hr, he⟩ := exists_of_map_eq_ok h
  cases he
  obtain ⟨output, houtput, hr⟩ := exists_of_bind_eq_ok hr
  obtain ⟨there, -, hr⟩ := exists_of_bind_eq_ok hr
  refine ⟨output, houtput, ?_⟩
  cases there with
  | false =>
      cases hr
      exact .inl ⟨rfl, rfl⟩
  | true =>
      obtain ⟨counts, hcounts, hr⟩ := exists_of_bind_eq_ok hr
      obtain ⟨⟨report, after⟩, hconvert, hr⟩ := exists_of_bind_eq_ok hr
      cases hr
      exact .inr ⟨counts, report, hcounts, hconvert, exitCode_eq report⟩

theorem code_of_run {code : Nat} (h : (o.program engine).run s = (.ok code, after)) : code = 0 ∨ code = 1 ∧ after = s := by
  obtain ⟨output, -, hmissing | ⟨counts, report, -, hconvert, hcode⟩⟩ := cases_of_run h
  · exact .inr hmissing
  · rcases convertFiles_cases hconvert with ⟨herrors, hsame⟩ | ⟨hnone, -⟩
    · rw [if_neg herrors] at hcode
      exact .inr ⟨hcode, hsame⟩
    · rw [if_pos hnone] at hcode
      exact .inl hcode

/-! ## Runs that convert -/

theorem map_some_filterMap_id {α : Type} {values : List (Option α)} (h : ∀ value ∈ values, value.isNone = false) :
    (values.filterMap id).map some = values := by
  induction values with
  | nil => rfl
  | cons value values ih =>
      obtain ⟨hvalue, hvalues⟩ := List.forall_mem_cons.mp h
      cases value with
      | none => cases hvalue
      | some a => exact congrArg (some a :: ·) (ih hvalues)

theorem asks_of_ok {output : Option Path} {counts : ArgumentCounts} (houtput : o.outputPath = .ok output)
    (hcounts : o.argumentCounts = .ok counts) (hstub : o.stub.isLost = false) (hsome : output.isSome) :
    o.Asks { source := o.source, output := output, stub := o.stub.value?, counts := counts } where
  source := rfl
  output := by
    obtain ⟨path, rfl⟩ := Option.isSome_iff_exists.mp hsome
    refine ⟨path, rfl, ?_⟩
    unfold outputPath at houtput
    split at houtput
    · rename_i hvalue
      cases houtput
      exact .inl hvalue
    · cases houtput
    · rename_i habsent
      obtain ⟨beside, hbeside, he⟩ := exists_of_map_eq_ok houtput
      cases he
      unfold Path.renamed at hbeside
      split at hbeside
      · rename_i name hname
        cases hbeside
        exact .inr ⟨habsent, _, name, (List.dropLast_append_getLast? name hname).symm, rfl⟩
      · cases hbeside
  stub := by
    cases hs : o.stub with
    | absent => exact .inl ⟨rfl, rfl⟩
    | lost =>
        rw [hs] at hstub
        cases hstub
    | value path => exact .inr ⟨path, rfl, rfl⟩
  counts := by
    unfold argumentCounts at hcounts
    split at hcounts
    · cases hcounts
    · rename_i hnone
      cases hcounts
      rw [List.findIdx?_eq_none_iff] at hnone
      exact ⟨o.counts.filterMap id, (map_some_filterMap_id hnone).symm, rfl⟩

theorem IsComplete.exists_asks (h : o.IsComplete) {output : Option Path} (houtput : o.outputPath = .ok output) :
    ∃ job, o.Asks job := by
  have hstub : o.stub.isLost = false := by
    cases hs : o.stub with
    | lost => exact absurd hs h.stub
    | absent => rfl
    | value path => rfl
  have hsome : output.isSome := by
    unfold outputPath at houtput
    split at houtput
    · cases houtput
      rfl
    · rename_i hlost
      exact absurd hlost h.output
    · obtain ⟨beside, -, rfl⟩ := exists_of_map_eq_ok houtput
      rfl
  exact ⟨_, asks_of_ok houtput (argumentCounts_of_not_mem h.counts) hstub hsome⟩

theorem run_eq_zero_iff : (o.program engine).run s = (.ok 0, after) ↔
    ∃ job report, o.Asks job ∧ (job.program (o.settings engine)).run s = (.ok report, after) ∧ report.errors = [] := by
  constructor
  · intro h
    have hasks : ∃ job, o.Asks job := by
      obtain ⟨output, houtput, ⟨hcode, -⟩ | ⟨counts, report, hcounts, hconvert, hcode⟩⟩ := cases_of_run h
      · cases hcode
      · rcases convertFiles_cases hconvert with ⟨herrors, -⟩ | ⟨-, hstub, hsome⟩
        · rw [if_neg herrors] at hcode
          cases hcode
        · exact ⟨_, asks_of_ok houtput hcounts hstub hsome⟩
    obtain ⟨job, hjob⟩ := hasks
    obtain ⟨report, hrun, hcode⟩ := hjob.run_eq_ok_iff.mp h
    refine ⟨job, report, hjob, hrun, ?_⟩
    by_contra herrors
    rw [if_neg herrors] at hcode
    cases hcode
  · rintro ⟨job, report, hjob, hrun, hnone⟩
    exact hjob.run_eq_ok_iff.mpr ⟨report, hrun, (if_pos hnone).symm⟩

theorem run_eq_one_iff (h : o.IsComplete) : (o.program engine).run s = (.ok 1, after) ↔
    ∃ job report, o.Asks job ∧ (job.program (o.settings engine)).run s = (.ok report, after) ∧ report.errors ≠ [] := by
  constructor
  · intro hone
    obtain ⟨output, houtput, -⟩ := cases_of_run hone
    obtain ⟨job, hjob⟩ := h.exists_asks houtput
    obtain ⟨report, hrun, hcode⟩ := hjob.run_eq_ok_iff.mp hone
    refine ⟨job, report, hjob, hrun, fun hnone => ?_⟩
    rw [if_pos hnone] at hcode
    cases hcode
  · rintro ⟨job, report, hjob, hrun, herrors⟩
    exact hjob.run_eq_ok_iff.mpr ⟨report, hrun, (if_neg herrors).symm⟩

end Options

/-! ## Command lines -/

/-- Runs the program on the words of a command line, step by step, to its exit code. -/
def commandLineProgram (args : List Text) (engine : Engine) : Disk Nat :=
  match readCommandLine args with
  | .ok options => options.program engine
  | .error .help | .error .version => return 0
  | .error (.error _) => return 2

theorem run_commandLineProgram (args : List Text) (engine : Engine) (s : Store) : (commandLineProgram args engine).run s =
    Disk.leaving s ((fun r => (r.exitCode, r.store)) <$> runCommandLine args s engine) := by
  unfold commandLineProgram runCommandLine
  cases readCommandLine args with
  | ok o => exact o.run_program engine s
  | error stop => cases stop <;> rfl

/-- A disk with one listing. -/
def Store.sample : Store where
  entries := [({ down := ["f.s".toList] }, .file (Utf8.encode "\t.globl\tf\nf:\n\tret\n".toList))]

/-- Options that name the listing, and how many arguments its function has. -/
def Options.sample : Options where
  source := { parts := ["f.s".toList] }
  counts := [some ("f".toList, 0)]

/-- The conversion that they ask for. -/
def Job.sample : Job where
  source := { parts := ["f.s".toList] }
  output := some { parts := ["f_amd64.s".toList] }
  counts := [("f".toList, 0)]

end AsmBridge
