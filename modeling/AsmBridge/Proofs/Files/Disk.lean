import AsmBridge.Files.Job
import AsmBridge.Proofs.Files.Store

/-!
# Conversion on a disk

A program that is broken off leaves the disk as it is at that moment, with all that has been written before. The
conversion of files is written here as such a program, and it writes nothing but the output of a conversion without errors.
-/

namespace AsmBridge

/-! ## Programs -/

/-- A program that looks at a disk and writes files. What it has written stays where a fault ends it. -/
abbrev Disk (α : Type) : Type :=
  ExceptT Fault (StateM Store) α

namespace Disk

variable {α β : Type}

/-- What a program answers, and the disk after it. -/
def run (x : Disk α) (s : Store) : Except Fault α × Store :=
  StateT.run (ExceptT.run x) s

/-- Asks what can be seen on the disk. -/
def look (f : Store → Except Fault α) : Disk α := do
  match f (← get) with
  | .ok a => return a
  | .error fault => throw fault

/-- Writes the file at a path, all of it or nothing. -/
def writeText (path : Path) (text : Text) : Disk Unit := do
  match (← get).writeText path text with
  | .ok after => set after
  | .error fault => throw fault

/-- The run of a program that is known to write nothing before a fault. -/
def leaving (s : Store) : Except Fault (α × Store) → Except Fault α × Store
  | .ok (a, after) => (.ok a, after)
  | .error fault => (.error fault, s)

section

variable (s : Store)

theorem leaving_eq_ok_iff {x : Except Fault (α × Store)} {a : α} {after : Store} :
    leaving s x = (.ok a, after) ↔ x = .ok (a, after) := by
  cases x with
  | error fault => simp [leaving]
  | ok pair =>
      obtain ⟨b, after'⟩ := pair
      simp [leaving]

/-- A fault leaves the disk as it was. -/
theorem eq_of_leaving_eq_error {x : Except Fault (α × Store)} {fault : Fault} {after : Store}
    (h : leaving s x = (.error fault, after)) : after = s := by
  cases x with
  | error fault =>
      cases h
      rfl
  | ok pair => cases h

theorem run_bind (x : Disk α) (f : α → Disk β) : run (x >>= f) s =
    match run x s with | (.ok a, s') => run (f a) s' | (.error fault, s') => (.error fault, s') := by
  unfold run ExceptT.run StateT.run
  simp only [bind, ExceptT.bind, ExceptT.mk, StateT.bind, ExceptT.bindCont]
  cases x s with
  | mk answer s' => cases answer <;> rfl

theorem run_tryCatch (x : Disk α) (handle : Fault → Disk α) : run (tryCatch x handle) s =
    match run x s with | (.ok a, s') => (.ok a, s') | (.error fault, s') => run (handle fault) s' := by
  unfold run ExceptT.run StateT.run
  simp only [tryCatch, tryCatchThe, MonadExceptOf.tryCatch, ExceptT.tryCatch, ExceptT.mk, bind, StateT.bind]
  cases x s with
  | mk answer s' => cases answer <;> rfl

theorem run_look (f : Store → Except Fault α) : run (look f) s = (f s, s) := by
  change run (match f s with | .ok a => pure a | .error fault => throw fault) s = _
  cases f s with
  | error fault => rfl
  | ok a => rfl

/-- What is looked at first can be looked at before. -/
theorem run_look_bind {f : Store → Except Fault α} {g : α → Disk β} {h : α → Except Fault (β × Store)}
    (hg : ∀ a, run (g a) s = leaving s (h a)) : run (look f >>= g) s = leaving s (f s >>= h) := by
  rw [run_bind, run_look]
  cases f s with
  | error fault => rfl
  | ok a => exact hg a

theorem run_writeText (path : Path) (text : Text) : run (writeText path text) s =
    match s.writeText path text with | .ok after => (.ok (), after) | .error fault => (.error fault, s) := by
  change run (match s.writeText path text with | .ok after => set after | .error fault => throw fault) s = _
  cases s.writeText path text with
  | error fault => rfl
  | ok after => rfl

end

end Disk

/-! ## Conversion of files -/

namespace Job

/-- Writes the output of a report that has no errors; a file that cannot be written is one more error. -/
def writeOutput (job : Job) (report : Report) : Disk Report := do
  match job.output with
  | none => return report
  | some path =>
    if report.success then
      tryCatch (do
        Disk.writeText path report.text
        return report) fun fault =>
        if fault.kind = .file then
          let message := "Failed to write output file: ".toList ++ fault.message
          return { report with errors := report.errors ++ [message] }
        else throw fault
    else return report

/-- Converts files, step by step. -/
def program (job : Job) (settings : Settings) : Disk Report := do
  match ← Disk.look job.readSource with
  | .error report => return report
  | .ok source =>
    match ← Disk.look job.readCounts with
    | .error report => return report
    | .ok counts =>
      let report ← Disk.look fun _ => convert source counts settings
      job.writeOutput report

theorem run_writeOutput (job : Job) (report : Report) (s : Store) :
    (job.writeOutput report).run s = Disk.leaving s (job.write s report) := by
  unfold writeOutput write
  cases job.output with
  | none => rfl
  | some path =>
      simp only
      split
      · rw [Disk.run_tryCatch, Disk.run_bind, Disk.run_writeText]
        cases s.writeText path report.text with
        | ok after => rfl
        | error fault =>
            simp only
            split <;> rfl
      · rfl

/-- The program does what the conversion of files says, and a fault leaves the disk as it was. -/
theorem run_program (job : Job) (settings : Settings) (s : Store) :
    (job.program settings).run s = Disk.leaving s (job.run s settings) := by
  refine Disk.run_look_bind s fun source => ?_
  cases source with
  | error report => rfl
  | ok source =>
      refine Disk.run_look_bind s fun counts => ?_
      cases counts with
      | error report => rfl
      | ok counts => exact Disk.run_look_bind s fun report => run_writeOutput job report s

/-! ## What is left -/

variable {job : Job} {settings : Settings} {s after : Store} {report : Report}

/-- What a conversion of files leaves: all as it was, and where there are no errors the output, if one is asked for. -/
structure Leaves (job : Job) (s : Store) (report : Report) (after : Store) : Prop where
  unchanged : report.errors ≠ [] ∨ job.output = none → after = s
  written : ∀ path, job.output = some path → report.errors = [] → s.Replaces after path (Text.unlines report.lines)

theorem Leaves.of_errors (h : report.errors ≠ []) : job.Leaves s report s where
  unchanged _ := rfl
  written _ _ hnone := absurd hnone h

theorem run_of_isThere_false (h : s.isThere job.source = .ok false) : ∃ message, job.run s settings = .ok (.failure message, s) := by
  refine ⟨"Source file not found: ".toList ++ job.source.render, ?_⟩
  rw [run, readSource, h]
  rfl

theorem run_of_isThere_error {fault : Fault} (h : s.isThere job.source = .error fault) :
    job.run s settings = .error fault := by
  rw [run, readSource, h]
  rfl

theorem leaves_of_write {written : Report} (h : job.write s report = .ok (written, after)) : job.Leaves s written after := by
  unfold write at h
  split at h
  · rename_i hout
    cases h
    exact ⟨fun _ => rfl, fun path hpath => by rw [hout] at hpath; cases hpath⟩
  · rename_i path hout
    split at h
    · rename_i hsuccess
      split at h
      · rename_i hw
        cases h
        refine ⟨fun hcases => ?_, fun other hother _ => ?_⟩
        · rcases hcases with herrors | hnone
          · exact absurd (List.isEmpty_iff.mp hsuccess) herrors
          · rw [hout] at hnone
            cases hnone
        · rw [hout] at hother
          cases hother
          exact Store.replaces_of_writeText hw
      · split at h
        · cases h
          exact .of_errors (by simp)
        · cases h
    · rename_i hsuccess
      cases h
      exact .of_errors fun hnone => hsuccess (List.isEmpty_iff.mpr hnone)

theorem errors_of_readOr {path : Path} {title : Text} (h : readOr s path title = .ok (.error report)) : report.errors ≠ [] := by
  unfold readOr at h
  split at h
  · cases h
  · split at h
    · cases h
      exact List.cons_ne_nil _ _
    · cases h

theorem errors_of_readSource (h : job.readSource s = .ok (.error report)) : report.errors ≠ [] := by
  obtain ⟨there, -, h⟩ := exists_of_bind_eq_ok h
  split at h
  · exact errors_of_readOr h
  · cases h
    exact List.cons_ne_nil _ _

theorem errors_of_readCounts (h : job.readCounts s = .ok (.error report)) : report.errors ≠ [] := by
  unfold readCounts at h
  split at h
  · cases h
  · obtain ⟨read, hread, he⟩ := exists_of_map_eq_ok h
    cases read with
    | error other =>
        cases he
        exact errors_of_readOr hread
    | ok text => cases he

theorem leaves_of_run (h : job.run s settings = .ok (report, after)) : job.Leaves s report after := by
  obtain ⟨source, hsource, h⟩ := exists_of_bind_eq_ok h
  cases source with
  | error failed =>
      cases h
      exact .of_errors (errors_of_readSource hsource)
  | ok source =>
      obtain ⟨counts, hcounts, h⟩ := exists_of_bind_eq_ok h
      cases counts with
      | error failed =>
          cases h
          exact .of_errors (errors_of_readCounts hcounts)
      | ok counts =>
          obtain ⟨converted, -, h⟩ := exists_of_bind_eq_ok h
          exact leaves_of_write h

end Job

end AsmBridge
