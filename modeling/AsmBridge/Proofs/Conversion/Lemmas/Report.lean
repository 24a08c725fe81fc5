import AsmBridge.Conversion
import AsmBridge.Proofs.Body.Lemmas.Shape
import AsmBridge.Proofs.Code.Assembler

/-!
# Reports

What the report on a listing has of each of its functions.
-/

namespace AsmBridge

open scoped List

/-! ## Lines of a listing -/

theorem Text.isLineBreak_of_mem_pushLine {lines : List Text} (h : ∀ line ∈ lines, ∀ c ∈ line, isLineBreak c = false)
    (d : Char) : ∀ line ∈ pushLine d lines, ∀ c ∈ line, isLineBreak c = false := by
  unfold pushLine
  split
  · exact List.forall_mem_cons.mpr ⟨List.forall_mem_nil _, h⟩
  · rename_i hd
    have hd := Bool.eq_false_iff.mpr hd
    split
    · simpa using hd
    · obtain ⟨hfirst, hrest⟩ := List.forall_mem_cons.mp h
      exact List.forall_mem_cons.mpr ⟨List.forall_mem_cons.mpr ⟨hd, hfirst⟩, hrest⟩

theorem Text.isLineBreak_of_mem_splitLines {t : Text} : ∀ line ∈ t.splitLines, ∀ c ∈ line, isLineBreak c = false := by
  unfold splitLines
  induction t.unifyNewlines with
  | nil => exact List.forall_mem_nil _
  | cons d t ih => exact isLineBreak_of_mem_pushLine ih d

theorem Text.feed_not_mem_of_mem_splitLines {t line : Text} (h : line ∈ t.splitLines) : '\n' ∉ line := by
  intro hc
  cases isLineBreak_of_mem_splitLines line h _ hc

namespace Function

variable {globals : List Text}

theorem linesOf_sublist (lines : List Text) : linesOf globals lines <+ lines := by
  induction lines with
  | nil => exact List.Sublist.refl []
  | cons line lines ih =>
      rw [linesOf]
      split
      · exact ih.cons line
      · exact ih.cons_cons line
      all_goals exact List.nil_sublist _

theorem lines_subset_of_mem_scan {machO inText : Bool} {number : Nat} {lines : List Text} {f : Function}
    (h : f ∈ scan globals machO inText number lines) : f.lines ⊆ lines := by
  induction lines generalizing inText number with
  | nil => cases h
  | cons line lines ih =>
      have htail := List.subset_cons_self line lines
      rw [scan] at h
      split at h
      · exact List.Subset.trans (ih h) htail
      · split at h
        · rcases List.mem_cons.mp h with rfl | h
          · exact List.Subset.trans (linesOf_sublist lines).subset htail
          · exact List.Subset.trans (ih h) htail
        · exact List.Subset.trans (ih h) htail
      all_goals exact List.Subset.trans (ih h) htail

theorem lines_subset_of_mem_ofListing {lines : List Text} {f : Function} (h : f ∈ ofListing lines) : f.lines ⊆ lines :=
  lines_subset_of_mem_scan h

end Function

/-! ## Outcomes -/

section

variable {counts : ArgumentCounts} {table : Table} {f : Function}

theorem Outcome.name_ofFunction : (Outcome.ofFunction counts table f).name = f.name := by
  unfold ofFunction
  split
  · rfl
  · split <;> rfl

/-- What is known of a function that is converted. -/
theorem Outcome.exists_of_block_eq_ok {block : List Text} (h : (Outcome.ofFunction counts table f).block = .ok block) :
    ∃ count shape used args body, Shape.ofFunction f = .ok shape ∧ restrictTable table shape.body = .ok used ∧
      convertBody shape.body shape.epilogue args used = .ok body ∧
      block = prologueLines shape.epilogue.frame f.name count used ++ body := by
  unfold ofFunction at h
  split at h
  · cases h
  · rename_i count hc
    split at h
    · cases h
    · rename_i shape hs
      obtain ⟨used, hu, h⟩ := exists_of_bind_eq_ok h
      obtain ⟨body, hb, h⟩ := exists_of_bind_eq_ok h
      cases h
      exact ⟨count.toNat, shape, used, _, body, hs, hu, hb, rfl⟩

theorem Outcome.block_eq_ok {count : Int} {shape : Shape} {used : Table} {body : List Text}
    (hc : counts.lookup f.name = some count) (hs : Shape.ofFunction f = .ok shape)
    (hu : restrictTable table shape.body = .ok used)
    (hb : convertBody shape.body shape.epilogue
      { number := count.toNat - registerCount, offsetToFirst := shape.offsetToFirst } used = .ok body) :
    (Outcome.ofFunction counts table f).block = .ok (prologueLines shape.epilogue.frame f.name count.toNat used ++ body) := by
  have hconvert : convertShape table f.name count shape =
      restrictTable table shape.body >>= fun used => convertBody shape.body shape.epilogue
        { number := count.toNat - registerCount, offsetToFirst := shape.offsetToFirst } used >>= fun body =>
          .ok (prologueLines shape.epilogue.frame f.name count.toNat used ++ body) := rfl
  rw [ofFunction, hc]
  simp only [hs, hconvert]
  rw [hu]
  change convertBody _ _ _ used >>= _ = _
  rw [hb]
  rfl

variable (counts table)

/-- The functions that are converted. -/
def convertedFunctions (functions : List Function) : List Function :=
  functions.filter fun f => (Outcome.ofFunction counts table f).block.isOk

variable {counts table}

theorem filterMap_converted? (functions : List Function) :
    (functions.map (Outcome.ofFunction counts table)).filterMap Outcome.converted? =
      (convertedFunctions counts table functions).map (·.name) := by
  induction functions with
  | nil => rfl
  | cons f functions ih =>
      rw [List.map_cons, List.filterMap_cons, ih, convertedFunctions, convertedFunctions, List.filter_cons,
        Outcome.converted?, Outcome.name_ofFunction]
      cases (Outcome.ofFunction counts table f).block <;> rfl

theorem flatMap_lines (functions : List Function) :
    (functions.map (Outcome.ofFunction counts table)).flatMap Outcome.lines =
      (convertedFunctions counts table functions).flatMap fun f => (Outcome.ofFunction counts table f).lines := by
  induction functions with
  | nil => rfl
  | cons f functions ih =>
      rw [List.map_cons, List.flatMap_cons, ih, convertedFunctions, convertedFunctions, List.filter_cons]
      cases hb : (Outcome.ofFunction counts table f).block with
      | error fault =>
          rw [Outcome.lines, hb]
          rfl
      | ok block => rfl

theorem mem_errors {functions : List Function} (hf : f ∈ functions) {fault : Fault}
    (h : (Outcome.ofFunction counts table f).block = .error fault) :
    f.name ++ ": ".toList ++ fault.message ∈ (functions.map (Outcome.ofFunction counts table)).filterMap Outcome.error? := by
  refine List.mem_filterMap.mpr ⟨_, List.mem_map_of_mem hf, ?_⟩
  rw [Outcome.error?, h, Outcome.name_ofFunction]

end

/-! ## The report -/

/-- What becomes of a line on its way to the output. -/
def Settings.emit (settings : Settings) (line : Text) : Text :=
  if settings.encode then
    match settings.engine.start with
    | .error _ => line
    | .ok assemble => assemble.encoded line
  else line

theorem Settings.emit_eq_id {settings : Settings} (h : settings.encode = false) : settings.emit = id :=
  funext fun _ => if_neg (Bool.eq_false_iff.mp h)

/-- What a report has of the functions. -/
theorem exists_of_convert {source : Text} {counts : ArgumentCounts} {settings : Settings} {report : Report}
    (h : convert source counts settings = .ok report) :
    ∃ pool, Pool.ofListing source.splitLines = .ok pool ∧
      let table := pool.table settings.tableName
      let functions := Function.ofListing source.splitLines
      report.subroutines = (convertedFunctions counts table functions).map (·.name) ∧
        (functions.map (Outcome.ofFunction counts table)).filterMap Outcome.error? ⊆ report.errors ∧
        report.lines = (preamble pool table ++ (convertedFunctions counts table functions).flatMap fun f =>
          (Outcome.ofFunction counts table f).lines).map settings.emit := by
  obtain ⟨plain, hp, rfl⟩ := exists_of_map_eq_ok h
  obtain ⟨pool, hpool, hp⟩ := exists_of_bind_eq_ok hp
  simp only at hp
  split at hp
  · cases hp
  · cases hp
    simp only [filterMap_converted?, flatMap_lines]
    cases he : settings.encode with
    | false =>
        simp only [Settings.emit_eq_id he, List.map_id]
        exact ⟨pool, hpool, rfl, List.Subset.refl _, rfl⟩
    | true =>
        simp only [↓reduceIte, Report.encode]
        cases hs : settings.engine.start with
        | error fault =>
            have hemit : settings.emit = id := funext fun line => by simp only [Settings.emit, he, hs, ↓reduceIte, id]
            simp only [hemit, List.map_id]
            exact ⟨pool, hpool, rfl, List.subset_append_left _ _, rfl⟩
        | ok assemble =>
            have hemit : settings.emit = assemble.encoded := funext fun line => by
              simp only [Settings.emit, he, hs, ↓reduceIte]
            simp only [hemit, assemble.encodeLines_fst]
            exact ⟨pool, hpool, rfl, List.Subset.refl _, rfl⟩

/-- A listing is converted, whatever is wrong with its functions, unless that ends the run. -/
theorem exists_convert_eq_ok {source : Text} {counts : ArgumentCounts} {settings : Settings} {pool : Pool}
    (hp : Pool.ofListing source.splitLines = .ok pool)
    (hf : ∀ f ∈ Function.ofListing source.splitLines,
      (Outcome.ofFunction counts (pool.table settings.tableName) f).fatal? = none) :
    ∃ report, convert source counts settings = .ok report := by
  have hnone : ((Function.ofListing source.splitLines).map
      (Outcome.ofFunction counts (pool.table settings.tableName))).findSome? Outcome.fatal? = none := by
    simpa only [List.findSome?_eq_none_iff, List.forall_mem_map] using hf
  rw [convert, convertListing, hp]
  simp only [bind, Except.bind, hnone]
  exact ⟨_, rfl⟩

end AsmBridge
