import AsmBridge.Proofs.Conversion.Lemmas.Report
import AsmBridge.Proofs.Line.Lemmas.Comment
import AsmBridge.Proofs.Line.Local
import AsmBridge.Proofs.Pool.Lemmas.Reference

/-!
# Conversion of a listing

What holds of the output for every listing.
-/

namespace AsmBridge

/-! ## Locals -/

/-- Whether a line has a local, and neither is dropped for its directive nor is a label. -/
structure HoldsLocal (line : Text) : Prop where
  code : mentionsAlign line = false
  notLabel : blockLabel? (stripComment line) = none
  reads : ReadsBelowFrame (stripComment line)

/-- Whether a local is used in the body of a function, outside its exit sequence. -/
def Function.Spills (f : Function) : Prop :=
  ∃ shape, Shape.ofFunction f = .ok shape ∧ ∃ line ∈ shape.epilogue.outside shape.body, HoldsLocal line

theorem HoldsLocal.isDropped {line : Text} (h : HoldsLocal line) : isDropped line = false := by
  rw [isDropped_eq_mentionsAlign (List.ne_nil_of_mem h.reads.bracket_mem), h.code]

theorem not_holdsLocal_of_convertBody {lines out : List Text} {e : Epilogue} {args : StackArgs} {table : Table}
    (h : convertBody lines e args table = .ok out) {line : Text} (hl : line ∈ e.outside lines) (hn : '\n' ∉ line) :
    ¬ HoldsLocal line := by
  intro hlocal
  obtain ⟨converted, -, hc⟩ := exists_converts_of_mem_outside h hl hlocal.isDropped
  exact not_readsBelowFrame_of_resolveOperands hc.resolveOperands_eq
    (hlocal.reads.respell hlocal.notLabel fun hm => hn ((stripComment_prefix_self line).subset hm))

theorem Function.Spills.exists_error {lines : List Text} (hlines : ∀ line ∈ lines, '\n' ∉ line) {f : Function}
    (hf : f ∈ Function.ofListing lines) (h : f.Spills) (counts : ArgumentCounts) (table : Table) :
    ∃ fault, (Outcome.ofFunction counts table f).block = .error fault := by
  cases hb : (Outcome.ofFunction counts table f).block with
  | error fault => exact ⟨fault, rfl⟩
  | ok block =>
      obtain ⟨shape, hs, line, hl, hlocal⟩ := h
      obtain ⟨_, shape', _, _, _, hs', -, hbody, -⟩ := Outcome.exists_of_block_eq_ok hb
      obtain rfl : shape = shape' := Except.ok.inj (hs.symm.trans hs')
      have hmem : line ∈ lines :=
        lines_subset_of_mem_ofListing hf (Shape.body_subset hs (shape.epilogue.outside_subset _ hl))
      exact absurd hlocal (not_holdsLocal_of_convertBody hbody hl (hlines line hmem))

/-- No body with a local is converted, and a function with one is an error and leaves nothing in the output. -/
theorem locals_refused :
    (∀ lines e args table out, convertBody lines e args table = .ok out →
      ∀ line ∈ e.outside lines, '\n' ∉ line → ¬ HoldsLocal line) ∧
    ∀ source counts settings report, convert source counts settings = .ok report →
      ∃ pool, Pool.ofListing source.splitLines = .ok pool ∧
        let table := pool.table settings.tableName
        let functions := Function.ofListing source.splitLines
        let converted := convertedFunctions counts table functions
        report.subroutines = converted.map (·.name) ∧
          report.lines = (preamble pool table ++
            converted.flatMap fun f => (Outcome.ofFunction counts table f).lines).map settings.emit ∧
          ∀ f ∈ functions, f.Spills →
            f ∉ converted ∧ ∃ fault : Fault, f.name ++ ": ".toList ++ fault.message ∈ report.errors := by
  refine ⟨fun lines e args table out h line hl hn => not_holdsLocal_of_convertBody h hl hn, ?_⟩
  intro source counts settings report h
  obtain ⟨pool, hpool, hsub, herr, hlines⟩ := exists_of_convert h
  refine ⟨pool, hpool, hsub, hlines, fun f hf hspill => ?_⟩
  obtain ⟨fault, hb⟩ := hspill.exists_error (fun line => Text.feed_not_mem_of_mem_splitLines) hf counts
    (pool.table settings.tableName)
  refine ⟨fun hm => ?_, fault, herr (mem_errors hf hb)⟩
  have hok := (List.mem_filter.mp hm).2
  rw [hb] at hok
  cases hok

/-- A listing of one function, which reads a local. -/
def spillingSource : Text :=
  "\t.globl\tf\nf:\n\tmov\trax, [rbp - 8]\n\tret\n".toList

/-- The function is an error, while a body without a local is converted. -/
theorem locals_refused_sample :
    let lines := ["\tmov\teax, 1".toList, "\tret".toList]
    let e : Epilogue := { start := 1, stop := 2 }
    let out := [disabledMargin ++ "mov\teax, 1".toList, "    RET".toList]
    (convertBody lines e {} {} = .ok out ∧ ¬ HoldsLocal "\tmov\teax, 1".toList) ∧
      ∃ report, convert spillingSource [("f".toList, 0)] {} = .ok report ∧
        ∃ fault : Fault, "f: ".toList ++ fault.message ∈ report.errors := by
  intro lines e out
  have hbody : convertBody lines e {} {} = .ok out := by rfl
  refine ⟨⟨hbody, locals_refused.1 lines e {} {} out hbody _ List.mem_cons_self (by decide)⟩, ?_⟩
  let f : Function := { name := "f".toList, lineNumber := 2, lines := ["\tmov\trax, [rbp - 8]".toList, "\tret".toList] }
  have hfunctions : Function.ofListing spillingSource.splitLines = [f] := by rfl
  have hpool : Pool.ofListing spillingSource.splitLines = .ok {} := by rfl
  have hused : restrictTable (Pool.table {} defaultTableName) f.lines = .ok (Pool.table {} defaultTableName) := by
    have hlines : ∀ line ∈ f.lines, ¬ ripOpening <:+: line := by decide
    have hnames : f.lines.flatMap references = [] :=
      List.flatMap_eq_nil_iff.mpr fun line hl => references_eq_nil (hlines line hl)
    rw [restrictTable, hnames]
    rfl
  have hblock : (Outcome.ofFunction [("f".toList, 0)] (Pool.table {} defaultTableName) f).block =
      .error (.belowFrame (disabledMargin ++ "mov\trax, [rbp - 8]".toList)) := by
    change restrictTable (Pool.table {} defaultTableName) f.lines >>= _ = _
    rw [hused]
    rfl
  have hfatal : ∀ g ∈ Function.ofListing spillingSource.splitLines,
      (Outcome.ofFunction [("f".toList, 0)] (Pool.table {} defaultTableName) g).fatal? = none := by
    rw [hfunctions, List.forall_mem_singleton, Outcome.fatal?, hblock]
    rfl
  obtain ⟨report, hreport⟩ : ∃ report, convert spillingSource [("f".toList, 0)] {} = .ok report :=
    exists_convert_eq_ok hpool hfatal
  obtain ⟨pool, hp, -, -, hrefused⟩ := locals_refused.2 _ _ _ _ hreport
  have hspills : f.Spills := by
    refine ⟨{ body := f.lines, epilogue := { start := 1, stop := 2 }, offsetToFirst := 8 }, by rfl, _, List.mem_cons_self, ?_⟩
    exact { code := by decide, notLabel := by decide, reads := ⟨"8".toList, by decide, by decide, by decide⟩ }
  exact ⟨report, hreport, (hrefused f (by rw [hfunctions]; exact List.mem_singleton_self f) hspills).2⟩

end AsmBridge
