import AsmBridge.Proofs.Body.Constants
import AsmBridge.Proofs.Conversion.Lemmas.Report
import AsmBridge.Proofs.Frame.Lemmas.Sequence
import AsmBridge.Proofs.Pool.Lemmas.Definition
import AsmBridge.Proofs.Pool.Placement

/-!
# Constants of a listing

What a converted function finds where its lines read a constant.
-/

namespace AsmBridge

/-! ## Lines that are not assembled -/

theorem Assembler.encoded_eq_self (assemble : Assembler) {line : Text} (h : line.head? ≠ some ' ') :
    assemble.encoded line = line := by
  have hnone : line.after? disabledMargin = none := Text.after?_eq_none_of_head? rfl h
  rw [encoded, encodeLine, hnone]

/-- A line that is not disabled is put out as it is. -/
theorem Settings.emit_eq_self (settings : Settings) {line : Text} (h : line.head? ≠ some ' ') : settings.emit line = line := by
  unfold emit
  split
  · split
    · rfl
    · exact Assembler.encoded_eq_self _ h
  · rfl

theorem head?_fileHeader : ∀ line ∈ fileHeader, line.head? ∉ [some 'D', some 'G', some ' '] := by decide

theorem head?_dataLines {name : Text} {bytes : List UInt8} : ∀ line ∈ dataLines name bytes, line.head? ≠ some ' ' := by
  intro line hl
  rw [dataLines, List.mem_append, List.mem_singleton] at hl
  rcases hl with hl | rfl
  · obtain ⟨⟨word, index⟩, -, rfl⟩ := List.mem_map.mp hl
    simp [head?_dataLine]
  · simp [head?_globalLine]

theorem map_emit_preamble (settings : Settings) (pool : Pool) (table : Table) :
    (preamble pool table).map settings.emit = preamble pool table := by
  have hline : ∀ line ∈ preamble pool table, line.head? ≠ some ' ' := by
    intro line hl
    rw [preamble, List.mem_append] at hl
    rcases hl with hl | hl
    · exact fun h => head?_fileHeader line hl (by simp [h])
    · split at hl
      · rcases List.mem_append.mp hl with hl | hl
        · exact head?_dataLines line hl
        · rw [List.mem_singleton.mp hl]
          simp
      · cases hl
  exact (List.map_congr_left fun line hl => settings.emit_eq_self (hline line hl)).trans (List.map_id _)

/-! ## The report -/

theorem block_infix_flatMap_lines {counts : ArgumentCounts} {table : Table} {functions : List Function} {f : Function}
    (hf : f ∈ functions) {block : List Text} (hb : (Outcome.ofFunction counts table f).block = .ok block) :
    block <:+: (convertedFunctions counts table functions).flatMap fun f => (Outcome.ofFunction counts table f).lines := by
  have hm : f ∈ convertedFunctions counts table functions := List.mem_filter.mpr ⟨hf, by rw [hb]; rfl⟩
  have hlines : (Outcome.ofFunction counts table f).lines = block ++ [[]] := by rw [Outcome.lines, hb]
  obtain ⟨before, after, he⟩ := List.append_of_mem hm
  rw [he, List.flatMap_append, List.flatMap_cons, hlines, List.append_assoc block]
  exact (List.prefix_append block _).isInfix.trans (List.suffix_append _ _).isInfix

/-- What a report has of a listing with constants. -/
theorem exists_of_convert_of_isPresent {source : Text} {counts : ArgumentCounts} {settings : Settings} {report : Report}
    {pool : Pool} (h : convert source counts settings = .ok report) (hp : Pool.ofListing source.splitLines = .ok pool)
    (ht : (pool.table settings.tableName).isPresent) :
    report.lines = fileHeader ++ (dataLines settings.tableName pool.data ++ ([[]] ++
      ((convertedFunctions counts (pool.table settings.tableName) (Function.ofListing source.splitLines)).flatMap fun f =>
        (Outcome.ofFunction counts (pool.table settings.tableName) f).lines).map settings.emit)) := by
  obtain ⟨pool', hp', -, -, hlines⟩ := exists_of_convert h
  obtain rfl : pool = pool' := Except.ok.inj (hp.symm.trans hp')
  have hpreamble : preamble pool (pool.table settings.tableName) =
      fileHeader ++ (dataLines settings.tableName pool.data ++ [[]]) := by
    rw [preamble, if_pos ht]
    rfl
  rw [hlines, List.map_append, map_emit_preamble, hpreamble, List.append_assoc, List.append_assoc]

/-! ## Constants -/

/-- A listing with a byte and a word, and a function that reads the word. -/
def constantSource : Text :=
  "\t.section\t.rodata\n.LC0:\n\t.byte\t7\n.LC1:\n\t.long\t5\n\t.text\n\t.globl\tf\nf:\n\tmov\teax, dword ptr [rip + .LC1]\n\tret\n".toList

end AsmBridge
