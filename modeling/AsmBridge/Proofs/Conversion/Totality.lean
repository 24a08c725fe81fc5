import AsmBridge.Proofs.Conversion.Faults
import AsmBridge.Proofs.Pool.Totality

/-!
# When a conversion returns a report

A listing with short numbers is converted unless a directive among its constants ends the run or a line of a function has a
number that gets too long. All else that is wrong is in the report: of a function as one error, and of a directive as a
warning.
-/

namespace AsmBridge

/-- Whether a listing has no more than a thousand digits side by side and asks for less than two to the power 31 bytes or
arguments. -/
structure IsModest (source : Text) (counts : ArgumentCounts) : Prop where
  digits : source.longestRun ≤ 1000
  directives : ∀ line ∈ source.splitLines, Pool.IsModest line
  counts : ∀ name count, counts.lookup name = some count → count < 2 ^ 31

/-- What a report says of a listing. It is put together from what becomes of the functions, and it has the warnings of all
directives among the constants. -/
structure Report.Accounts (report : Report) (source : Text) (counts : ArgumentCounts) (tableName : Text) (pool : Pool)
    (outcome : Function → Except Fault (List Text)) : Prop where
  constants : Pool.ofListing source.splitLines = .ok pool
  composes : report.Composes pool (pool.table tableName) (Function.ofListing source.splitLines) outcome
  becomes : ∀ f ∈ Function.ofListing source.splitLines, f.Becomes (pool.table tableName) (counts.lookup f.name) (outcome f)
  records : ∀ before line after directive operands, source.splitLines = before ++ line :: after →
    inConstantsAfter before = true → Pool.directiveOf? line = some (directive, operands) →
    entersConstants? directive operands = none → ignoredDirectives.contains directive = false →
    ∃ earlier, Pool.ofListing before = .ok earlier ∧ pool.Records earlier (before.length + 1) directive operands

theorem Fault.isOverlong_of_isLocal {fault : Fault} (h : fault.isLocal = true) : fault.isOverlong = false := by
  cases fault <;> first | rfl | cases h

theorem Pool.natAbs_offset_lt {lines : List Text} {pool : Pool} (h : Pool.ofListing lines = .ok pool)
    (hd : pool.data.length < 10 ^ Decimal.digitLimit) (name : Text) :
    ∀ label ∈ (pool.table name).labels, label.offset.natAbs < 10 ^ Decimal.digitLimit :=
  List.forall_mem_map.mpr fun entry he => ((Pool.wellPlaced_of_ofListing h).offset_le entry he).trans_lt hd

section

variable {source : Text} {counts : ArgumentCounts} {settings : Settings}

theorem exists_accounts {report : Report} (he : settings.encode = false) (h : convert source counts settings = .ok report) :
    ∃ pool outcome, report.Accounts source counts settings.tableName pool outcome := by
  obtain ⟨pool, hpool, hcomposes⟩ := Report.composes_of_convert he h
  exact ⟨pool, _, hpool, hcomposes, fun f _ => Outcome.becomes counts,
    fun before line after directive operands hl hc hd hs hi => Pool.exists_records hpool hl hc hd hs hi⟩

/-- A listing with short numbers is converted exactly where no directive among its constants ends the run and no function
has a number that is too long. -/
theorem exists_convert_iff (he : settings.encode = false) (hd : ∀ line ∈ source.splitLines, Pool.IsModest line) :
    (∃ report, convert source counts settings = .ok report) ↔
      (∀ before line after, source.splitLines = before ++ line :: after → inConstantsAfter before = true →
        ¬ Pool.Stops line) ∧
      ∀ pool, Pool.ofListing source.splitLines = .ok pool → ∀ f ∈ Function.ofListing source.splitLines, ∀ fault,
        f.Becomes (pool.table settings.tableName) (counts.lookup f.name) (.error fault) → fault.isOverlong = false := by
  rw [← Pool.exists_ofListing_eq_ok_iff hd]
  constructor
  · rintro ⟨report, h⟩
    obtain ⟨pool, outcome, haccounts⟩ := exists_accounts he h
    refine ⟨⟨pool, haccounts.constants⟩, fun other ho f hf fault hb => ?_⟩
    obtain rfl : pool = other := Except.ok.inj (haccounts.constants.symm.trans ho)
    exact Fault.isOverlong_of_isLocal (haccounts.composes.isLocal f hf fault ((haccounts.becomes f hf).unique hb))
  · rintro ⟨⟨pool, hpool⟩, hshort⟩
    refine exists_convert_eq_ok hpool fun f hf => (Outcome.becomes counts).fatal?_eq_none_iff.mpr fun fault ho => ?_
    have hb : f.Becomes (pool.table settings.tableName) (counts.lookup f.name) _ := Outcome.becomes counts
    rw [ho] at hb
    rcases hb.fault_cases with hlocal | ⟨hlong, -⟩
    · exact hlocal
    · rw [hshort pool hpool f hf fault hb] at hlong
      cases hlong

/-- A listing with short numbers has a report unless a directive among its constants is a number that is no character or a
count of bytes below all lengths, or a function has a number that gets too long. Where the constants have offsets that can
be written, such a number comes from a line with the name of a block and a bracket. A report has all else that is wrong: of
a function as its one error, and of a directive as warnings. -/
theorem convert_returns_iff (he : settings.encode = false) (h : IsModest source counts) :
    let lines := source.splitLines
    let functions := Function.ofListing lines
    let becomes (pool : Pool) (f : Function) := f.Becomes (pool.table settings.tableName) (counts.lookup f.name)
    ((∃ report, convert source counts settings = .ok report) ↔
      (∀ before line after, lines = before ++ line :: after → inConstantsAfter before = true → ¬ Pool.Stops line) ∧
      ∀ pool, Pool.ofListing lines = .ok pool → ∀ f ∈ functions, ∀ fault, becomes pool f (.error fault) →
        fault.isOverlong = false) ∧
    (∀ pool, Pool.ofListing lines = .ok pool → pool.data.length < 10 ^ Decimal.digitLimit → ∀ f ∈ functions, ∀ fault,
      becomes pool f (.error fault) → fault.isOverlong = true → ∃ line ∈ f.lines, blockOpening <:+: line ∧ '[' ∈ line) ∧
    ∀ report, convert source counts settings = .ok report →
      ∃ pool outcome, report.Accounts source counts settings.tableName pool outcome := by
  refine ⟨exists_convert_iff he h.directives, fun pool hpool hdata f hf fault hb hlong => ?_, fun report => exists_accounts he⟩
  have hlines := Function.lines_subset_of_mem_ofListing hf
  refine hb.exists_of_isOverlong (fun line hl => Text.feed_not_mem_of_mem_splitLines (hlines hl))
    (fun line hl => (Text.longestRun_le_of_mem_splitLines (hlines hl)).trans h.digits) (h.counts f.name)
    (Pool.natAbs_offset_lt hpool hdata settings.tableName) ?_
  cases hlocal : fault.isLocal with
  | false => rfl
  | true =>
      rw [Fault.isOverlong_of_isLocal hlocal] at hlong
      cases hlong

end

/-- A listing with a number that cannot be read, and with a function that does not return. -/
def faultyListing : Text :=
  "\t.section\t.rodata\n\t.zero\t2\n\t.byte\tx, 1\n\t.text\n\t.globl\tf\nf:\n\tnop\n".toList

theorem Pool.isModest_of_forall {line : Text} (h : ∀ entry ∈ directiveOf? line,
    entry.1 ∉ spaceDirectives ∧ entry.1 ∉ alignmentDirectives.map (·.1)) : Pool.IsModest line := by
  intro directive operands hd operand ho n hn
  obtain ⟨hs, ha⟩ := h _ hd
  exact ⟨fun known => absurd known hs, fun isPower known => absurd (List.mem_map_of_mem known) ha⟩

theorem isModest_faultyListing : IsModest faultyListing [("f".toList, 0)] where
  digits := by decide +kernel
  directives := by
    have hlines : ∀ line ∈ faultyListing.splitLines, Pool.directiveOf? line = some ("zero".toList, ["2".toList]) ∨
        ∀ entry ∈ Pool.directiveOf? line, entry.1 ∉ spaceDirectives ∧ entry.1 ∉ alignmentDirectives.map (·.1) := by
      decide +kernel
    intro line hl
    rcases hlines line hl with hzero | hother
    · intro directive operands hd operand ho n hn
      rw [hzero] at hd
      cases hd
      cases ho
      obtain rfl : 2 = n := Except.ok.inj hn
      exact ⟨fun _ => by decide, fun isPower _ => by cases isPower <;> decide⟩
    · exact Pool.isModest_of_forall hother
  counts := by
    intro name count hc
    cases List.mem_singleton.mp (mem_of_lookup_eq_some hc)
    decide

/-- The number is stored as zero with a warning, and the function is an error. -/
theorem convert_returns_iff_sample :
    let f : Function := { name := "f".toList, lineNumber := 6, lines := ["\tnop".toList] }
    IsModest faultyListing [("f".toList, 0)] ∧ ∃ report, convert faultyListing [("f".toList, 0)] {} = .ok report ∧
      report.subroutines = [] ∧ report.errors = ["f: ".toList ++ (Fault.noReturn f.name).message] ∧
      "Cannot evaluate: x, stored as zero".toList ∈ report.warnings := by
  intro f
  have hfunctions : Function.ofListing faultyListing.splitLines = [f] := by decide +kernel
  let pool : Pool := { data := [0, 0, 0, 1], warnings := ["Cannot evaluate: x, stored as zero".toList] }
  have hpool : Pool.ofListing faultyListing.splitLines = .ok pool := by decide +kernel
  have hshapeless : Shape.ofFunction f = .error (.noReturn f.name) := by rfl
  have hb (table : Table) : f.Becomes table (some 0) (.error (.noReturn f.name)) := .shapeless hshapeless
  have hencode : ({} : Settings).encode = false := rfl
  obtain ⟨hreturns, -, haccounts⟩ := convert_returns_iff hencode isModest_faultyListing
  obtain ⟨report, h⟩ := hreturns.mpr ⟨(Pool.exists_ofListing_eq_ok_iff isModest_faultyListing.directives).mp ⟨pool, hpool⟩, by
    rw [hfunctions]
    intro other _ g hg fault hbecomes
    obtain rfl := List.mem_singleton.mp hg
    cases (hb _).unique hbecomes
    rfl⟩
  obtain ⟨other, outcome, hother⟩ := haccounts report h
  obtain rfl : pool = other := Except.ok.inj (hpool.symm.trans hother.constants)
  have houtcome : outcome f = .error (.noReturn f.name) :=
    ((hother.becomes f (hfunctions ▸ List.mem_singleton_self f)).unique (hb _))
  refine ⟨isModest_faultyListing, report, h, ?_, ?_, ?_⟩
  · rw [hother.composes.subroutines, hfunctions, List.filter_singleton, houtcome]
    rfl
  · rw [hother.composes.errors, hfunctions, List.filterMap_cons, houtcome]
    rfl
  · rw [hother.composes.warnings]
    exact List.mem_cons_self

/-- A byte that is written as a character but is two of them. -/
def characterListing : Text :=
  "\t.section\t.rodata\n\t.byte\t'ab'\n".toList

/-- The fault of the byte is no value, so it ends the run instead of becoming a warning. -/
theorem two_characters_end_run :
    IsModest characterListing [] ∧ convert characterListing [] {} = .error (.notOneCharacter 2) := by
  have hlines : characterListing.splitLines = ["\t.section\t.rodata".toList, "\t.byte\t'ab'".toList] := by decide
  have hread : Literal.read "'ab'".toList = .error (.notOneCharacter 2) := by
    have htrim : Text.trim "'ab'".toList = "'ab'".toList := by decide
    have hcharacter : Literal.isCharacter "'ab'".toList = true := by decide
    have hquoted : isQuoted "'ab'".toList = true := by decide
    have hcontent : unquote "'ab'".toList = "ab".toList := by
      rw [unquote, if_pos hquoted]
      simp [unescape]
    rw [Literal.read, htrim, Literal.readTrimmed, Literal.octal?_of_isCharacter hcharacter]
    simp only [hcharacter, ↓reduceIte, hcontent]
    rfl
  have hpool : Pool.ofListing characterListing.splitLines = .error (.notOneCharacter 2) := by
    have hsection : ({} : Pool).readLine 1 "\t.section\t.rodata".toList = ({ inConstants := true }, none) := by decide +kernel
    have hdirective : Pool.directiveOf? "\t.byte\t'ab'".toList = some ("byte".toList, ["'ab'".toList]) := by decide +kernel
    have hsize : ("byte".toList, 1) ∈ numberDirectives := by decide
    have hbyte : ({ inConstants := true } : Pool).readLine 2 "\t.byte\t'ab'".toList =
        ({ inConstants := true }, some (.notOneCharacter 2)) := by
      rw [Pool.readLine_of_directiveOf? hdirective, Pool.feed_data (by decide), if_pos rfl,
        DataItem.ofDirective_values hsize, Image.ofNumbers, hread]
      rfl
    rw [hlines, Pool.ofListing, Pool.readLines, hsection]
    simp only [Pool.readLines, hbyte]
  refine ⟨⟨by decide, fun line hl => ?_, fun name count hc => by cases hc⟩, ?_⟩
  · have hall : ∀ line ∈ characterListing.splitLines, ∀ entry ∈ Pool.directiveOf? line,
        entry.1 ∉ spaceDirectives ∧ entry.1 ∉ alignmentDirectives.map (·.1) := by
      decide +kernel
    exact Pool.isModest_of_forall (hall line hl)
  · rw [convert, convertListing, hpool]
    rfl

end AsmBridge
