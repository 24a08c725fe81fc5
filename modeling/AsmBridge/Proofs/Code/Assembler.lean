import AsmBridge.Code.Assembler
import AsmBridge.Proofs.Code.Intel
import AsmBridge.Proofs.Fault
import AsmBridge.Proofs.Number.Decimal
import Mathlib.Data.List.Forall2
import Mathlib.Data.List.Infix

/-!
# Lines that are assembled

Each line becomes one line: a disabled instruction gets its machine code in front, and what has no code stays. What was
assembled is not disabled any more, so that a second pass changes nothing and has the same warnings.
-/

namespace AsmBridge

/-! ## Disabled lines -/

theorem isDisabled_append (text : Text) : isDisabled (disabledMargin ++ text) = true :=
  List.isPrefixOf_iff_prefix.mpr (List.prefix_append disabledMargin text)

theorem after?_disabledMargin_eq_none {line : Text} (h : line.after? disabledMargin = none) : isDisabled line = false := by
  unfold Text.after? at h
  split at h
  · cases h
  · rename_i hp
    exact Bool.eq_false_iff.mpr hp

/-! ## Offsets that are too long -/

theorem Displacement.suffix_of_unsigned? {negative : Bool} {t rest : Text} {d : Displacement}
    (h : unsigned? negative t = some (d, rest)) : rest <:+ t := by
  unfold unsigned? at h
  split at h
  · rename_i hr
    split at h
    · rename_i hrest
      cases h
      have hbase := (List.suffix_cons ']' _).trans (hrest ▸ List.dropWhile_suffix isWordChar)
      exact hbase.trans ((List.suffix_cons '[' _).trans (hr ▸ List.dropWhile_suffix isDecimalDigit))
    · cases h
  · cases h

theorem Displacement.suffix_of_parse? {t rest : Text} {d : Displacement} (h : parse? t = some (d, rest)) : rest <:+ t := by
  unfold parse? at h
  split at h
  · exact (suffix_of_unsigned? h).trans (List.suffix_cons '-' _)
  · exact suffix_of_unsigned? h

theorem Displacement.digits_infix_of_parse? {t rest : Text} {d : Displacement} (h : parse? t = some (d, rest)) :
    d.digits <:+: t ∧ ∀ c ∈ d.digits, isDecimalDigit c := by
  unfold parse? at h
  split at h
  · obtain ⟨r, rfl, hd⟩ := eq_append_of_unsigned? h
    exact ⟨⟨['-'], '[' :: r, rfl⟩, hd⟩
  · obtain ⟨r, rfl, hd⟩ := eq_append_of_unsigned? h
    exact ⟨(List.prefix_append _ _).isInfix, hd⟩

theorem Displacement.fault_of_render {d : Displacement} {fault : Fault} (h : d.render = .error fault) :
    Decimal.digitLimit < d.digits.length ∧ fault = .tooManyDigits d.digits.length := by
  rcases cases_of_bind_eq_error h with h | ⟨n, -, h⟩
  · have hl := (Decimal.fault_of_read h).2
    rw [Decimal.read_of_digitLimit_lt hl] at h
    cases h
    exact ⟨hl, rfl⟩
  · cases h

/-- Offsets are moved unless one of them has more digits than can be read. -/
theorem fault_of_insertOffsets {t : Text} {fault : Fault} (h : insertOffsets t = .error fault) :
    ∃ digits : Text, digits <:+: t ∧ (∀ c ∈ digits, isDecimalDigit c) ∧ Decimal.digitLimit < digits.length ∧
      fault = .tooManyDigits digits.length := by
  fun_induction insertOffsets t with
  | case1 => cases h
  | case2 c r d rest hp ih =>
      rcases cases_of_bind_eq_error h with h | ⟨operand, -, h⟩
      · obtain ⟨hpart, hdigits⟩ := Displacement.digits_infix_of_parse? hp
        exact ⟨d.digits, hpart, hdigits, Displacement.fault_of_render h⟩
      · rcases cases_of_bind_eq_error h with h | ⟨after, -, h⟩
        · obtain ⟨digits, hpart, hdigits⟩ := ih h
          exact ⟨digits, hpart.trans (Displacement.suffix_of_parse? hp).isInfix, hdigits⟩
        · cases h
  | case3 c r hp ih =>
      obtain ⟨digits, hpart, hdigits⟩ := ih (eq_error_of_map h)
      exact ⟨digits, hpart.trans (List.suffix_cons c r).isInfix, hdigits⟩

/-! ## Machine code -/

theorem head?_render (width : Width) (bytes : List UInt8) : ∃ c t, Chunk.render ⟨width, bytes⟩ = c :: t ∧ c ≠ ' ' := by
  cases width with
  | quad => exact ⟨'Q', _, rfl, by decide⟩
  | long => exact ⟨'L', _, rfl, by decide⟩
  | word => exact ⟨'W', _, rfl, by decide⟩
  | byte => exact ⟨'B', _, rfl, by decide⟩

/-- Machine code starts with the name of a directive, if there is any. -/
theorem renderBytes_cases (code : List UInt8) : renderBytes code = [] ∨ ∃ c t, renderBytes code = c :: t ∧ c ≠ ' ' := by
  unfold renderBytes
  cases Chunk.ofBytes code with
  | nil => exact .inl rfl
  | cons chunk chunks =>
      obtain ⟨c, t, hc, hne⟩ := head?_render chunk.width chunk.bytes
      refine .inr ?_
      rw [List.map_cons, hc]
      cases chunks <;> exact ⟨c, _, rfl, hne⟩

/-- The margin of a disabled line is wider than the white space in front of machine code. -/
theorem not_isDisabled_encodedLine (code : List UInt8) (text : Text) :
    isDisabled (Assembler.encodedLine code text) = false := by
  rw [Bool.eq_false_iff, isDisabled, Ne, List.isPrefixOf_iff_prefix]
  rintro ⟨rest, h⟩
  rw [Assembler.encodedLine, List.append_assoc, List.append_assoc] at h
  rcases renderBytes_cases code with hr | ⟨c, t, hr, hne⟩
  · rw [hr] at h
    have hslash : some ' ' = some '/' := congrArg (·[5]?) h
    cases hslash
  · rw [hr] at h
    have hc : some ' ' = some c := congrArg (·[4]?) h
    exact hne (Option.some.inj hc).symm

namespace Assembler

variable {assemble : Assembler} {line out : Text}

/-- Why a disabled line stays: an offset of its instruction, as it stands without comments, has more digits than can be
read, or the assembler has no code for the instruction. -/
inductive Refuses (assemble : Assembler) : Text → Fault → Prop
  | tooLong {text digits : Text} (hd : digits <:+: dropComments text) (hall : ∀ c ∈ digits, isDecimalDigit c)
    (hl : Decimal.digitLimit < digits.length) (ht : toIntel text = .error (.tooManyDigits digits.length)) :
    Refuses assemble (disabledMargin ++ text) (.tooManyDigits digits.length)
  | nothing {text instruction : Text} (ht : toIntel text = .ok instruction) (ha : assemble instruction = .nothing) :
    Refuses assemble (disabledMargin ++ text) (.notAssembled instruction)
  | rejected {text instruction reason : Text} (ht : toIntel text = .ok instruction)
    (ha : assemble instruction = .rejected reason) :
    Refuses assemble (disabledMargin ++ text) (.rejected reason instruction)

/-- What becomes of a line, and the warnings about it. -/
inductive Settles (assemble : Assembler) : Text → Text → List Text → Prop
  | plain {line : Text} (h : isDisabled line = false) : Settles assemble line line []
  | encoded {text instruction : Text} {code : List UInt8} (ht : toIntel text = .ok instruction)
    (ha : assemble instruction = .code code) :
    Settles assemble (disabledMargin ++ text) (indentation ++ renderBytes code ++ " // ".toList ++ text) []
  | refused {line : Text} {fault : Fault} (h : assemble.Refuses line fault) : Settles assemble line line [fault.message]

/-- The line after it was assembled, or as it is where that fails. -/
def encoded (assemble : Assembler) (line : Text) : Text :=
  match assemble.encodeLine line with
  | .ok text => text
  | .error _ => line

/-- The warning about a line that cannot be assembled. -/
def warningsAbout (assemble : Assembler) (line : Text) : List Text :=
  match assemble.encodeLine line with
  | .ok _ => []
  | .error fault => [fault.message]

theorem encodeLines_eq (assemble : Assembler) (lines : List Text) :
    assemble.encodeLines lines = (lines.map assemble.encoded, lines.flatMap assemble.warningsAbout) := by
  induction lines with
  | nil => rfl
  | cons line lines ih =>
      rw [encodeLines, ih, List.map_cons, List.flatMap_cons, encoded, warningsAbout]
      cases assemble.encodeLine line <;> rfl

theorem encodeLines_fst (assemble : Assembler) (lines : List Text) :
    (assemble.encodeLines lines).1 = lines.map assemble.encoded := by
  rw [encodeLines_eq]

/-! ## Each line -/

theorem encodeLine_of_isDisabled_eq_false (h : isDisabled line = false) : assemble.encodeLine line = .ok line := by
  have hnone : line.after? disabledMargin = none := if_neg (Bool.eq_false_iff.mp h)
  rw [encodeLine, hnone]

theorem encodeLine_append (assemble : Assembler) (text : Text) :
    assemble.encodeLine (disabledMargin ++ text) = (toIntel text >>= fun instruction =>
      match assemble instruction with
      | .code code => .ok code
      | .nothing => .error (.notAssembled instruction)
      | .rejected reason => .error (.rejected reason instruction)).map (encodedLine · text) := by
  rw [encodeLine, Text.after?_append]
  rfl

theorem settles (assemble : Assembler) (line : Text) :
    assemble.Settles line (assemble.encoded line) (assemble.warningsAbout line) := by
  unfold encoded warningsAbout
  cases hm : line.after? disabledMargin with
  | none =>
      have hplain := after?_disabledMargin_eq_none hm
      rw [encodeLine_of_isDisabled_eq_false hplain]
      exact .plain hplain
  | some text =>
      obtain rfl := Text.eq_append_of_after? hm
      rw [encodeLine_append]
      cases ht : toIntel text with
      | error fault =>
          obtain ⟨digits, hd, hall, hl, rfl⟩ := fault_of_insertOffsets (eq_error_of_map ht)
          exact .refused (.tooLong hd hall hl ht)
      | ok instruction =>
          simp only [bind, Except.bind]
          cases ha : assemble instruction with
          | code code => exact .encoded ht ha
          | nothing => exact .refused (.nothing ht ha)
          | rejected reason => exact .refused (.rejected ht ha)

theorem Refuses.isDisabled {fault : Fault} (h : assemble.Refuses line fault) : isDisabled line = true := by
  cases h <;> exact isDisabled_append _

/-- The assembler has no code for what it refuses. -/
theorem Refuses.answer_ne {text instruction : Text} {code : List UInt8} {fault : Fault}
    (h : assemble.Refuses (disabledMargin ++ text) fault) (ht : toIntel text = .ok instruction) :
    assemble instruction ≠ .code code := by
  generalize hm : disabledMargin ++ text = line at h
  cases h with
  | tooLong _ _ _ htext =>
      obtain rfl := List.append_cancel_left hm
      rw [ht] at htext
      cases htext
  | nothing htext ha =>
      obtain rfl := List.append_cancel_left hm
      obtain rfl := Except.ok.inj (ht.symm.trans htext)
      rw [ha]
      exact Answer.noConfusion
  | rejected htext ha =>
      obtain rfl := List.append_cancel_left hm
      obtain rfl := Except.ok.inj (ht.symm.trans htext)
      rw [ha]
      exact Answer.noConfusion

/-- A line stays disabled exactly where it is refused. -/
theorem Settles.isDisabled_iff {warnings : List Text} (h : assemble.Settles line out warnings) :
    isDisabled out = true ↔ ∃ fault, assemble.Refuses line fault := by
  cases h with
  | plain hplain => exact ⟨fun hd => absurd (hplain.symm.trans hd) (by decide), fun ⟨_, hr⟩ => hr.isDisabled⟩
  | @encoded text instruction code ht ha =>
      have hout : isDisabled (encodedLine code text) = false := not_isDisabled_encodedLine code text
      exact ⟨fun hd => absurd (hout.symm.trans hd) (by decide), fun ⟨_, hr⟩ => absurd ha (hr.answer_ne ht)⟩
  | refused hr => exact ⟨fun _ => ⟨_, hr⟩, fun _ => hr.isDisabled⟩

theorem keeps_of_isDisabled_eq_false (h : isDisabled line = false) :
    assemble.encoded line = line ∧ assemble.warningsAbout line = [] := by
  rw [encoded, warningsAbout, encodeLine_of_isDisabled_eq_false h]
  exact ⟨rfl, rfl⟩

/-- A line that was assembled is left as it is, with the same warnings. -/
theorem encoded_encoded (assemble : Assembler) (line : Text) :
    assemble.encoded (assemble.encoded line) = assemble.encoded line ∧
      assemble.warningsAbout (assemble.encoded line) = assemble.warningsAbout line := by
  have h := assemble.settles line
  generalize ho : assemble.encoded line = out at h
  generalize hw : assemble.warningsAbout line = warnings at h
  cases h with
  | plain hplain => exact ⟨ho, hw⟩
  | @encoded text instruction code ht ha =>
      exact keeps_of_isDisabled_eq_false (not_isDisabled_encodedLine code text)
  | refused hr => exact ⟨ho, hw⟩

/-- Each line is assembled or stays as it is, there is one warning for each line that is refused, in order, and a second
pass over the result changes nothing. -/
theorem encodeLines_settled (assemble : Assembler) (lines : List Text) :
    ∃ settled : List (Text × List Text),
      assemble.encodeLines lines = (settled.map (·.1), settled.flatMap (·.2)) ∧
      List.Forall₂ (fun line s => assemble.Settles line s.1 s.2 ∧
        (isDisabled s.1 = true ↔ ∃ fault, assemble.Refuses line fault)) lines settled ∧
      assemble.encodeLines (settled.map (·.1)) = (settled.map (·.1), settled.flatMap (·.2)) := by
  refine ⟨lines.map fun line => (assemble.encoded line, assemble.warningsAbout line), ?_, ?_, ?_⟩
  · rw [encodeLines_eq, List.map_map, List.flatMap_map]
    rfl
  · rw [List.forall₂_map_right_iff, List.forall₂_same]
    exact fun line _ => ⟨assemble.settles line, (assemble.settles line).isDisabled_iff⟩
  · simp only [encodeLines_eq, List.map_map, List.flatMap_map, Function.comp_def, encoded_encoded]

/-- An assembler that knows one instruction. -/
def clearing : Assembler := fun instruction =>
  if instruction = "xor eax, eax".toList then .code [0x31, 0xC0] else .rejected "unknown".toList

/-- Of two disabled lines the one without code stays. -/
theorem encodeLines_settled_sample :
    let lines := ["    RET".toList, disabledMargin ++ "xor eax, eax".toList, disabledMargin ++ "frob eax".toList]
    let out := ["    RET".toList, "    WORD $0xc031 // xor eax, eax".toList, disabledMargin ++ "frob eax".toList]
    clearing.encodeLines lines = (out, ["unknown - frob eax".toList]) ∧
      clearing.encodeLines out = (out, ["unknown - frob eax".toList]) := by
  intro lines out
  have hlines : clearing.encodeLines lines = (out, ["unknown - frob eax".toList]) := by decide +kernel
  obtain ⟨settled, he, -, hagain⟩ := encodeLines_settled clearing lines
  rw [← he, hlines] at hagain
  obtain ⟨hout, -⟩ := Prod.mk.inj (hlines.symm.trans he)
  exact ⟨hlines, hout ▸ hagain⟩

/-- A line with an offset that is too long stays, whatever the assembler has for it. -/
theorem longOffset_stays :
    let line := disabledMargin ++ ("mov rbx, ".toList ++ (Decimal.ofInt (10 ^ 4300 : Nat) ++ "[rax]".toList))
    let assemble : Assembler := fun _ => .code [0x90]
    assemble.encodeLines [line] = ([line], [Fault.message (.tooManyDigits 4301)]) := by
  intro line assemble
  have hlength : (Decimal.ofNat (10 ^ 4300 : Nat)).length = 4301 := Decimal.length_ofNat_pow 4300
  have hoffset : insertOffsets (Decimal.ofInt (10 ^ 4300 : Nat) ++ "[rax]".toList) = .error (.tooManyDigits 4301) := by
    have hlong : Decimal.digitLimit < (Decimal.ofNat ((10 ^ 4300 : Nat) : Int).natAbs).length := by
      rw [Int.natAbs_natCast, hlength]
      decide
    have hbase : ∀ c ∈ "rax".toList, isWordChar c := by decide
    have hrefused := insertOffsets_of_digitLimit_lt hlong (List.cons_ne_nil _ _) hbase
    rwa [Int.natAbs_natCast, hlength] at hrefused
  have hmoved : insertOffsets ("mov rbx, ".toList ++ (Decimal.ofInt (10 ^ 4300 : Nat) ++ "[rax]".toList)) =
      .error (.tooManyDigits 4301) := by
    rw [insertOffsets_append, hoffset]
    · rfl
    · intro s hs hne
      have hblank : ∀ s ∈ "mov rbx, ".toList.tails, s ≠ [] → ' ' ∈ s ∧ '[' ∉ s := by decide
      obtain ⟨hspace, hbracket⟩ := hblank s ((List.mem_tails _ _).mpr hs) hne
      rw [← List.append_assoc]
      refine Displacement.parse?_eq_none_of_mem (by decide) (by decide) (List.mem_append_left _ hspace) ?_
      rw [List.mem_append, not_or]
      exact ⟨hbracket, Decimal.not_mem_ofInt (by decide) (by decide)⟩
  have hcomment : ¬ "/*".toList <:+: "mov rbx, ".toList ++ (Decimal.ofInt (10 ^ 4300 : Nat) ++ "[rax]".toList) := by
    intro h
    have hslash := h.subset (List.mem_cons_self : '/' ∈ "/*".toList)
    rw [List.mem_append, List.mem_append] at hslash
    rcases hslash with h | h | h
    · revert h
      decide
    · exact Decimal.not_mem_ofInt (by decide) (by decide) h
    · revert h
      decide
  have hread : toIntel ("mov rbx, ".toList ++ (Decimal.ofInt (10 ^ 4300 : Nat) ++ "[rax]".toList)) =
      .error (.tooManyDigits 4301) := by
    rw [toIntel, dropComments_eq_self hcomment, hmoved]
    rfl
  have hline : assemble.encodeLine line = .error (.tooManyDigits 4301) := by
    rw [encodeLine_append, hread]
    rfl
  rw [encodeLines_eq, List.map_singleton, List.flatMap_singleton, encoded, warningsAbout, hline]

end Assembler

end AsmBridge
