import AsmBridge.Proofs.Body.Lemmas.SingleOperand
import AsmBridge.Proofs.Line.Argument
import AsmBridge.Proofs.Text.DigitRun

/-!
# What can be wrong with a body

A body whose exit sequence lies within it and that is not converted has a line with a fault that concerns the function only,
or with one of a number that is too long to be read or written. Such a number is the offset of a label, or the one of the
argument that the line ends in, or the place of that argument.
-/

namespace AsmBridge

open Decimal (digitLimit)

variable {table : Table} {fault : Fault}

/-- Whether an integer has more digits than may be written. -/
def Decimal.IsLong (n : Int) : Prop :=
  digitLimit < (Decimal.ofNat n.natAbs).length

/-! ## Lines -/

/-- Whether a line ends in the number of an argument that is too long, or whose place is. -/
def EndsInLongNumber (layout : Layout) (line : Text) : Prop :=
  ∃ digits, EndsInArgument line digits ∧
    (digitLimit < digits.length ∨ Decimal.IsLong (layout.resolve (Decimal.value digits)))

section

variable {layout : Layout} {line : Text}

theorem fault_of_resolveConstant (h : resolveConstant table line = .error fault) :
    fault.isLocal = true ∨ fault.isOverlong = true ∧ ∃ label ∈ table.labels, Decimal.IsLong label.offset := by
  unfold resolveConstant at h
  split at h
  · cases h
  · simp only at h
    split at h
    · cases h
      exact .inl rfl
    · rename_i label hl
      obtain ⟨hlong, hlength⟩ := Decimal.fault_of_write (eq_error_of_map h)
      exact .inr ⟨hlong, label, List.mem_of_find?_eq_some hl, hlength⟩

theorem fault_of_resolveArgument (h : resolveArgument layout line = .error fault) :
    fault.isOverlong = true ∧ EndsInLongNumber layout line := by
  unfold resolveArgument at h
  split at h
  · rename_i digits head tail hdigits hcut
    have hends := finalArgument?_eq_some_iff.mp hdigits
    rcases cases_of_bind_eq_error h with h | ⟨offset, hread, h⟩
    · obtain ⟨hlong, hlength⟩ := Decimal.fault_of_read h
      exact ⟨hlong, digits, hends, .inl hlength⟩
    · obtain rfl := Decimal.eq_value_of_read hread
      rcases cases_of_bind_eq_error h with h | ⟨place, -, h⟩
      · obtain ⟨hlong, hlength⟩ := Decimal.fault_of_write h
        exact ⟨hlong, digits, hends, .inr hlength⟩
      · cases h
  · cases h

theorem fault_of_resolveOperands (h : resolveOperands table layout line = .error fault) :
    fault.isLocal = true ∨ fault.isOverlong = true ∧ ((∃ label ∈ table.labels, Decimal.IsLong label.offset) ∨
      constantCut? table line = none ∧ EndsInLongNumber layout line) := by
  have hrest {line' : Text} (h : resolveArgument layout line' >>= refuseBelowFrame = .error fault) :
      fault.isLocal = true ∨ fault.isOverlong = true ∧ EndsInLongNumber layout line' := by
    rcases cases_of_bind_eq_error h with h | ⟨out, -, h⟩
    · exact .inr (fault_of_resolveArgument h)
    · unfold refuseBelowFrame at h
      split at h
      · cases h
        exact .inl rfl
      · cases h
  rw [resolveOperands_eq_bind] at h
  cases hcut : constantCut? table line with
  | none =>
      rw [resolveConstant_of_constantCut?_eq_none hcut] at h
      exact (hrest h).imp_right (And.imp_right fun hlong => .inr ⟨rfl, hlong⟩)
  | some parts =>
      obtain ⟨head, tail⟩ := parts
      obtain ⟨hp, hcut⟩ := constantCut?_eq_some_iff.mp hcut
      rw [if_pos hp] at h
      rcases cases_of_bind_eq_error h with h | ⟨line', hconstant, h⟩
      · exact (fault_of_resolveConstant h).imp_right (And.imp_right .inl)
      · -- A line whose operand moved ends in a comment, so it ends in no argument.
        obtain ⟨label, -, rfl⟩ := resolveConstant_of_cut hcut hconstant
        refine (hrest h).imp_right fun hlong => ?_
        obtain ⟨-, digits, hends, -⟩ := hlong
        exact absurd ⟨digits, hends⟩ (not_endsInArgument_commented head label.offset _ _ tail)

/-- Whether a line asks for a number that is too long, in an operand that is looked at. -/
def AsksLongNumber (table : Table) (layout : Layout) (line : Text) : Prop :=
  isDropped line = false ∧ constantCut? table (respelledLine line) = none ∧ EndsInLongNumber layout (respelledLine line)

theorem fault_of_convertLine (h : convertLine table layout line = .error fault) : fault.isLocal = true ∨
    fault.isOverlong = true ∧ ((∃ label ∈ table.labels, Decimal.IsLong label.offset) ∨ AsksLongNumber table layout line) := by
  rw [convertLine_eq_if] at h
  split at h
  · cases h
  · rename_i hd
    refine (fault_of_resolveOperands (eq_error_of_map h)).imp_right (And.imp_right (Or.imp_right fun hcause => ?_))
    exact ⟨Bool.eq_false_iff.mpr hd, hcause⟩

/-- The number that is read, or the place that is written, is too long. -/
theorem resolveArgument_eq_error {digits : Text} (hends : EndsInArgument line digits)
    (hlong : digitLimit < digits.length ∨ Decimal.IsLong (layout.resolve (Decimal.value digits))) :
    resolveArgument layout line =
      .error (if digitLimit < digits.length then .tooManyDigits digits.length else .tooLongToWrite) := by
  obtain ⟨head, tail, -, hline⟩ := hends.exists_bind layout
  rw [hline]
  by_cases hl : digitLimit < digits.length
  · rw [if_pos hl, Decimal.read_of_digitLimit_lt hl]
    rfl
  · have hread : Decimal.read digits = .ok (Decimal.value digits) := if_neg hl
    have hwrite : Decimal.write (layout.resolve (Decimal.value digits)) = .error .tooLongToWrite :=
      if_pos (hlong.resolve_left hl)
    rw [if_neg hl, hread, ok_bind, hwrite]
    rfl

theorem convertLine_eq_error {digits : Text} (hd : isDropped line = false) (hcut : constantCut? table (respelledLine line) = none)
    (hends : EndsInArgument (respelledLine line) digits)
    (hlong : digitLimit < digits.length ∨ Decimal.IsLong (layout.resolve (Decimal.value digits))) :
    convertLine table layout line =
      .error (if digitLimit < digits.length then .tooManyDigits digits.length else .tooLongToWrite) := by
  have hresolve : resolveOperands table layout (respelledLine line) =
      .error (if digitLimit < digits.length then .tooManyDigits digits.length else .tooLongToWrite) := by
    rw [resolveOperands_eq_bind, resolveConstant_of_constantCut?_eq_none hcut, ok_bind, resolveArgument_eq_error hends hlong]
    rfl
  rw [convertLine_eq_if, if_neg (Bool.eq_false_iff.mp hd), hresolve]
  rfl

/-- Where the offsets of the labels are short, a line has a fault of a value exactly if it asks for a number that is too
long. -/
theorem exists_value_convertLine_iff (hlabels : ∀ label ∈ table.labels, ¬ Decimal.IsLong label.offset) :
    (∃ fault, convertLine table layout line = .error fault ∧ fault.kind = .value) ↔ AsksLongNumber table layout line := by
  constructor
  · rintro ⟨fault, h, hkind⟩
    rcases fault_of_convertLine h with hlocal | ⟨-, ⟨label, hl, hoffset⟩ | hasks⟩
    · exact absurd hkind (Fault.kind_ne_value_of_isLocal hlocal)
    · exact absurd hoffset (hlabels label hl)
    · exact hasks
  · rintro ⟨hd, hcut, digits, hends, hlong⟩
    refine ⟨_, convertLine_eq_error hd hcut hends hlong, ?_⟩
    split <;> rfl

end

/-! ## Bodies -/

theorem fault_of_convertBody {lines : List Text} {e : Epilogue} (hf : e.fits lines.length) {args : StackArgs}
    (h : convertBody lines e args table = .error fault) :
    fault.isLocal = true ∨ fault.isOverlong = true ∧ ((∃ label ∈ table.labels, Decimal.IsLong label.offset) ∨
      ∃ line ∈ e.outside lines, AsksLongNumber table (e.layout args table) line) := by
  obtain ⟨line, hreached, h⟩ := (convertBody_eq_error_iff hf).mp h
  exact (fault_of_convertLine h).imp_right (And.imp_right (Or.imp_right fun hcause => ⟨line, hreached.mem, hcause⟩))

/-! ## Short numbers -/

theorem Decimal.not_isLong_iff {n : Int} : ¬ IsLong n ↔ n.natAbs < 10 ^ digitLimit :=
  Nat.not_lt.trans (length_ofNat_le_iff (by decide))

theorem Decimal.add_lt_pow {m n k : Nat} (hk : k < digitLimit) (hm : m < 10 ^ k) (hn : n < 10 ^ k) : m + n < 10 ^ digitLimit := by
  have hpow : 10 ^ (k + 1) ≤ 10 ^ digitLimit := Nat.pow_le_pow_right (by decide) hk
  rw [Nat.pow_succ] at hpow
  generalize 10 ^ digitLimit = limit at hpow ⊢
  omega

/-- The place of an argument is its offset but for the size of the frame. -/
theorem Layout.natAbs_resolve_le (args : StackArgs) (realigned present : Bool) (n : Nat) :
    ((select args realigned present).resolve n).natAbs ≤ n + (args.offsetToFirst.natAbs + 8 * args.number + 64) := by
  have hslot : ((slotSize : Nat) : Int) = 8 := rfl
  rw [select]
  split
  · have hfirst := Int.mul_fdiv_add_fmod args.offsetToFirst 8
    have hlow : 0 ≤ args.offsetToFirst.fmod 8 := Int.fmod_nonneg_of_pos _ (by decide)
    have hhigh : args.offsetToFirst.fmod 8 < 8 := Int.fmod_lt_of_pos _ (by decide)
    simp only [resolve, hslot]
    omega
  · simp only [resolve, hslot, registerCount]
    omega

theorem EndsInArgument.length_le {line digits : Text} (h : EndsInArgument line digits) : digits.length ≤ line.longestRun := by
  have hdecimal : ∀ c ∈ digits, isDecimalDigit c = true := fun c hc =>
    Decimal.isDecimalDigit_of_isDigit (List.all_eq_true.mp h.1.2 c hc)
  exact Text.length_le_longestRun hdecimal h.infix_line.2

/-- The number that a line ends in is short where the runs of digits of the line and the frame are. -/
theorem not_endsInLongNumber_of_longestRun_le {line : Text} {k m : Nat} (hk : k < digitLimit) (hm : m ≤ k)
    (hrun : line.longestRun ≤ k) {args : StackArgs} (hargs : args.offsetToFirst.natAbs + 8 * args.number + 64 < 10 ^ m)
    (realigned present : Bool) : ¬ EndsInLongNumber (.select args realigned present) line := by
  rintro ⟨digits, hends, hlong⟩
  have hlength : digits.length ≤ k := hends.length_le.trans hrun
  rcases hlong with hlong | hlong
  · omega
  · -- The place adds at most the size of the frame, which does not reach the limit where the number itself does not.
    refine Decimal.not_isLong_iff.mpr ?_ hlong
    exact (Layout.natAbs_resolve_le args realigned present _).trans_lt (Decimal.add_lt_pow hk
      ((Decimal.value_lt digits).trans_le (Nat.pow_le_pow_right (by decide) hlength))
      (hargs.trans_le (Nat.pow_le_pow_right (by decide) hm)))

theorem bracket_mem_of_endsInArgument {line digits : Text} (h : EndsInArgument (respelledLine line) digits) : '[' ∈ line := by
  by_contra hm
  have hstrip : '[' ∉ stripComment line := fun h => hm ((stripComment_prefix_self line).subset h)
  exact bracket_not_mem_respell hstrip (h.infix_line.1.subset (by decide))

end AsmBridge
