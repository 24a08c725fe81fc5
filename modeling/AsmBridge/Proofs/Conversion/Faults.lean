import AsmBridge.Proofs.Body.Faults
import AsmBridge.Proofs.Conversion.Composition
import AsmBridge.Proofs.Line.Digits
import AsmBridge.Proofs.Listing.Digits
import Mathlib.Algebra.Group.Int.Defs

/-!
# What can be wrong with a function

A function that is not converted has a fault that concerns no other function, or asks for a number that is too long to be
read or written. Where the numbers of a listing are short, such a number can only come from a line that names a block and
has a bracket, because the name loses a dot and so brings digits together.
-/

namespace AsmBridge

open Decimal (digitLimit)

variable {table : Table} {fault : Fault}

/-! ## Causes -/

theorem fault_of_restrictTable {lines : List Text} (h : restrictTable table lines = .error fault) : fault.isLocal = true := by
  obtain ⟨symbol, rfl, -⟩ := restrictTable_eq_error_iff.mp h
  rfl

theorem labels_subset_of_restrictTable {used : Table} {lines : List Text} (h : restrictTable table lines = .ok used) :
    used.labels ⊆ table.labels := by
  obtain ⟨-, rfl⟩ := restrictTable_eq_ok_iff.mp h
  exact List.filter_subset_self _

/-- What is wrong with a function concerns that function only, or is a number that is too long. -/
theorem Function.Becomes.fault_cases {f : Function} {count? : Option Int} (h : f.Becomes table count? (.error fault)) :
    fault.isLocal = true ∨ fault.isOverlong = true ∧ ((∃ line ∈ f.lines, digitLimit < line.longestRun) ∨
      (∃ label ∈ table.labels, Decimal.IsLong label.offset) ∨
      ∃ shape count used, Shape.ofFunction f = .ok shape ∧ count? = some count ∧
        ∃ line ∈ f.lines, EndsInLongNumber (shape.epilogue.layout (shape.stackArgs count) used) (respelledLine line)) := by
  cases h with
  | undeclared => exact .inl rfl
  | shapeless hs =>
      rcases Shape.fault_of_ofFunction hs with hkind | ⟨hlong, line, hl, form, hform, hrun⟩
      · exact .inl (Fault.isLocal_of_listing hkind)
      · exact .inr ⟨hlong, .inl ⟨line, hl, hrun.trans_le (EntryForm.longestRun_number_le hform)⟩⟩
  | unresolved hs hu => exact .inl (fault_of_restrictTable hu)
  | refused hs hu hb =>
      refine (fault_of_convertBody (Shape.epilogue_fits hs) hb).imp_right fun ⟨hlong, hcause⟩ => ⟨hlong, .inr ?_⟩
      rcases hcause with ⟨label, hl, hoffset⟩ | ⟨line, hl, hasks⟩
      · exact .inl ⟨label, labels_subset_of_restrictTable hu hl, hoffset⟩
      · exact .inr ⟨_, _, _, hs, rfl, line, Shape.body_subset hs (Epilogue.outside_subset _ _ hl), hasks.2.2⟩

/-! ## Short numbers -/

theorem Shape.offsetToFirst_range {f : Function} {shape : Shape} (h : ofFunction f = .ok shape) :
    0 ≤ shape.offsetToFirst ∧ shape.offsetToFirst ≤ 16 := by
  obtain ⟨entry, position, he, -⟩ := exists_of_ofFunction h
  have hoffset : shape.offsetToFirst = entry.offsetToFirst := by
    rw [he]
    rfl
  rw [hoffset, Entry.offsetToFirst, slotSize]
  split <;> decide

/-- The number that a line ends in is short where the line is a line of a listing with short numbers, unless the line names
a block. -/
theorem not_endsInLongNumber {line : Text} (hn : '\n' ∉ line) (hrun : line.longestRun ≤ 1000)
    (hblock : blockOpening <:+: line → '[' ∉ line) {args : StackArgs} (hlow : 0 ≤ args.offsetToFirst)
    (hhigh : args.offsetToFirst ≤ 16) (hnumber : args.number ≤ 2 ^ 31) (realigned present : Bool) :
    ¬ EndsInLongNumber (.select args realigned present) (respelledLine line) := by
  intro hlong
  have hbracket : '[' ∈ line := bracket_mem_of_endsInArgument hlong.choose_spec.1
  have hshort : (respelledLine line).longestRun ≤ 4000 :=
    longestRun_respelledLine_le hn (fun hb => hblock hb hbracket) hrun
  have hframe : args.offsetToFirst.natAbs + 8 * args.number + 64 < 10 ^ 11 := by omega
  exact not_endsInLongNumber_of_longestRun_le (by decide) (by decide) hshort hframe realigned present hlong

/-- A function whose lines have short numbers is not refused for a long one, unless one of its lines names a block and has a
bracket. -/
theorem Function.Becomes.exists_of_isOverlong {f : Function} {count? : Option Int} (h : f.Becomes table count? (.error fault))
    (hn : ∀ line ∈ f.lines, '\n' ∉ line) (hrun : ∀ line ∈ f.lines, line.longestRun ≤ 1000)
    (hcount : ∀ count ∈ count?, count < 2 ^ 31) (hlabels : ∀ label ∈ table.labels, label.offset.natAbs < 10 ^ digitLimit)
    (hf : fault.isLocal = false) : ∃ line ∈ f.lines, blockOpening <:+: line ∧ '[' ∈ line := by
  rcases h.fault_cases with hlocal | ⟨-, ⟨line, hl, hlong⟩ | ⟨label, hl, hlong⟩ | ⟨shape, count, used, hs, hc, line, hl, hends⟩⟩
  · rw [hf] at hlocal
    cases hlocal
  · have hshort := hrun line hl
    rw [digitLimit] at hlong
    omega
  · exact absurd hlong (Decimal.not_isLong_iff.mpr (hlabels label hl))
  · by_contra hnone
    obtain ⟨hlow, hhigh⟩ := Shape.offsetToFirst_range hs
    have hbound := hcount count hc
    refine not_endsInLongNumber (hn line hl) (hrun line hl) (fun hb hm => hnone ⟨line, hl, hb, hm⟩) hlow hhigh ?_ _ _ hends
    simp only [Shape.stackArgs]
    omega

end AsmBridge
