import AsmBridge.Proofs.Body.Faults
import AsmBridge.Proofs.Line.Digits

/-!
# The exit sequence of a body

A body becomes what its lines in front of the exit sequence and behind it become, with the new exit sequence in between. It is
refused for the first of these lines that is not converted. What stands in the old exit sequence does not matter.
-/

namespace AsmBridge

/-! ## Three parts -/

/-- What comes of the lines in front of the exit sequence and of those behind it, around the new exit sequence, which is left
out where the old one has no lines. -/
def Epilogue.splice (e : Epilogue) (table : Table) (layout : Layout) (lines : List Text) : Except Fault (List Text) := do
  let before ← (lines.take e.start.toNat).mapM (convertLine table layout)
  let after ← (lines.drop e.stop.toNat).mapM (convertLine table layout)
  return before.reduceOption ++ ((if e.start < e.stop then epilogueLines e.frame else []) ++ after.reduceOption)

theorem convertBody_eq_splice {lines : List Text} {e : Epilogue} (hf : e.fits lines.length) (args : StackArgs) (table : Table) :
    convertBody lines e args table = e.splice table (e.layout args table) lines := by
  rw [convertBody_eq hf, convertLines_eq_mapM, convertLines_eq_mapM, Epilogue.splice]
  cases (lines.take e.start.toNat).mapM (convertLine table (e.layout args table)) with
  | error fault => rfl
  | ok before => cases (lines.drop e.stop.toNat).mapM (convertLine table (e.layout args table)) <;> rfl

/-! ## Lines of the old exit sequence -/

/-- Whether two lists of lines differ in the exit sequence only. -/
structure Epilogue.SameOutside (e : Epilogue) (lines other : List Text) : Prop where
  length_eq : other.length = lines.length
  getElem?_eq : ∀ i < lines.length, e.covers i = false → other[i]? = lines[i]?

section

variable {e : Epilogue} {table : Table} {layout : Layout}

theorem convertAt_eq_of_covers {index : Nat} {line other : Text} (h : e.covers index = false → other = line) :
    convertAt e table layout index other = convertAt e table layout index line := by
  unfold convertAt
  cases hc : e.covers index with
  | true => rfl
  | false => rw [h hc]

theorem convertFrom_eq_of_outside {index : Nat} {lines other : List Text} (hl : other.length = lines.length)
    (h : ∀ i < lines.length, e.covers (index + i) = false → other[i]? = lines[i]?) :
    convertFrom e table layout index other = convertFrom e table layout index lines := by
  induction lines generalizing index other with
  | nil => rw [List.length_eq_zero_iff.mp hl]
  | cons line lines ih =>
      obtain ⟨first, rest, rfl⟩ := List.exists_cons_of_length_eq_add_one hl
      have hhere : convertAt e table layout index first = convertAt e table layout index line :=
        convertAt_eq_of_covers fun hc => Option.some.inj (h 0 (Nat.succ_pos _) hc)
      have hafter : convertFrom e table layout (index + 1) rest = convertFrom e table layout (index + 1) lines :=
        ih (Nat.succ.inj hl) fun i hi hc => by
          rw [Nat.add_assoc, Nat.add_comm 1 i] at hc
          exact h (i + 1) (Nat.succ_lt_succ hi) hc
      rw [convertFrom, convertFrom, hhere, hafter]

theorem convertBody_eq_of_sameOutside {lines other : List Text} (h : e.SameOutside lines other) (args : StackArgs) :
    convertBody other e args table = convertBody lines e args table := by
  have hlines : convertFrom e table (e.layout args table) 0 other = convertFrom e table (e.layout args table) 0 lines :=
    convertFrom_eq_of_outside h.length_eq fun i hi hc => h.getElem?_eq i hi (Nat.zero_add i ▸ hc)
  rw [convertBody, convertBody, h.length_eq]
  exact congrArg _ (funext fun _ => hlines)

end

/-! ## Faults of values -/

/-- The most digits of a number that counts as short. -/
def Decimal.shortLength : Nat := 4000

open Decimal (shortLength)

/-- Whether the numbers are short that a conversion reckons with or writes. -/
structure HasShortNumbers (e : Epilogue) (args : StackArgs) (table : Table) : Prop where
  frame : e.frame.size.natAbs < 10 ^ shortLength
  number : args.number < 10 ^ shortLength
  offsetToFirst : args.offsetToFirst.natAbs < 10 ^ shortLength
  labels : ∀ label ∈ table.labels, label.offset.natAbs < 10 ^ shortLength

section

variable {e : Epilogue} {args : StackArgs} {table : Table}

theorem HasShortNumbers.not_isLong (h : HasShortNumbers e args table) : ∀ label ∈ table.labels, ¬ Decimal.IsLong label.offset := by
  intro label hl
  refine Decimal.not_isLong_iff.mpr ((h.labels label hl).trans_le ?_)
  exact Nat.pow_le_pow_right (by decide) (by decide)

theorem HasShortNumbers.not_asksLongNumber (h : HasShortNumbers e args table) {line : Text}
    (hrun : (respelledLine line).longestRun ≤ shortLength) : ¬ AsksLongNumber table (e.layout args table) line := by
  rintro ⟨-, -, hlong⟩
  have hframe : args.offsetToFirst.natAbs + 8 * args.number + 64 < 10 ^ (shortLength + 1) := by
    have hnumber := h.number
    have hfirst := h.offsetToFirst
    have hpow : 10 ^ 2 ≤ 10 ^ shortLength := Nat.pow_le_pow_right (by decide) (by decide)
    rw [Nat.pow_succ]
    generalize 10 ^ shortLength = limit at hnumber hfirst hpow ⊢
    omega
  exact not_endsInLongNumber_of_longestRun_le (k := shortLength + 1) (by decide) (Nat.le_refl _) (Nat.le_succ_of_le hrun)
    hframe e.frame.realigned table.isPresent hlong

/-- Where the offsets of the labels are short, a body is refused for a value exactly if its exit sequence does not lie within
it, or if the first line that is not converted asks for a number that is too long. -/
theorem exists_value_convertBody_iff (hlabels : ∀ label ∈ table.labels, ¬ Decimal.IsLong label.offset) (lines : List Text)
    (e : Epilogue) (args : StackArgs) : (∃ fault, convertBody lines e args table = .error fault ∧ fault.kind = .value) ↔
      e.fits lines.length = false ∨ ∃ line, IsReached table (e.layout args table) (e.outside lines) line ∧
        AsksLongNumber table (e.layout args table) line := by
  constructor
  · rintro ⟨fault, h, hkind⟩
    cases hf : e.fits lines.length with
    | false => exact .inl rfl
    | true =>
        obtain ⟨line, hreached, hline⟩ := (convertBody_eq_error_iff hf).mp h
        exact .inr ⟨line, hreached, (exists_value_convertLine_iff hlabels).mp ⟨fault, hline, hkind⟩⟩
  · cases hf : e.fits lines.length with
    | false => exact fun _ => ⟨_, convertBody_of_not_fits hf args table, rfl⟩
    | true =>
        rintro (hfalse | ⟨line, hreached, hasks⟩)
        · cases hfalse
        · obtain ⟨fault, hline, hkind⟩ := (exists_value_convertLine_iff hlabels).mpr hasks
          exact ⟨fault, (convertBody_eq_error_iff hf).mpr ⟨line, hreached, hline⟩, hkind⟩

end

/-- A line is refused for a number of which it has only the two parts. -/
theorem convertLine_joined {a b : Text} (ha : ∀ c ∈ a, c.isDigit) (hb : ∀ c ∈ b, c.isDigit)
    (hlong : Decimal.digitLimit < a.length + b.length) (layout : Layout) :
    convertLine {} layout (aboveFrame (a ++ ("xmmword ".toList ++ b))) = .error (.tooManyDigits (a.length + b.length)) := by
  have hlength : Decimal.digitLimit < (a ++ b).length := List.length_append ▸ hlong
  have hends : EndsInArgument (respelledLine (aboveFrame (a ++ ("xmmword ".toList ++ b)))) (a ++ b) := by
    rw [respelledLine_joined ha hb]
    refine ⟨⟨List.ne_nil_of_length_pos (Nat.zero_lt_of_lt hlength), ?_⟩, [], [], rfl, rfl⟩
    exact List.all_eq_true.mpr (List.forall_mem_append.mpr ⟨ha, hb⟩)
  rw [convertLine_eq_error (isDropped_aboveFrame (marked_chars ha hb)) rfl hends (.inl hlength), if_pos hlength,
    List.length_append]

end AsmBridge
