import AsmBridge.Proofs.Pool.Lemmas.Numeral
import Mathlib.Data.Nat.Find

/-!
# Directives with numbers

The bytes that directives for numbers, space and alignment stand for, and when the machine can hold them.
-/

namespace AsmBridge

/-! ## Directives -/

/-- The lowest `size` bytes of a number in two's complement, the lowest first. -/
def twosComplement (size : Nat) (n : Int) : List UInt8 :=
  (List.range size).map fun i => UInt8.ofNat ((n % 2 ^ (8 * size)).toNat / 256 ^ i)

theorem padding_nonneg (length : Nat) (alignment : Int) : 0 ≤ padding length alignment :=
  Int.emod_nonneg _ (by omega)

theorem dvd_add_padding (length : Nat) (alignment : Int) : max alignment 1 ∣ (length : Int) + padding length alignment := by
  rw [padding, Int.dvd_iff_emod_eq_zero, Int.add_emod, Int.emod_emod, ← Int.add_emod]
  simp

theorem exists_padding (length : Nat) (alignment : Int) : ∃ k : Nat, max alignment 1 ∣ (length : Int) + k := by
  refine ⟨(padding length alignment).toNat, ?_⟩
  rw [Int.toNat_of_nonneg (padding_nonneg length alignment)]
  exact dvd_add_padding length alignment

/-- The least number of bytes that makes a length a multiple of an alignment, where less than one counts as one. -/
def leastPadding (length : Nat) (alignment : Int) : Nat :=
  Nat.find (exists_padding length alignment)

/-- A directive with numbers. -/
inductive DataItem
  | values (name : Text) (size : Nat) (known : (name, size) ∈ numberDirectives) (first : Numeral)
      (rest : List Numeral)
  | space (name : Text) (known : name ∈ spaceDirectives) (count : Numeral) (fill : Option Numeral)
  | align (name : Text) (known : (name, false) ∈ alignmentDirectives) (alignment : Numeral)
  | power (exponent : Numeral) (nonnegative : 0 ≤ exponent.value)

namespace DataItem

def directive : DataItem → Text
  | values name _ _ _ _ | space name _ _ _ | align name _ _ => name
  | power _ _ => "p2align".toList

def operands : DataItem → List Text
  | values _ _ _ first rest => (first :: rest).map Numeral.text
  | space _ _ count fill => count.text :: fill.toList.map Numeral.text
  | align _ _ alignment => [alignment.text]
  | power exponent _ => [exponent.text]

/-- The bytes that a directive stands for, behind data of a length. -/
def image (length : Nat) : DataItem → List UInt8
  | values _ size _ first rest => (first :: rest).flatMap fun n => twosComplement size n.value
  | space _ _ count fill => List.replicate count.value.toNat (UInt8.ofNat ((fill.elim 0 Numeral.value) % 256).toNat)
  | align _ _ alignment => List.replicate (leastPadding length alignment.value) 0
  | power exponent _ => List.replicate (leastPadding length (2 ^ exponent.value.toNat)) 0

/-- Whether a run of bytes, and the power of two that it is made for, are of a size that the machine can hold. -/
def Fits (length : Nat) : DataItem → Prop
  | values _ _ _ _ _ => True
  | space _ _ count _ => -lengthLimit ≤ count.value ∧ count.value < memoryLimit
  | align _ _ alignment => (leastPadding length alignment.value : Int) < memoryLimit
  | power exponent _ => exponent.value < exponentLimit ∧
      (leastPadding length (2 ^ exponent.value.toNat) : Int) < memoryLimit

end DataItem

/-! ## Numbers -/

theorem emod_mul_ediv (n : Int) {a m : Int} (ha : 0 < a) : n % (a * m) / a = n / a % m := by
  rw [Int.emod_def, Int.emod_def, ← Int.ediv_ediv_of_nonneg (Int.le_of_lt ha), Int.mul_assoc, Int.sub_eq_add_neg, ← Int.mul_neg,
    Int.add_mul_ediv_left _ _ (Int.ne_of_gt ha), ← Int.sub_eq_add_neg]

theorem littleEndian_eq (size : Nat) (n : Int) : littleEndian size n = twosComplement size n := by
  induction size generalizing n with
  | zero => rfl
  | succ size ih =>
      have hpow : (2 : Int) ^ (8 * (size + 1)) = 256 * 2 ^ (8 * size) := by
        rw [Nat.mul_add, Nat.mul_one, Int.pow_add, Int.mul_comm]
        rfl
      have hnonneg : 0 ≤ n % (256 * 2 ^ (8 * size)) := Int.emod_nonneg _ (by positivity)
      rw [littleEndian, ih, twosComplement, twosComplement, List.range_succ_eq_map, List.map_cons, List.map_map, hpow]
      congr 1
      · rw [← UInt8.toNat_inj, UInt8.toNat_ofNat', UInt8.toNat_ofNat', Nat.pow_zero, Nat.div_one]
        have hlow := Int.emod_emod_of_dvd n (Int.dvd_mul_right 256 (2 ^ (8 * size)))
        omega
      · refine List.map_congr_left fun i _ => ?_
        have hhigh : (n / 256 % 2 ^ (8 * size)).toNat = (n % (256 * 2 ^ (8 * size))).toNat / 256 := by
          rw [← emod_mul_ediv n (by decide : (0 : Int) < 256)]
          omega
        rw [hhigh, Nat.div_div_eq_div_mul, Function.comp_apply, Nat.pow_succ, Nat.mul_comm 256]

theorem ofNumbers_text (size : Nat) (numerals : List Numeral) :
    Image.ofNumbers size (numerals.map Numeral.text) = { bytes := numerals.flatMap fun n => twosComplement size n.value } := by
  induction numerals with
  | nil => rfl
  | cons n numerals ih =>
      rw [List.map_cons, Image.ofNumbers, n.read_text]
      simp only [ih, littleEndian_eq]
      rfl

/-! ## Runs of bytes -/

theorem padding_eq (length : Nat) (alignment : Int) : padding length alignment = leastPadding length alignment := by
  have hnonneg := padding_nonneg length alignment
  have hfind : leastPadding length alignment = (padding length alignment).toNat := by
    refine (Nat.find_eq_iff _).mpr ⟨?_, fun k hk hdvd => ?_⟩
    · rw [Int.toNat_of_nonneg hnonneg]
      exact dvd_add_padding length alignment
    · -- A number of bytes that does has the same remainder as the negative length.
      have hmod : (k : Int) % max alignment 1 = padding length alignment := by
        rw [padding, Int.emod_eq_emod_iff_emod_sub_eq_zero, Int.sub_neg, Int.add_comm]
        exact Int.emod_eq_zero_of_dvd hdvd
      have hquotient : 0 ≤ max alignment 1 * ((k : Int) / max alignment 1) :=
        Int.mul_nonneg (by omega) (Int.ediv_nonneg (by omega) (by omega))
      have hdiv := Int.emod_add_mul_ediv k (max alignment 1)
      omega
  rw [hfind, Int.toNat_of_nonneg hnonneg]

theorem replicateByte_eq_ok {length : Int} (hl : -lengthLimit ≤ length) (hm : length < memoryLimit) (byte : UInt8) :
    replicateByte length byte = .ok (List.replicate length.toNat byte) := by
  rw [lengthLimit] at hl
  rw [memoryLimit] at hm
  rw [replicateByte, lengthLimit, memoryLimit, if_neg (by omega), if_neg (by omega)]

theorem replicateByte_eq_error {length : Int} (h : ¬ (-lengthLimit ≤ length ∧ length < memoryLimit)) (byte : UInt8) :
    ∃ f : Fault, replicateByte length byte = .error f ∧ f.isValue = false := by
  rw [replicateByte]
  split
  · exact ⟨_, rfl, rfl⟩
  · split
    · exact ⟨_, rfl, rfl⟩
    · omega

theorem replicateByte_natCast (length : Nat) :
    ((length : Int) < memoryLimit → replicateByte length 0 = .ok (List.replicate length 0)) ∧
      (¬ (length : Int) < memoryLimit → ∃ f : Fault, replicateByte length 0 = .error f ∧ f.isValue = false) := by
  have hl : -lengthLimit ≤ (length : Int) := by
    rw [lengthLimit]
    omega
  exact ⟨fun hm => replicateByte_eq_ok hl hm 0, fun hm => replicateByte_eq_error (fun h => hm h.2) 0⟩

theorem powerOfTwo_eq_ok {exponent : Int} (hn : 0 ≤ exponent) (hl : exponent < exponentLimit) :
    powerOfTwo exponent = .ok (2 ^ exponent.toNat) := by
  rw [exponentLimit] at hl
  rw [powerOfTwo, exponentBound, exponentLimit, if_neg (by omega), if_neg (by omega), if_neg (by omega)]
  simp

theorem powerOfTwo_eq_error {exponent : Int} (hn : 0 ≤ exponent) (hl : ¬ exponent < exponentLimit) :
    ∃ f : Fault, powerOfTwo exponent = .error f ∧ f.isValue = false := by
  rw [powerOfTwo, if_neg (by omega)]
  split
  · exact ⟨_, rfl, rfl⟩
  · rw [if_pos (by omega)]
    exact ⟨_, rfl, rfl⟩

/-! ## Images -/

namespace DataItem

variable (i : DataItem)

theorem p2align_mem : ("p2align".toList, true) ∈ alignmentDirectives := by decide

theorem directive_mem : i.directive ∈ dataDirectives := by
  have hall : ∀ d ∈ alignmentDirectives, d.1 ∈ dataDirectives := by decide
  cases i with
  | values name size known first rest =>
      have hall : ∀ d ∈ numberDirectives, d.1 ∈ dataDirectives := by decide
      exact hall _ known
  | space name known count fill =>
      have hall : ∀ d ∈ spaceDirectives, d ∈ dataDirectives := by decide
      exact hall _ known
  | align name known alignment => exact hall _ known
  | power exponent nonnegative => exact hall _ p2align_mem

theorem isOperand_of_mem : ∀ t ∈ i.operands, IsOperand t := by
  have hall : ∀ numerals : List Numeral, ∀ t ∈ numerals.map Numeral.text, IsOperand t := fun numerals =>
    List.forall_mem_map.mpr fun n _ => n.isOperand_text
  cases i with
  | values name size known first rest => exact hall (first :: rest)
  | space name known count fill => exact hall (count :: fill.toList)
  | align name known alignment => exact hall [alignment]
  | power exponent nonnegative => exact hall [exponent]

theorem ofDirective_values {directive : Text} {size : Nat} (known : (directive, size) ∈ numberDirectives) (operands : List Text)
    (length : Nat) : Image.ofDirective directive operands length = Image.ofNumbers size operands := by
  have hall : ∀ d ∈ numberDirectives, numberDirectives.lookup d.1 = some d.2 := by decide
  have hlookup : numberDirectives.lookup directive = some size := hall _ known
  rw [Image.ofDirective, hlookup]

theorem ofDirective_alignment {directive : Text} {isPower : Bool} (known : (directive, isPower) ∈ alignmentDirectives)
    (operands : List Text) (length : Nat) :
    Image.ofDirective directive operands length = Image.ofAlignment isPower length operands := by
  have hall : ∀ d ∈ alignmentDirectives, numberDirectives.lookup d.1 = none ∧ stringDirectives.lookup d.1 = none ∧
      alignmentDirectives.lookup d.1 = some d.2 := by
    decide
  obtain ⟨hn, hs, ha⟩ := hall _ known
  rw [Image.ofDirective, hn, hs, ha]

theorem ofDirective_space {directive : Text} (known : directive ∈ spaceDirectives) (operands : List Text) (length : Nat) :
    Image.ofDirective directive operands length = Image.ofSpace operands := by
  have hall : ∀ d ∈ spaceDirectives, numberDirectives.lookup d = none ∧ stringDirectives.lookup d = none ∧
      alignmentDirectives.lookup d = none ∧ spaceDirectives.contains d = true := by
    decide
  obtain ⟨hn, hs, ha, hc⟩ := hall _ known
  rw [Image.ofDirective, hn, hs, ha]
  simp only [hc, ↓reduceIte]

/-- The image of a directive is that of the run that it asks for. -/
theorem ofSpace_text (count : Numeral) (fill : Option Numeral) :
    Image.ofSpace (count.text :: fill.toList.map Numeral.text) =
      Image.ofBytes (replicateByte count.value (UInt8.ofNat ((fill.elim 0 Numeral.value) % 256).toNat)) := by
  cases fill with
  | none =>
      rw [Option.toList_none, List.map_nil, Image.ofSpace, count.read_text]
      rfl
  | some fill =>
      rw [Option.toList_some, List.map_singleton, Image.ofSpace, count.read_text, fill.read_text]
      rfl

theorem ofAlignment_text (alignment : Numeral) (length : Nat) :
    Image.ofAlignment false length [alignment.text] =
      Image.ofBytes (replicateByte (leastPadding length alignment.value) 0) := by
  rw [Image.ofAlignment, alignment.read_text, ← padding_eq]
  rfl

theorem ofAlignment_power (exponent : Numeral) (length : Nat) :
    Image.ofAlignment true length [exponent.text] =
      Image.ofBytes (powerOfTwo exponent.value >>= fun alignment => replicateByte (leastPadding length alignment) 0) := by
  rw [Image.ofAlignment, exponent.read_text]
  simp only [← padding_eq]
  rfl

theorem ofDirective_of_fits {length : Nat} (h : i.Fits length) :
    Image.ofDirective i.directive i.operands length = { bytes := i.image length } := by
  cases i with
  | values name size known first rest => exact (ofDirective_values known _ _).trans (ofNumbers_text size _)
  | space name known count fill =>
      refine ((ofDirective_space known _ _).trans (ofSpace_text count fill)).trans ?_
      rw [replicateByte_eq_ok h.1 h.2]
      rfl
  | align name known alignment =>
      refine ((ofDirective_alignment known _ _).trans (ofAlignment_text alignment length)).trans ?_
      rw [(replicateByte_natCast _).1 h]
      rfl
  | power exponent nonnegative =>
      refine ((ofDirective_alignment p2align_mem _ _).trans (ofAlignment_power exponent length)).trans ?_
      rw [powerOfTwo_eq_ok nonnegative h.1]
      change Image.ofBytes (replicateByte (leastPadding length (2 ^ exponent.value.toNat)) 0) = _
      rw [(replicateByte_natCast _).1 h.2]
      rfl

theorem exists_ofBytes_of_error {run : Except Fault (List UInt8)} (h : ∃ f : Fault, run = .error f ∧ f.isValue = false) :
    ∃ f : Fault, Image.ofBytes run = { fault := some f } ∧ f.isValue = false := by
  obtain ⟨f, rfl, hf⟩ := h
  exact ⟨f, rfl, hf⟩

theorem ofDirective_of_not_fits {length : Nat} (h : ¬ i.Fits length) :
    ∃ f : Fault, Image.ofDirective i.directive i.operands length = { fault := some f } ∧ f.isValue = false := by
  cases i with
  | values name size known first rest => exact absurd trivial h
  | space name known count fill =>
      obtain ⟨f, hf, hv⟩ := exists_ofBytes_of_error (replicateByte_eq_error h _)
      exact ⟨f, ((ofDirective_space known _ _).trans (ofSpace_text count fill)).trans hf, hv⟩
  | align name known alignment =>
      obtain ⟨f, hf, hv⟩ := exists_ofBytes_of_error ((replicateByte_natCast _).2 h)
      exact ⟨f, ((ofDirective_alignment known _ _).trans (ofAlignment_text alignment length)).trans hf, hv⟩
  | power exponent nonnegative =>
      have hrun : ∃ f : Fault, (powerOfTwo exponent.value >>= fun alignment =>
          replicateByte (leastPadding length alignment) 0) = .error f ∧ f.isValue = false := by
        by_cases hl : exponent.value < exponentLimit
        · rw [powerOfTwo_eq_ok nonnegative hl]
          exact (replicateByte_natCast _).2 fun hm => h ⟨hl, hm⟩
        · obtain ⟨f, hp, hf⟩ := powerOfTwo_eq_error nonnegative hl
          rw [hp]
          exact ⟨f, rfl, hf⟩
      obtain ⟨f, hf, hv⟩ := exists_ofBytes_of_error hrun
      exact ⟨f, ((ofDirective_alignment p2align_mem _ _).trans (ofAlignment_power exponent length)).trans hf, hv⟩

end DataItem

end AsmBridge
