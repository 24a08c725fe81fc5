import AsmBridge.Proofs.Pool.Lemmas.Numeral
import Mathlib.Data.Nat.Digits.Lemmas

/-!
# Written hexadecimal numbers

The digits that are written for a number have its value, and those of a run of bytes have the value whose digits to the base
256 are the bytes, the first one lowest. So the bytes come back from the value and their number.
-/

namespace AsmBridge

/-- The value of hexadecimal digits. -/
def Hex.digits? (t : Text) : Option Nat :=
  if t ≠ [] ∧ t.all isHexDigit then some (valueInBase 16 t) else none

/-- Whether a text is `width` hexadecimal digits without capitals. -/
def Hex.Fills (width : Nat) (t : Text) : Prop :=
  t.length = width ∧ ∀ c ∈ t, c ∈ "0123456789abcdef".toList

/-! ## Numbers -/

/-- The digits of a number in hexadecimal. -/
theorem exists_toDigits (n : Nat) : ∃ digits : List (Fin 16), digits ≠ [] ∧
    Nat.toDigits 16 n = digits.map (fun d => Nat.digitChar d.val) ∧ Nat.ofDigits 16 (digits.map (·.val)).reverse = n := by
  induction n using Nat.strongRecOn with
  | ind n ih =>
      by_cases hn : n < 16
      · exact ⟨[⟨n, hn⟩], List.cons_ne_nil _ _, Nat.toDigits_of_lt_base hn, Nat.ofDigits_singleton⟩
      · obtain ⟨digits, hne, ht, hv⟩ := ih (n / 16) (by omega)
        refine ⟨digits ++ [⟨n % 16, Nat.mod_lt n (by decide)⟩], by simp, ?_, ?_⟩
        · rw [Nat.toDigits_of_base_le (by decide) (Nat.not_lt.mp hn), ht, List.map_append]
          rfl
        · rw [List.map_append, List.reverse_append, List.map_singleton, List.reverse_singleton, List.singleton_append,
            Nat.ofDigits_cons, hv]
          exact Nat.mod_add_div n 16

theorem exists_hex (width n : Nat) : ∃ digits : List (Fin 16), digits ≠ [] ∧
    Hex.ofNat width n = digits.map (fun d => Nat.digitChar d.val) ∧ Nat.ofDigits 16 (digits.map (·.val)).reverse = n := by
  obtain ⟨digits, hne, ht, hv⟩ := exists_toDigits n
  refine ⟨List.replicate (width - digits.length) 0 ++ digits, by simp [hne], ?_, ?_⟩
  · rw [Hex.ofNat, List.leftpad, ht, List.map_append, List.map_replicate, List.length_map]
    rfl
  · rw [List.map_append, List.reverse_append, List.map_replicate, List.reverse_replicate, Nat.ofDigits_append, hv]
    simp

theorem isHexDigit_of_areDigits {t : Text} (h : AreDigits 16 t) : t.all isHexDigit = true := by
  rw [List.all_eq_true]
  intro c hc
  obtain ⟨d, -, hd⟩ := h c hc
  rw [isHexDigit, hd]
  rfl

theorem Hex.digits?_eq {t : Text} (hn : t ≠ []) (h : AreDigits 16 t) : digits? t = some (valueInBase 16 t) :=
  if_pos ⟨hn, isHexDigit_of_areDigits h⟩

theorem areDigits_hex (width n : Nat) : AreDigits 16 (Hex.ofNat width n) := by
  obtain ⟨digits, -, ht, -⟩ := exists_hex width n
  rw [ht]
  exact areDigits_map (digitValue?_digitChar (by decide)) (fun d => d.isLt) digits

theorem Hex.digits?_ofNat (width n : Nat) : digits? (ofNat width n) = some n := by
  obtain ⟨digits, hne, ht, hv⟩ := exists_hex width n
  rw [digits?_eq ?_ (areDigits_hex width n), ht, valueInBase_map (digitValue?_digitChar (by decide)), hv]
  rwa [ht, ne_eq, List.map_eq_nil_iff]

/-- A number has more digits than the width only where it does not fit in. -/
theorem Hex.length_ofNat {width : Nat} (hw : 0 < width) (n : Nat) :
    width ≤ (ofNat width n).length ∧ (width < (ofNat width n).length ↔ 16 ^ width ≤ n) := by
  have hdigits : (Nat.toDigits 16 n).length ≤ width ↔ n < 16 ^ width := Nat.length_toDigits_le_iff (by decide) hw
  simp only [ofNat, List.leftpad, List.length_append, List.length_replicate]
  omega

/-! ## Runs of bytes -/

theorem valueInBase_concat (base : Nat) (t : Text) {c : Char} {d : Nat} (h : Hex.digitValue? c = some d) :
    valueInBase base (t ++ [c]) = base * valueInBase base t + d := by
  rw [valueInBase, List.foldl_append, List.foldl_cons, List.foldl_nil, h]
  rfl

theorem digitValue?_ofByte (b : UInt8) : Hex.digitValue? (Nat.digitChar (b.toNat / 16)) = some (b.toNat / 16) ∧
    Hex.digitValue? (Nat.digitChar (b.toNat % 16)) = some (b.toNat % 16) := by
  have hb := b.toNat_lt
  have hdigit := digitValue?_digitChar (Nat.le_refl 16)
  exact ⟨hdigit ⟨b.toNat / 16, by omega⟩, hdigit ⟨b.toNat % 16, Nat.mod_lt _ (by decide)⟩⟩

/-- The value of a word has its bytes for digits, the first one lowest. -/
theorem valueInBase_ofLittleEndian (bytes : List UInt8) :
    valueInBase 16 (Hex.ofLittleEndian bytes) = Nat.ofDigits 256 (bytes.map (·.toNat)) := by
  induction bytes with
  | nil => rfl
  | cons b bytes ih =>
      obtain ⟨hhigh, hlow⟩ := digitValue?_ofByte b
      have hword : Hex.ofLittleEndian (b :: bytes) =
          Hex.ofLittleEndian bytes ++ [Nat.digitChar (b.toNat / 16)] ++ [Nat.digitChar (b.toNat % 16)] := by
        simp [Hex.ofLittleEndian, Hex.ofByte]
      rw [hword, valueInBase_concat 16 _ hlow, valueInBase_concat 16 _ hhigh, ih, List.map_cons, Nat.ofDigits_cons]
      omega

theorem Hex.digits?_ofLittleEndian {bytes : List UInt8} (h : bytes ≠ []) :
    digits? (ofLittleEndian bytes) = some (Nat.ofDigits 256 (bytes.map (·.toNat))) := by
  obtain ⟨b, rest, rfl⟩ := List.exists_cons_of_ne_nil h
  rw [digits?_eq, valueInBase_ofLittleEndian]
  · simp [ofLittleEndian, ofByte]
  · intro c hc
    obtain ⟨byte, -, hc⟩ := List.mem_flatMap.mp hc
    obtain ⟨hhigh, hlow⟩ := digitValue?_ofByte byte
    have hb := byte.toNat_lt
    simp only [ofByte, List.mem_cons, List.not_mem_nil, or_false] at hc
    rcases hc with rfl | rfl
    · exact ⟨_, by omega, hhigh⟩
    · exact ⟨_, by omega, hlow⟩

/-- A byte of a word, from its value. -/
theorem byte_of_ofDigits (bytes : List UInt8) {i : Nat} (h : i < bytes.length) :
    UInt8.ofNat (Nat.ofDigits 256 (bytes.map (·.toNat)) / 256 ^ i) = bytes[i] := by
  have hdigits : ∀ d ∈ bytes.map (·.toNat), d < 256 := List.forall_mem_map.mpr fun b _ => b.toNat_lt
  have hdrop : (bytes.map (·.toNat)).drop i = bytes[i].toNat :: (bytes.map (·.toNat)).drop (i + 1) := by
    rw [← List.map_drop, List.drop_eq_getElem_cons h, List.map_cons, List.map_drop]
  rw [Nat.ofDigits_div_pow_eq_ofDigits_drop i (by decide) _ hdigits, hdrop, Nat.ofDigits_cons]
  apply UInt8.toNat_inj.mp
  have hb := bytes[i].toNat_lt
  rw [UInt8.toNat_ofNat']
  omega

theorem littleEndian_ofDigits (bytes : List UInt8) :
    littleEndian bytes.length (Nat.ofDigits 256 (bytes.map (·.toNat)) : Nat) = bytes := by
  induction bytes with
  | nil => rfl
  | cons b bytes ih =>
      have hb := b.toNat_lt
      have hvalue : Nat.ofDigits 256 ((b :: bytes).map (·.toNat)) = b.toNat + 256 * Nat.ofDigits 256 (bytes.map (·.toNat)) := by
        rw [List.map_cons, Nat.ofDigits_cons]
      generalize Nat.ofDigits 256 (bytes.map (·.toNat)) = rest at hvalue ih
      have hlow : (((b.toNat + 256 * rest : Nat) : Int) % 256).toNat = b.toNat := by omega
      have hhigh : ((b.toNat + 256 * rest : Nat) : Int) / 256 = (rest : Nat) := by omega
      rw [hvalue, List.length_cons, littleEndian, hlow, hhigh, ih, UInt8.ofNat_toNat]

/-- The digits of a run of bytes give the bytes back. -/
theorem littleEndian_ofLittleEndian (bytes : List UInt8) :
    littleEndian bytes.length (valueInBase 16 (Hex.ofLittleEndian bytes) : Nat) = bytes := by
  rw [valueInBase_ofLittleEndian, littleEndian_ofDigits]

theorem Hex.fills_ofLittleEndian (bytes : List UInt8) : Fills (2 * bytes.length) (ofLittleEndian bytes) := by
  have hdigit : ∀ d < 16, Nat.digitChar d ∈ "0123456789abcdef".toList := by decide
  constructor
  · simp [ofLittleEndian, ofByte, Nat.mul_comm]
  · intro c hc
    obtain ⟨byte, -, hc⟩ := List.mem_flatMap.mp hc
    have hb := byte.toNat_lt
    simp only [ofByte, List.mem_cons, List.not_mem_nil, or_false] at hc
    rcases hc with rfl | rfl
    · exact hdigit _ (by omega)
    · exact hdigit _ (Nat.mod_lt _ (by decide))

end AsmBridge
