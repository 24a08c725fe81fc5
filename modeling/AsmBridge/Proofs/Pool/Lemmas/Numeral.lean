import AsmBridge.Proofs.Pool.Lemmas.Directive
import Mathlib.Data.Nat.Digits.Defs

/-!
# Numerals

A number is written in decimal, or in hexadecimal or octal behind its prefix, after a minus sign or not. It is read back
as the number that its digits stand for.
-/

namespace AsmBridge

/-! ## Writing -/

/-- A hexadecimal digit, as a capital or not. -/
def hexDigit (d : Fin 16) (capital : Bool) : Char :=
  if capital then (Nat.digitChar d.val).toUpper else Nat.digitChar d.val

/-- The digits of a number. A decimal number of more than one digit does not start with a zero. -/
inductive Magnitude
  | decimal (first : Fin 10) (rest : List (Fin 10)) (proper : first = 0 → rest = [])
      (short : rest.length + 1 ≤ Decimal.digitLimit)
  | hexadecimal (first : Fin 16 × Bool) (rest : List (Fin 16 × Bool))
  | octal (first : Fin 8) (rest : List (Fin 8))

namespace Magnitude

def text : Magnitude → Text
  | decimal first rest _ _ => (first :: rest).map fun d => Nat.digitChar d.val
  | hexadecimal first rest => '0' :: 'x' :: (first :: rest).map fun d => hexDigit d.1 d.2
  | octal first rest => '0' :: (first :: rest).map fun d => Nat.digitChar d.val

def value : Magnitude → Nat
  | decimal first rest _ _ => Nat.ofDigits 10 ((first :: rest).map (·.val)).reverse
  | hexadecimal first rest => Nat.ofDigits 16 ((first :: rest).map (·.1.val)).reverse
  | octal first rest => Nat.ofDigits 8 ((first :: rest).map (·.val)).reverse

/-- A decimal number of one digit. -/
def digit (d : Fin 10) : Magnitude :=
  decimal d [] (fun _ => rfl) (by decide)

end Magnitude

/-- A number as it stands in a directive. -/
structure Numeral where
  negative : Bool := false
  magnitude : Magnitude

namespace Numeral

/-- The number with a sign. -/
def signed (negative : Bool) (n : Nat) : Int :=
  if negative then -(n : Int) else n

def text (n : Numeral) : Text :=
  if n.negative then '-' :: n.magnitude.text else n.magnitude.text

def value (n : Numeral) : Int :=
  signed n.negative n.magnitude.value

end Numeral

/-! ## Digits -/

/-- Whether all characters are digits in a base. -/
def AreDigits (base : Nat) (t : Text) : Prop :=
  ∀ c ∈ t, ∃ d < base, Hex.digitValue? c = some d

theorem digitsFrom_eq {base : Nat} {t : Text} (h : AreDigits base t) (n : Nat) {gap : Bool} (hg : gap = true → t ≠ []) :
    Integer.digitsFrom base n gap t = some (t.foldl (fun n d => base * n + (Hex.digitValue? d).getD 0) n) := by
  induction t generalizing n gap with
  | nil =>
      cases gap with
      | false => rfl
      | true => exact absurd rfl (hg rfl)
  | cons c t ih =>
      obtain ⟨⟨d, hd, hc⟩, ht⟩ := List.forall_mem_cons.mp h
      have hne : c ≠ '_' := by
        rintro rfl
        cases hc
      rw [Integer.digitsFrom, List.foldl_cons, hc]
      simp only [beq_iff_eq, hne, hd, ↓reduceIte, Option.getD_some]
      exact ih ht _ (by simp)

theorem digits?_eq {base : Nat} {t : Text} (h : AreDigits base t) (hn : t ≠ []) :
    Integer.digits? base t = some (valueInBase base t) :=
  digitsFrom_eq h 0 fun _ => hn

section

variable {α : Type} {digit : α → Char} {number : α → Nat} (h : ∀ a, Hex.digitValue? (digit a) = some (number a))
include h

theorem areDigits_map {base : Nat} (hb : ∀ a, number a < base) (l : List α) : AreDigits base (l.map digit) :=
  List.forall_mem_map.mpr fun a _ => ⟨number a, hb a, h a⟩

/-- The value of digits is the sum of their multiples of powers of the base. -/
theorem valueInBase_map (base : Nat) (l : List α) :
    valueInBase base (l.map digit) = Nat.ofDigits base (l.map number).reverse := by
  induction l using List.reverseRecOn with
  | nil => rfl
  | append_singleton l a ih =>
      rw [valueInBase] at ih ⊢
      rw [List.map_append, List.foldl_append, ih, List.map_append, List.reverse_append, List.map_singleton, List.map_singleton,
        List.reverse_singleton, List.singleton_append, Nat.ofDigits_cons, List.foldl_cons, List.foldl_nil, h a,
        Option.getD_some, Nat.add_comm]

end

theorem digitValue?_digitChar {base : Nat} (hb : base ≤ 16) (d : Fin base) :
    Hex.digitValue? (Nat.digitChar d.val) = some d.val := by
  have hall : ∀ d : Fin 16, Hex.digitValue? (Nat.digitChar d.val) = some d.val := by decide
  exact hall (d.castLE hb)

theorem digitValue?_hexDigit : ∀ d : Fin 16 × Bool, Hex.digitValue? (hexDigit d.1 d.2) = some d.1.val := by
  have hall : ∀ d : Fin 16, ∀ capital : Bool, Hex.digitValue? (hexDigit d capital) = some d.val := by decide
  exact fun d => hall d.1 d.2

/-! ## Characters -/

/-- The characters of a number without its sign. -/
def numeralChars : Text :=
  "0123456789abcdefABCDEFx".toList

namespace Magnitude

variable (m : Magnitude)

theorem mem_numeralChars : ∀ c ∈ m.text, c ∈ numeralChars := by
  have hdecimal : ∀ d : Fin 10, Nat.digitChar d.val ∈ numeralChars := by decide
  have hhex : ∀ d : Fin 16, ∀ capital : Bool, hexDigit d capital ∈ numeralChars := by decide
  have hoctal : ∀ d : Fin 8, Nat.digitChar d.val ∈ numeralChars := by decide
  cases m with
  | decimal first rest proper short => exact List.forall_mem_map.mpr fun d _ => hdecimal d
  | hexadecimal first rest =>
      refine List.forall_mem_cons.mpr ⟨by decide, List.forall_mem_cons.mpr ⟨by decide, ?_⟩⟩
      exact List.forall_mem_map.mpr fun d _ => hhex d.1 d.2
  | octal first rest => exact List.forall_mem_cons.mpr ⟨by decide, List.forall_mem_map.mpr fun d _ => hoctal d⟩

theorem exists_text_eq_cons : ∃ c r, m.text = c :: r := by
  cases m with
  | decimal first rest proper short => exact ⟨_, _, rfl⟩
  | hexadecimal first rest => exact ⟨_, _, rfl⟩
  | octal first rest => exact ⟨_, _, rfl⟩

/-! ## Reading -/

/-- Whether a number is written in octal. -/
def isOctal : Magnitude → Bool
  | octal _ _ => true
  | _ => false

theorem digitChar_ne_zero : ∀ d : Fin 10, d ≠ 0 → Nat.digitChar d.val ≠ '0' := by decide

theorem octalMagnitude?_text : Literal.octalMagnitude? m.text = if m.isOctal then some m.value else none := by
  cases m with
  | decimal first rest proper short =>
      by_cases hf : first = 0
      · subst hf
        obtain rfl := proper rfl
        rfl
      · rw [text, List.map_cons]
        unfold Literal.octalMagnitude?
        split
        · rename_i he
          exact absurd (List.cons.inj he).1 (digitChar_ne_zero first hf)
        · rfl
  | hexadecimal first rest =>
      have hx : isOctalDigit 'x' = false := by decide
      simp only [text, Literal.octalMagnitude?, List.all_cons, hx, Bool.false_and, Bool.false_eq_true, ↓reduceIte, isOctal]
  | octal first rest =>
      have hall : ∀ d : Fin 8, isOctalDigit (Nat.digitChar d.val) = true := by decide
      have hdigits : ((first :: rest).map fun d => Nat.digitChar d.val).all isOctalDigit = true :=
        List.all_eq_true.mpr (List.forall_mem_map.mpr fun d _ => hall d)
      have hvalue := valueInBase_map (digitValue?_digitChar (by decide)) 8 (first :: rest)
      rw [List.map_cons] at hdigits hvalue
      simp only [text, Literal.octalMagnitude?, List.map_cons, hdigits, ↓reduceIte, isOctal, hvalue, value]

theorem decimal?_text_decimal {first : Fin 10} {rest : List (Fin 10)} {proper : first = 0 → rest = []}
    {short : rest.length + 1 ≤ Decimal.digitLimit} :
    Integer.decimal? (text (.decimal first rest proper short)) = some (value (.decimal first rest proper short)) := by
  have hne : ∀ d : Fin 10, (Nat.digitChar d.val != '_') = true := by decide
  have hfilter : (text (.decimal first rest proper short)).filter (· != '_') = text (.decimal first rest proper short) :=
    List.filter_eq_self.mpr (List.forall_mem_map.mpr fun d _ => hne d)
  have hlength : ¬ Decimal.digitLimit < (text (.decimal first rest proper short)).length := by
    rw [text, List.length_map, List.length_cons]
    exact Nat.not_lt.mpr short
  have hdigits := areDigits_map (digitValue?_digitChar (by decide)) (fun d => d.isLt) (first :: rest)
  rw [Integer.decimal?, hfilter, if_neg hlength, text, digits?_eq hdigits (List.cons_ne_nil _ _),
    valueInBase_map (digitValue?_digitChar (by decide)), value]

theorem prefixed?_text (h : m.isOctal = false) : Integer.prefixed? m.text = some m.value := by
  cases m with
  | decimal first rest proper short =>
      rw [← decimal?_text_decimal]
      by_cases hf : first = 0
      · subst hf
        obtain rfl := proper rfl
        rfl
      · rw [text, List.map_cons]
        unfold Integer.prefixed?
        split
        · rename_i he
          exact absurd (List.cons.inj he).1 (digitChar_ne_zero first hf)
        · rfl
  | hexadecimal first rest =>
      have hdigits := areDigits_map digitValue?_hexDigit (fun d => d.1.isLt) (first :: rest)
      have hne : ∀ d : Fin 16, ∀ capital : Bool, hexDigit d capital ≠ '_' := by decide
      have hdrop : Integer.dropUnderscore ((first :: rest).map fun d => hexDigit d.1 d.2) =
          (first :: rest).map fun d => hexDigit d.1 d.2 := by
        rw [List.map_cons]
        unfold Integer.dropUnderscore
        split
        · rename_i he
          exact absurd (List.cons.inj he).1 (hne first.1 first.2)
        · rfl
      have hbase : Integer.base? 'x' = some 16 := by decide
      simp only [text, Integer.prefixed?, hbase, hdrop]
      rw [digits?_eq hdigits (List.cons_ne_nil _ _), valueInBase_map digitValue?_hexDigit, value]
  | octal first rest => cases h

end Magnitude

namespace Numeral

variable (n : Numeral)

theorem octal?_text : Literal.octal? n.text = (Literal.octalMagnitude? n.magnitude.text).map (signed n.negative) := by
  obtain ⟨c, r, hm⟩ := n.magnitude.exists_text_eq_cons
  have hc : c ≠ '-' := by
    rintro rfl
    exact absurd (n.magnitude.mem_numeralChars '-' (by rw [hm]; exact List.mem_cons_self)) (by decide)
  rw [text, hm]
  cases n.negative with
  | true =>
      simp only [↓reduceIte, Literal.octal?]
      cases Literal.octalMagnitude? (c :: r) <;> rfl
  | false =>
      simp only [Bool.false_eq_true, ↓reduceIte]
      unfold Literal.octal?
      split
      · rename_i he
        exact absurd (List.cons.inj he).1 hc
      · cases Literal.octalMagnitude? (c :: r) <;> rfl

theorem signed?_text (magnitude? : Text → Option Nat) :
    Integer.signed? magnitude? n.text = (magnitude? n.magnitude.text).map (signed n.negative) := by
  obtain ⟨c, r, hm⟩ := n.magnitude.exists_text_eq_cons
  have hmem : c ∈ numeralChars := n.magnitude.mem_numeralChars c (by rw [hm]; exact List.mem_cons_self)
  have hall : ∀ c ∈ numeralChars, c ≠ '-' ∧ c ≠ '+' := by decide
  obtain ⟨hminus, hplus⟩ := hall c hmem
  rw [text, hm]
  cases n.negative with
  | true =>
      simp only [↓reduceIte, Integer.signed?]
      cases magnitude? (c :: r) <;> rfl
  | false =>
      simp only [Bool.false_eq_true, ↓reduceIte]
      unfold Integer.signed?
      split
      · rename_i he
        exact absurd (List.cons.inj he).1 hminus
      · rename_i he
        exact absurd (List.cons.inj he).1 hplus
      · cases magnitude? (c :: r) <;> rfl

theorem mem_chars : ∀ c ∈ n.text, c ∈ '-' :: numeralChars := by
  have hm : ∀ c ∈ n.magnitude.text, c ∈ '-' :: numeralChars := fun c hc =>
    List.mem_cons_of_mem _ (n.magnitude.mem_numeralChars c hc)
  rw [text]
  cases n.negative with
  | true => exact List.forall_mem_cons.mpr ⟨List.mem_cons_self, hm⟩
  | false => exact hm

theorem text_ne_nil : n.text ≠ [] := by
  obtain ⟨c, r, hm⟩ := n.magnitude.exists_text_eq_cons
  rw [text, hm]
  cases n.negative <;> exact List.cons_ne_nil _ _

theorem isTrimmed_text : n.text.IsTrimmed := by
  have hall : ∀ c ∈ '-' :: numeralChars, isBlank c = false := by decide
  exact ⟨fun c hc => hall c (n.mem_chars c (List.mem_of_mem_head? hc)),
    fun c hc => hall c (n.mem_chars c (List.mem_of_mem_getLast? hc))⟩

theorem isOperand_text : IsOperand n.text where
  pieces := piecesFrom_append fun c hc => by
    have hall : ∀ c ∈ '-' :: numeralChars, isPlain c = true := by decide
    exact hall c (n.mem_chars c hc)
  trimmed := n.isTrimmed_text
  nonempty := n.text_ne_nil
  oneLine := fun hc => absurd (n.mem_chars _ hc) (by decide)

/-- A number is read back. -/
theorem read_text : Literal.read n.text = .ok n.value := by
  rw [Literal.read, n.isTrimmed_text.trim_eq, Literal.readTrimmed, n.octal?_text, n.magnitude.octalMagnitude?_text]
  cases ho : n.magnitude.isOctal with
  | true => rfl
  | false =>
      have hcharacter : Literal.isCharacter n.text = false := by
        have hhead : n.text.head? ≠ some '\x27' := fun h =>
          absurd (n.mem_chars _ (List.mem_of_mem_head? h)) (by decide)
        simp [Literal.isCharacter, hhead]
      have hascii : n.text.map Integer.asciiDigit = n.text := by
        have hall : ∀ c ∈ '-' :: numeralChars, Integer.asciiDigit c = c := by decide
        conv => rhs; rw [← List.map_id n.text]
        exact List.map_congr_left fun c hc => hall c (n.mem_chars c hc)
      have hinteger : Literal.integer? n.text = some n.value := by
        rw [Literal.integer?, hascii, n.signed?_text, n.magnitude.prefixed?_text ho]
        rfl
      simp only [Bool.false_eq_true, ↓reduceIte, Option.map_none, hcharacter, hinteger]

end Numeral

end AsmBridge
