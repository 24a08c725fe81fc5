import AsmBridge.Frame.Operand
import AsmBridge.Proofs.Number.Decimal
import AsmBridge.Proofs.Text.Occurrence

/-!
# Lines that end in an operand above the frame pointer

What becomes of a line whose last operand reads a stack argument.
-/

namespace AsmBridge

/-- A line that ends in the operand at the offset `n` above the frame pointer, with blanks behind it. -/
def argumentLine (head : Text) (n : Nat) (blanks : Text) : Text :=
  head ++ (rbpOpening ++ (Decimal.ofNat n ++ ']' :: blanks))

/-! ## Operands -/

theorem leadingDigits?_append {digits : Text} (hn : digits ≠ []) (hd : ∀ c ∈ digits, c.isDigit) {c : Char}
    (hc : c.isDigit = false) (rest : Text) : leadingDigits? (digits ++ c :: rest) = some (digits, c :: rest) := by
  have hr : ∀ d ∈ (c :: rest).head?, d.isDigit = false := by simp [hc]
  rw [leadingDigits?, Text.takeWhile_append hd hr, Text.dropWhile_append hd hr]
  cases digits with
  | nil => exact absurd rfl hn
  | cons d digits => rfl

theorem eq_append_of_leadingDigits? {t digits rest : Text} (h : leadingDigits? t = some (digits, rest)) :
    t = digits ++ rest ∧ ∀ c ∈ digits, c.isDigit := by
  unfold leadingDigits? at h
  split at h
  · cases h
  · rename_i d ds hd
    cases h
    rw [← hd]
    exact ⟨List.takeWhile_append_dropWhile.symm, List.all_eq_true.mp List.all_takeWhile⟩

theorem eq_append_of_offsetOperand? {opening t digits tail : Text}
    (h : offsetOperand? opening t = some (digits, tail)) :
    t = opening ++ (digits ++ ']' :: tail) ∧ ∀ c ∈ digits, c.isDigit := by
  unfold offsetOperand? at h
  split at h
  · cases h
  · rename_i rest hr
    split at h
    · rename_i digits' tail' hl
      cases h
      obtain ⟨rfl, hd⟩ := eq_append_of_leadingDigits? hl
      exact ⟨Text.eq_append_of_after? hr, hd⟩
    · cases h

/-- An operand is read where a number stands between an opening and the next bracket. -/
theorem offsetOperand?_append_bracket (opening : Text) {t : Text} (ht : ']' ∉ t) (rest : Text) :
    offsetOperand? opening (opening ++ (t ++ ']' :: rest)) =
      if t ≠ [] ∧ t.all Char.isDigit then some (t, rest) else none := by
  by_cases hd : t ≠ [] ∧ t.all Char.isDigit
  · rw [if_pos hd, offsetOperand?, Text.after?_append]
    simp only [leadingDigits?_append hd.1 (List.all_eq_true.mp hd.2) (show ']'.isDigit = false by decide)]
  · rw [if_neg hd, ← Option.not_isSome_iff_eq_none, Option.isSome_iff_exists]
    rintro ⟨⟨digits, tail⟩, h⟩
    obtain ⟨he, hall⟩ := eq_append_of_offsetOperand? h
    have hn : ']' ∉ digits := fun hm => absurd (hall _ hm) (by decide)
    obtain ⟨rfl, -⟩ := Text.append_cons_inj ht hn (List.append_cancel_left he)
    have hne : t = [] := by
      by_contra hne
      exact hd ⟨hne, List.all_eq_true.mpr hall⟩
    rw [hne, offsetOperand?, Text.after?_append] at h
    cases h

/-! ## The last operand of a line -/

/-- An operand that ends a text can only start at a text without another bracket. -/
theorem bracket_not_mem_tail {t digits tail : Text} (h : offsetOperand? rbpOpening t = some (digits, tail))
    (hb : tail.all isBlank) : '[' ∉ t.tail := by
  obtain ⟨rfl, hd⟩ := eq_append_of_offsetOperand? h
  have ht : (rbpOpening ++ (digits ++ ']' :: tail)).tail = "rbp + ".toList ++ (digits ++ ']' :: tail) := rfl
  rw [ht, List.mem_append, List.mem_append, List.mem_cons]
  rintro (h | h | h | h)
  · exact absurd h (by decide)
  · exact absurd (hd _ h) (by decide)
  · exact absurd h (by decide)
  · exact absurd (List.all_eq_true.mp hb _ h) (by decide)

theorem finalArgument?_append (head : Text) {digits blanks : Text} (hd : digits ≠ [] ∧ digits.all Char.isDigit)
    (hb : blanks.all isBlank) : finalArgument? (head ++ (rbpOpening ++ (digits ++ ']' :: blanks))) = some digits := by
  have hbracket : ']' ∉ digits := fun h => absurd (List.all_eq_true.mp hd.2 _ h) (by decide)
  have ho : offsetOperand? rbpOpening (rbpOpening ++ (digits ++ ']' :: blanks)) = some (digits, blanks) := by
    rw [offsetOperand?_append_bracket rbpOpening hbracket, if_pos hd]
  have hn : rbpOpening ++ (digits ++ ']' :: blanks) ≠ [] := List.append_ne_nil_of_left_ne_nil (by decide) _
  refine Text.search_append hn ?_ head fun c t => ?_
  · simp only [ho, hb, ↓reduceIte]
  · split
    · rename_i digits' tail ho
      split
      · rename_i hb
        have hm : '[' ∈ (c :: t ++ (rbpOpening ++ (digits ++ ']' :: blanks))).tail :=
          List.mem_append_right t List.mem_cons_self
        exact absurd hm (bracket_not_mem_tail ho hb)
      · rfl
    · rfl

theorem finalArgument?_eq_some_iff {line digits : Text} : finalArgument? line = some digits ↔
    (digits ≠ [] ∧ digits.all Char.isDigit) ∧
      ∃ head blanks, blanks.all isBlank ∧ line = head ++ (rbpOpening ++ (digits ++ ']' :: blanks)) := by
  constructor
  · intro h
    obtain ⟨head, t, rfl, ht⟩ := Text.exists_of_search h
    split at ht
    · rename_i digits' tail ho
      split at ht
      · rename_i hb
        cases ht
        obtain ⟨rfl, hall⟩ := eq_append_of_offsetOperand? ho
        have hbracket : ']' ∉ digits := fun hm => absurd (hall _ hm) (by decide)
        rw [offsetOperand?_append_bracket rbpOpening hbracket] at ho
        have hd : digits ≠ [] ∧ digits.all Char.isDigit := by
          by_contra hd
          rw [if_neg hd] at ho
          cases ho
        exact ⟨hd, head, tail, hb, rfl⟩
      · cases ht
    · cases ht
  · rintro ⟨hd, head, blanks, hb, rfl⟩
    exact finalArgument?_append head hd hb

theorem finalArgument?_argumentLine (head : Text) (n : Nat) {blanks : Text} (hb : blanks.all isBlank) :
    finalArgument? (argumentLine head n blanks) = some (Decimal.ofNat n) :=
  finalArgument?_append head ⟨Decimal.ofNat_ne_nil, List.all_eq_true.mpr fun _ => Decimal.isDigit_of_mem_ofNat⟩ hb

/-- The first operand of such a line gives way to the place of the argument that the last one names. -/
theorem resolveArgument_argumentLine (layout : Layout) (head : Text) (n : Nat) {blanks : Text}
    (hb : blanks.all isBlank) :
    ∃ front tail, (argumentLine head n blanks).cut? rbpOpening = some (front, tail) ∧
      (head.includes rbpOpening = false → front = head) ∧
      resolveArgument layout (argumentLine head n blanks) = do
        let offset ← Decimal.read (Decimal.ofNat n)
        let place ← Decimal.write (layout.resolve offset)
        return front ++ rebased place "[rsp]".toList rbpOpening tail := by
  have hm : '[' ∉ "rbp + ".toList := by decide
  obtain ⟨front, tail, hc, hf⟩ := Text.cut?_of_mark hm head (Decimal.ofNat n ++ ']' :: blanks)
  refine ⟨front, tail, hc, hf, ?_⟩
  have hc' : (argumentLine head n blanks).cut? rbpOpening = some (front, tail) := hc
  simp only [resolveArgument, finalArgument?_argumentLine head n hb, hc']

/-- A line with too long a number is refused. -/
theorem resolveArgument_of_digitLimit_lt (layout : Layout) (head : Text) {n : Nat} {blanks : Text}
    (hb : blanks.all isBlank) (hn : Decimal.digitLimit < (Decimal.ofNat n).length) :
    resolveArgument layout (argumentLine head n blanks) = .error (.tooManyDigits (Decimal.ofNat n).length) := by
  obtain ⟨front, tail, -, -, hr⟩ := resolveArgument_argumentLine layout head n hb
  rw [hr, Decimal.read_of_digitLimit_lt hn]
  rfl

/-- In every line that ends in the operand at the offset `n` above the frame pointer, the first such
operand gives way to the one at the offset `place` from the stack pointer. -/
def Layout.Rewrites (layout : Layout) (n : Nat) (place : Int) : Prop :=
  ∀ head blanks : Text, blanks.all isBlank → ∃ front tail,
    (argumentLine head n blanks).cut? rbpOpening = some (front, tail) ∧
    (head.includes rbpOpening = false → front = head) ∧
    resolveArgument layout (argumentLine head n blanks) =
      .ok (front ++ rebased (Decimal.ofInt place) "[rsp]".toList rbpOpening tail)

theorem Layout.rewrites_resolve {layout : Layout} {n : Nat}
    (hn : (Decimal.ofNat n).length ≤ Decimal.digitLimit)
    (hp : (Decimal.ofNat (layout.resolve n).natAbs).length ≤ Decimal.digitLimit) :
    layout.Rewrites n (layout.resolve n) := by
  intro head blanks hb
  obtain ⟨front, tail, hc, hf, hr⟩ := resolveArgument_argumentLine layout head n hb
  refine ⟨front, tail, hc, hf, ?_⟩
  rw [hr, Decimal.read_ofNat hn]
  change (Decimal.write (layout.resolve n) >>= _) = _
  rw [Decimal.write_of_length_le hp]
  rfl

/-! ## Offsets of stack arguments -/

/-- The offset of the argument number `index` from the compiled function's frame pointer. -/
def StackArgs.offsetOf (args : StackArgs) (index : Nat) : Int :=
  args.offsetToFirst + slotSize * (index - registerCount : Nat)

/-- The offset of the argument number `index` from the new stack pointer. -/
def Layout.place (layout : Layout) (args : StackArgs) (index : Nat) : Int :=
  layout.resolve (args.offsetOf index)

theorem Layout.rewrites_place {layout : Layout} {args : StackArgs} {index n : Nat} (h : n = args.offsetOf index)
    (hn : (Decimal.ofNat n).length ≤ Decimal.digitLimit)
    (hp : (Decimal.ofNat (layout.place args index).natAbs).length ≤ Decimal.digitLimit) :
    layout.Rewrites n (layout.place args index) := by
  rw [place, ← h] at hp ⊢
  exact rewrites_resolve hn hp

/-- A copied argument is looked for where the entry sequence copies it to. -/
theorem Layout.place_copied {args : StackArgs} {count index : Nat} (hd : (slotSize : Int) ∣ args.offsetToFirst)
    (hn : args.number = count - registerCount) (hk : registerCount ≤ index) (hc : index < count) :
    (copied args).place args index = -8 - ((count - index : Nat) : Int) * slotSize := by
  obtain ⟨q, hq⟩ := hd
  have hf : args.offsetToFirst.fdiv slotSize = q := by
    rw [hq]
    exact Int.mul_fdiv_cancel_left q (by decide)
  simp only [place, resolve, hf, hn, StackArgs.offsetOf]
  simp only [hq, slotSize, registerCount] at hk hc ⊢
  omega

/-- An argument that stays is looked for where it would be without a frame. -/
theorem Layout.place_caller (args : StackArgs) {index : Nat} (hk : registerCount ≤ index) :
    (caller args).place args index = (slotSize + slotSize * index : Nat) := by
  simp only [place, resolve, StackArgs.offsetOf, slotSize, registerCount] at hk ⊢
  omega

end AsmBridge
