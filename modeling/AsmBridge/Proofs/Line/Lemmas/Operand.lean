import AsmBridge.Proofs.Fault
import AsmBridge.Proofs.Frame.Lemmas.Operand
import AsmBridge.Proofs.Line.Instruction

/-!
# The only memory operand of a line

What becomes of a line that ends in its only memory operand.
-/

namespace AsmBridge

/-! ## Operands at a place -/

theorem ripOpening_eq : ripOpening = '[' :: "rip + ".toList :=
  rfl

theorem rbpOpening_eq : rbpOpening = '[' :: "rbp + ".toList :=
  rfl

theorem rbpMinusOpening_eq : rbpMinusOpening = '[' :: "rbp - ".toList :=
  rfl

theorem offsetOperand?_eq_none_of_ne {opening : Text} (ho : opening.head? = some '[') {c : Char} (hc : c ≠ '[') (t : Text) :
    offsetOperand? opening (c :: t) = none := by
  cases opening with
  | nil => cases ho
  | cons d opening =>
      cases ho
      rw [offsetOperand?, Text.after?_cons_of_ne hc]

/-- The line `front`, with a memory operand with `address` behind it. -/
def operandLine (front address : Text) : Text :=
  front ++ '[' :: (address ++ [']'])

section

/-! ## Lines with one operand -/

variable {front address : Text} (hf : '[' ∉ front) (ho : '[' ∉ address) (hc : ']' ∉ address)
include hf ho

theorem cut?_operandLine (mark : Text) (hm : ']' ∉ mark) :
    (operandLine front address).cut? ('[' :: mark) = (address.after? mark).map fun rest => (front, rest ++ [']']) := by
  have ht : '[' ∉ address ++ [']'] := by simp [ho]
  rw [operandLine, Text.cut?_append_cons hf ht, Text.after?_append_cons hm, Option.map_map]
  rfl

include hc in
theorem finalArgument?_operandLine :
    finalArgument? (operandLine front address) =
      (address.after? "rbp + ".toList).filter fun digits => digits ≠ [] ∧ digits.all Char.isDigit := by
  have ht : '[' ∉ address ++ [']'] := by simp [ho]
  rw [finalArgument?, operandLine, Text.search_append_cons (c := '[') ?_ hf ht]
  · cases ha : address.after? "rbp + ".toList with
    | none =>
        have hnone : offsetOperand? rbpOpening ('[' :: (address ++ [']'])) = none := by
          have hm : ']' ∉ "rbp + ".toList := by decide
          rw [offsetOperand?, rbpOpening_eq, Text.after?_cons_cons,
            Text.after?_append_cons hm, ha]
          rfl
        rw [hnone]
        rfl
    | some digits =>
        obtain rfl := Text.eq_append_of_after? ha
        have hd : ']' ∉ digits := fun h => hc (List.mem_append_right _ h)
        have h : offsetOperand? rbpOpening ('[' :: ("rbp + ".toList ++ digits ++ [']'])) =
            if digits ≠ [] ∧ digits.all Char.isDigit then some (digits, []) else none := by
          rw [List.append_assoc]
          exact offsetOperand?_append_bracket rbpOpening hd []
        rw [h]
        by_cases hdigits : digits ≠ [] ∧ digits.all Char.isDigit
        · rw [if_pos hdigits, Option.filter_some, decide_eq_true hdigits]
          rfl
        · rw [if_neg hdigits, Option.filter_some, decide_eq_false hdigits]
          rfl
  · intro d t hd
    rw [offsetOperand?_eq_none_of_ne rfl hd]

end

/-! ## Meant addresses -/

namespace MemoryOperand

variable {table : Table} (layout : Layout) {address : Text}

theorem meantAddress_constant {symbol : Text} {label : Label} (hp : table.isPresent)
    (hs : address.after? "rip + ".toList = some symbol) (hl : table.lookup? symbol.trim = some label) :
    meantAddress table layout address = displaced "rbp".toList label.offset := by
  unfold meantAddress
  rw [hs]
  simp only [hp, ↓reduceIte, hl]

theorem meantAddress_argument {digits : Text} (hs : address.after? "rbp + ".toList = some digits)
    (hd : digits ≠ [] ∧ digits.all Char.isDigit) :
    meantAddress table layout address = displaced "rsp".toList (layout.resolve (Decimal.value digits)) := by
  have hrip : address.after? "rip + ".toList = none := by
    rw [Text.eq_append_of_after? hs]
    rfl
  unfold meantAddress
  rw [hrip, hs]
  exact if_pos hd

theorem meantAddress_eq_self (hrip : address.after? "rip + ".toList = none ∨ table.isPresent = false)
    (h : (address.after? "rbp + ".toList).filter (fun digits => digits ≠ [] ∧ digits.all Char.isDigit) = none) :
    meantAddress table layout address = address := by
  unfold meantAddress
  cases hr : address.after? "rip + ".toList with
  | some symbol =>
      have hp := hrip.resolve_left fun h => by
        rw [hr] at h
        cases h
      simp only [hp, Bool.false_eq_true, ↓reduceIte]
  | none =>
      cases hs : address.after? "rbp + ".toList with
      | none => rfl
      | some digits =>
          refine if_neg fun hd => ?_
          rw [hs, Option.filter_some, decide_eq_true hd] at h
          cases h

end MemoryOperand

/-! ## Resolved operands -/

/-- An operand at an offset from a base register, with the operand that it replaces in a comment. -/
def movedOperand (n : Int) (base address : Text) : Text :=
  Decimal.ofInt n ++ '[' :: (base ++ ']' :: (" /*".toList ++ ((' ' :: '[' :: (address ++ [']'])) ++ " */".toList)))

theorem eq_of_refuseBelowFrame {line out : Text} (h : refuseBelowFrame line = .ok out) : out = line := by
  unfold refuseBelowFrame at h
  split at h
  · cases h
  · cases h
    rfl

theorem resolveArgument_eq_self (layout : Layout) {line : Text} (h : line.cut? rbpOpening = none) :
    resolveArgument layout line = .ok line := by
  unfold resolveArgument
  rw [h]
  split
  · rename_i hn
    cases hn
  · rfl

theorem resolveOperands_eq_bind (table : Table) (layout : Layout) (line : Text) :
    resolveOperands table layout line =
      (if table.isPresent then resolveConstant table line else .ok line) >>= fun line =>
        resolveArgument layout line >>= refuseBelowFrame := by
  unfold resolveOperands
  cases table.isPresent <;> rfl

theorem exists_of_resolveOperands {table : Table} {layout : Layout} {line out : Text}
    (h : resolveOperands table layout line = .ok out) :
    ∃ line', (if table.isPresent then resolveConstant table line else .ok line) = .ok line' ∧
      resolveArgument layout line' = .ok out := by
  rw [resolveOperands_eq_bind] at h
  obtain ⟨line', hconst, h⟩ := exists_of_bind_eq_ok h
  obtain ⟨line'', harg, h⟩ := exists_of_bind_eq_ok h
  obtain rfl := eq_of_refuseBelowFrame h
  exact ⟨line', hconst, harg⟩

/-- A line without brackets has no operands that move. -/
theorem resolveOperands_eq_self (table : Table) (layout : Layout) {line : Text} (hn : '[' ∉ line) :
    resolveOperands table layout line = .ok line := by
  have hconst : (if table.isPresent then resolveConstant table line else .ok line) = .ok line := by
    rw [resolveConstant, ripOpening_eq, Text.cut?_eq_none hn, ite_self]
  have hlocal : accessesBelowFrame line = false := by
    rw [accessesBelowFrame, Option.isSome_eq_false_iff, Option.isNone_iff_eq_none, Option.eq_none_iff_forall_ne_some]
    intro operand ho
    obtain ⟨head, rest, rfl, hr⟩ := Text.exists_of_search ho
    rw [(eq_append_of_offsetOperand? hr).1] at hn
    exact hn (List.mem_append_right head List.mem_cons_self)
  rw [resolveOperands_eq_bind, hconst]
  change resolveArgument layout line >>= refuseBelowFrame = _
  rw [resolveArgument_eq_self layout (Text.cut?_eq_none hn _)]
  change refuseBelowFrame line = _
  rw [refuseBelowFrame, hlocal]
  rfl

theorem eq_of_resolveOperands {table : Table} {layout : Layout} {line out : Text} (hn : '[' ∉ line)
    (h : resolveOperands table layout line = .ok out) : out = line := by
  rw [resolveOperands_eq_self table layout hn] at h
  cases h
  rfl

theorem rebased_eq_movedOperand (n : Int) (base mark rest : Text) :
    rebased (Decimal.ofInt n) ('[' :: (base ++ [']'])) ('[' :: mark) (rest ++ [']']) =
      movedOperand n base (mark ++ rest) := by
  simp only [rebased, movedOperand, String.reduceToList, List.append_assoc, List.cons_append, List.nil_append]

section

variable {front address : Text} (hf : '[' ∉ front) (ho : '[' ∉ address) (hc : ']' ∉ address)
  {table : Table} {layout : Layout} {out : Text}
include hf ho hc

theorem resolveConstant_operandLine (h : resolveConstant table (operandLine front address) = .ok out) :
    address.after? "rip + ".toList = none ∧ out = operandLine front address ∨
      ∃ symbol label, address.after? "rip + ".toList = some symbol ∧ table.lookup? symbol.trim = some label ∧
        (Decimal.ofNat label.offset.natAbs).length ≤ Decimal.digitLimit ∧
        out = front ++ movedOperand label.offset "rbp".toList address := by
  have hcut := cut?_operandLine hf ho "rip + ".toList (by decide)
  unfold resolveConstant at h
  rw [ripOpening_eq, hcut] at h
  cases hs : address.after? "rip + ".toList with
  | none =>
      rw [hs] at h
      cases h
      exact .inl ⟨rfl, rfl⟩
  | some symbol =>
      rw [hs] at h
      obtain rfl := Text.eq_append_of_after? hs
      have hn : ']' ∉ symbol := fun hm => hc (List.mem_append_right _ hm)
      simp only [Option.map_some, Text.takeWhile_ne_append_cons hn] at h
      cases hl : table.lookup? symbol.trim with
      | none =>
          rw [hl] at h
          cases h
      | some label =>
          simp only [hl] at h
          obtain ⟨offset, hw, rfl⟩ := exists_of_map_eq_ok h
          obtain ⟨rfl, hlen⟩ := Decimal.eq_ofInt_of_write hw
          refine .inr ⟨symbol, label, rfl, hl, hlen, ?_⟩
          rw [← rebased_eq_movedOperand]
          rfl

theorem resolveArgument_operandLine (h : resolveArgument layout (operandLine front address) = .ok out) :
    (address.after? "rbp + ".toList).filter (fun digits => digits ≠ [] ∧ digits.all Char.isDigit) = none ∧
        out = operandLine front address ∨
      ∃ digits, address.after? "rbp + ".toList = some digits ∧ (digits ≠ [] ∧ digits.all Char.isDigit) ∧
        (Decimal.ofNat (layout.resolve (Decimal.value digits)).natAbs).length ≤ Decimal.digitLimit ∧
        out = front ++ movedOperand (layout.resolve (Decimal.value digits)) "rsp".toList address := by
  have hcut := cut?_operandLine hf ho "rbp + ".toList (by decide)
  unfold resolveArgument at h
  rw [finalArgument?_operandLine hf ho hc, rbpOpening_eq, hcut] at h
  cases hs : address.after? "rbp + ".toList with
  | none =>
      rw [hs] at h
      cases h
      exact .inl ⟨rfl, rfl⟩
  | some digits =>
      obtain rfl := Text.eq_append_of_after? hs
      by_cases hd : digits ≠ [] ∧ digits.all Char.isDigit
      · rw [hs, Option.filter_some, decide_eq_true hd, if_pos rfl] at h
        obtain ⟨n, hr, h⟩ := exists_of_bind_eq_ok h
        obtain ⟨place, hw, h⟩ := exists_of_bind_eq_ok h
        obtain rfl := Decimal.eq_value_of_read hr
        obtain ⟨rfl, hlen⟩ := Decimal.eq_ofInt_of_write hw
        cases h
        refine .inr ⟨digits, rfl, hd, hlen, ?_⟩
        rw [← rebased_eq_movedOperand]
        rfl
      · rw [hs, Option.filter_some, decide_eq_false hd] at h
        cases h
        refine .inl ⟨?_, rfl⟩
        rw [Option.filter_some, decide_eq_false hd]
        rfl

omit hc in
/-- An operand that moved below no longer stands above the frame pointer. -/
theorem cut?_movedOperand (n : Int) (h : address.after? "rbp + ".toList = none) :
    (front ++ movedOperand n "rbp".toList address).cut? rbpOpening = none := by
  have hn : '[' ∉ front ++ Decimal.ofInt n := by
    rw [List.mem_append, not_or]
    exact ⟨hf, Decimal.not_mem_ofInt (by decide) (by decide)⟩
  have hbase : ¬ rbpOpening <:+: (front ++ Decimal.ofInt n) ++ '[' :: "rbp".toList := by
    rw [← Text.cut?_eq_none_iff, rbpOpening_eq,
      Text.cut?_append_cons hn (by decide)]
    rfl
  have hcomment : ¬ rbpOpening <:+: " /* ".toList ++ '[' :: address := by
    rw [← Text.cut?_eq_none_iff, rbpOpening_eq,
      Text.cut?_append_cons (by decide) ho, h]
    rfl
  rw [Text.cut?_eq_none_iff]
  have hm : ']' ∉ rbpOpening := by decide
  have hall := Text.not_infix_append_cons hm hbase (Text.not_infix_append_cons hm hcomment (y := " */".toList) (by decide))
  simpa only [movedOperand, String.reduceToList, List.append_assoc, List.cons_append, List.nil_append] using hall

/-- The operand is put where it is meant to be, or left where it is meant to stay. -/
theorem resolveOperands_operandLine (h : resolveOperands table layout (operandLine front address) = .ok out) :
    MemoryOperand.meantAddress table layout address = address ∧ out = operandLine front address ∨
      ∃ n, ∃ base ∈ ["rbp".toList, "rsp".toList],
        MemoryOperand.meantAddress table layout address = displaced base n ∧
        (Decimal.ofNat n.natAbs).length ≤ Decimal.digitLimit ∧ out = front ++ movedOperand n base address := by
  obtain ⟨line, hconst, harg⟩ := exists_of_resolveOperands h
  by_cases hrip : address.after? "rip + ".toList = none ∨ table.isPresent = false
  · -- The operand is no constant.
    have hline : line = operandLine front address := by
      split at hconst
      · rename_i hp
        rcases resolveConstant_operandLine hf ho hc hconst with ⟨-, he⟩ | ⟨symbol, label, hs, -⟩
        · exact he
        · rcases hrip with hr | hr
          · rw [hr] at hs
            cases hs
          · rw [hr] at hp
            cases hp
      · cases hconst
        rfl
    subst hline
    rcases resolveArgument_operandLine hf ho hc harg with ⟨hs, he⟩ | ⟨digits, hs, hd, hlen, he⟩
    · exact .inl ⟨MemoryOperand.meantAddress_eq_self layout hrip hs, he⟩
    · exact .inr ⟨_, _, by decide, MemoryOperand.meantAddress_argument layout hs hd, hlen, he⟩
  · rw [not_or, Bool.not_eq_false] at hrip
    rw [if_pos hrip.2] at hconst
    rcases resolveConstant_operandLine hf ho hc hconst with ⟨hs, -⟩ | ⟨symbol, label, hs, hl, hlen, rfl⟩
    · exact absurd hs hrip.1
    · have hno : address.after? "rbp + ".toList = none := by
        rw [Text.eq_append_of_after? hs]
        rfl
      rw [resolveArgument_eq_self layout (cut?_movedOperand hf ho label.offset hno)] at harg
      cases harg
      exact .inr ⟨_, _, by decide, MemoryOperand.meantAddress_constant layout hrip.2 hs hl, hlen, rfl⟩

end

end AsmBridge
