import AsmBridge.Proofs.Frame.Reading
import AsmBridge.Proofs.Number.Decimal
import AsmBridge.Proofs.Text.Cut

/-!
# The lines of the sequences are read as what they mean

Every line of an entry or exit sequence is read, whatever the names in it, and stands for the statement
of its instruction.
-/

namespace AsmBridge

/-! ## Numbers -/

theorem Decimal.digits?_ofNat (n : Nat) : digits? (ofNat n) = some n := by
  have h : (ofNat n).all Char.isDigit := List.all_eq_true.mpr fun _ => isDigit_of_mem_ofNat
  simp only [digits?, ne_eq, ofNat_ne_nil, not_false_eq_true, h, and_self, ↓reduceIte, value_ofNat]

theorem Decimal.integer?_of_isDigit {c : Char} (h : c.isDigit) (t : Text) :
    integer? (c :: t) = (digits? (c :: t)).map fun n => (n : Int) := by
  have hc : c ≠ '-' := by
    rintro rfl
    exact absurd h (by decide)
  rw [integer?]
  intro t' ht
  exact hc (List.cons.inj ht).1

theorem Decimal.integer?_ofInt (n : Int) : integer? (ofInt n) = some n := by
  cases n with
  | ofNat n =>
      have hn := digits?_ofNat n
      have hd : ∀ c ∈ ofNat n, c.isDigit := fun _ => isDigit_of_mem_ofNat
      simp only [ofInt]
      cases ht : ofNat n with
      | nil => exact absurd ht ofNat_ne_nil
      | cons c t =>
          rw [ht] at hn hd
          rw [integer?_of_isDigit (hd c List.mem_cons_self), hn]
          rfl
  | negSucc n =>
      simp only [ofInt, integer?, digits?_ofNat]
      rfl

/-! ## Operands -/

theorem Text.cutLast?_append {tail : Text} {c : Char} (h : c ∉ tail) (head mark : Text) :
    cutLast? (head ++ (mark ++ [c]) ++ tail) (mark ++ [c]) = some (head, tail) := by
  have hc := cut?_append (mt List.mem_reverse.mp h) mark.reverse head.reverse
  simp only [cutLast?, List.reverse_append, List.reverse_cons, List.reverse_nil, List.nil_append,
    List.append_assoc, List.cons_append] at hc ⊢
  rw [hc]
  simp only [Option.map_some, List.reverse_reverse]

theorem Register.ofName?_render (r : Register) : ofName? r.render = some r := by
  cases r <;> rfl

theorem Register.not_mem_render {c : Char} (h : c ∉ "SPBDIXC89R".toList) (r : Register) : c ∉ r.render := by
  cases r <;> simp_all [render]

theorem Reference.not_symbol {t : Text} (h : '<' ∉ t) : symbolEnding.isSuffixOf t = false := by
  rw [Bool.eq_false_iff]
  intro hs
  have hm : '<' ∈ symbolEnding := by decide
  exact h ((List.isSuffixOf_iff_suffix.mp hs).subset hm)

theorem Reference.read?_symbol (name : Text) : read? (name ++ symbolEnding) = some (symbol name) := by
  have h : symbolEnding.isSuffixOf (name ++ symbolEnding) := by
    rw [List.isSuffixOf_iff_suffix]
    exact List.suffix_append name symbolEnding
  simp [read?, h]

theorem Reference.read?_parts {before base : Text} (hb : '(' ∉ before) (hb' : '<' ∉ before)
    (hr : ')' ∉ base) (hr' : '<' ∉ base) :
    read? (before ++ "(".toList ++ base ++ ")".toList) = ofParts? before base := by
  have hs : '<' ∉ before ++ "(".toList ++ base ++ ")".toList := by simp [hb', hr']
  have hc := Text.cut?_append hb [] (base ++ ")".toList)
  have hc' := Text.cut?_append hr [] []
  simp only [read?, not_symbol hs, Bool.false_eq_true, ↓reduceIte]
  simp_all

theorem Reference.read?_word (amount : Int) (base : Register) :
    read? (Instruction.word amount base) = some (offset amount base) := by
  rw [Instruction.word, read?_parts (Decimal.not_mem_ofInt (by decide) (by decide))
    (Decimal.not_mem_ofInt (by decide) (by decide)) (base.not_mem_render (by decide))
    (base.not_mem_render (by decide))]
  have hf : base.render ≠ "FP".toList := by cases base <;> decide
  simp only [ofParts?, hf, ↓reduceIte, Decimal.integer?_ofInt, Register.ofName?_render]

theorem Reference.read?_argument (index : Nat) :
    read? (Instruction.argument index) = some (argument (index * slotSize)) := by
  have hp : '+' ∉ "arg".toList ++ Decimal.ofNat (index + 1) := by
    simp [Decimal.not_mem_ofNat]
  have hc := Text.cut?_append hp [] (Decimal.ofNat (index * slotSize))
  have ht : Instruction.argument index = "arg".toList ++ Decimal.ofNat (index + 1) ++
      ('+' :: Decimal.ofNat (index * slotSize)) ++ "(".toList ++ "FP".toList ++ ")".toList := by
    simp only [Instruction.argument, List.append_assoc]
    rfl
  have hr : read? (Instruction.argument index) = ofParts? ("arg".toList ++ Decimal.ofNat (index + 1) ++
      ('+' :: Decimal.ofNat (index * slotSize))) "FP".toList := by
    rw [ht]
    exact read?_parts (by simp [Decimal.not_mem_ofNat]) (by simp [Decimal.not_mem_ofNat]) (by decide)
      (by decide)
  rw [hr, ofParts?, if_pos rfl]
  rw [List.cons_append, List.nil_append] at hc
  rw [show "+".toList = ['+'] from rfl, hc]
  simp only [Decimal.digits?_ofNat, Option.map_some]

theorem Operand.read?_reference {t : Text} {reference : Reference}
    (h : Reference.read? t = some reference) : read? t = some (place (.memory reference)) := by
  simp only [read?, h]

theorem Operand.read?_register (r : Register) : read? r.render = some (place (.register r)) := by
  cases r <;> rfl

theorem Operand.read?_immediate (value : Int) :
    read? (Instruction.immediate value) = some (immediate value) := by
  have hs : '<' ∉ Instruction.immediate value := by
    simp [Instruction.immediate, Decimal.not_mem_ofInt]
  have hb : '(' ∉ Instruction.immediate value := by
    simp [Instruction.immediate, Decimal.not_mem_ofInt]
  have hn : Reference.read? (Instruction.immediate value) = none := by
    simp only [Reference.read?, Reference.not_symbol hs, Bool.false_eq_true, ↓reduceIte]
    simp_all [Text.cut?_eq_none]
  simp only [Instruction.immediate] at hn ⊢
  simp only [read?, hn, Decimal.integer?_ofInt, Option.map_some]

/-! ## Lines -/

theorem Statement.ofInstruction?_binary {mnemonic source target : Text} {s t : Operand}
    (hm : ' ' ∉ mnemonic) (ht : ' ' ∉ target) (hs : Operand.read? source = some s)
    (hr : Operand.read? target = some t) :
    ofInstruction? (Instruction.binary mnemonic source target) = ofOperands? mnemonic s t := by
  have hb : Instruction.binary mnemonic source target =
      mnemonic ++ ([' '] ++ (source ++ ([','] ++ [' ']) ++ target)) := by
    simp only [Instruction.binary, List.append_assoc]
    rfl
  have hc := Text.cut?_append hm [] (source ++ ([','] ++ [' ']) ++ target)
  rw [ofInstruction?, hb, show " ".toList = [' '] from rfl, hc]
  simp only [show ", ".toList = [','] ++ [' '] from rfl, Text.cutLast?_append ht, hs, hr]

theorem Register.blank_not_mem (r : Register) : ' ' ∉ r.render :=
  r.not_mem_render (by decide)

theorem Instruction.blank_not_mem_word (offset : Int) (base : Register) : ' ' ∉ word offset base := by
  simp [word, Decimal.not_mem_ofInt, base.blank_not_mem]

theorem Statement.ofInstruction?_toRegister {mnemonic source : Text} {s : Operand} (hm : ' ' ∉ mnemonic)
    (hs : Operand.read? source = some s) (target : Register) :
    ofInstruction? (Instruction.binary mnemonic source target.render) =
      ofOperands? mnemonic s (.place (.register target)) :=
  ofInstruction?_binary hm target.blank_not_mem hs (Operand.read?_register target)

/-- Every instruction of the sequences is read as its meaning. -/
theorem Statement.ofInstruction?_render (i : Instruction) : ofInstruction? i.render = some i.statement := by
  cases i with
  | copy source target =>
      exact ofInstruction?_toRegister (by decide) (Operand.read?_register source) target
  | store source offset base =>
      exact ofInstruction?_binary (by decide) (Instruction.blank_not_mem_word offset base)
        (Operand.read?_register source) (Operand.read?_reference (Reference.read?_word offset base))
  | load offset base target =>
      exact ofInstruction?_toRegister (by decide)
        (Operand.read?_reference (Reference.read?_word offset base)) target
  | loadArgument index target =>
      exact ofInstruction?_toRegister (by decide)
        (Operand.read?_reference (Reference.read?_argument index)) target
  | loadTable symbol target =>
      exact ofInstruction?_toRegister (by decide)
        (Operand.read?_reference (Reference.read?_symbol symbol)) target
  | and mask target => exact ofInstruction?_toRegister (by decide) (Operand.read?_immediate mask) target
  | sub amount target =>
      exact ofInstruction?_toRegister (by decide) (Operand.read?_immediate amount) target
  | add amount target =>
      exact ofInstruction?_toRegister (by decide) (Operand.read?_immediate amount) target
  | clearUpper => rfl
  | ret => rfl

/-- Every line of the sequences is read as its meaning. -/
theorem Statement.read?_render (item : Item) : read? item.render = some item.statement := by
  cases item with
  | header name => rfl
  | blank => rfl
  | code i =>
      have hi := ofInstruction?_render i
      cases i <;> exact hi

example : Statement.read? "    MOVQ DI, -16(BP)".toList =
    some (.move (.place (.register .di)) (.memory (.offset (-16) .bp))) := by decide

theorem Machine.run_render (m : Machine) (items : List Item) :
    m.run (items.map Item.render) = some (m.follow (items.map Item.statement)) := by
  have h : (items.map Item.render).mapM Statement.read? = some (items.map Item.statement) := by
    induction items with
    | nil => rfl
    | cons item items ih => simp [Statement.read?_render, ih]
  rw [run, h]
  rfl

end AsmBridge
