import AsmBridge.Proofs.Body.Lemmas.Shape
import AsmBridge.Proofs.Line.Argument

/-!
# Conversion of a body

Which lines of a body are converted.
-/

namespace AsmBridge

/-! ## Lines that are kept -/

theorem Epilogue.length_outside {e : Epilogue} {lines : List Text} (hf : e.fits lines.length) :
    ((e.outside lines).length : Int) = lines.length - (e.stop - e.start) := by
  obtain ⟨h0, hse, hel⟩ := Epilogue.fits_iff.mp hf
  rw [outside, List.length_append, List.length_take, List.length_drop]
  omega

/-- Of the lines of a function outside its exit sequence, those that do not mention the directive that aligns code
become one line each, in order, and the others are lost. -/
theorem Shape.convertSubroutine_lines {f : Function} {shape : Shape} (hs : Shape.ofFunction f = .ok shape) {name : Text}
    {count : Int} {args : StackArgs} {table : Table} {out : List Text}
    (h : convertSubroutine shape.body name shape.epilogue count.toNat args table = .ok out) :
    let e := shape.epilogue
    let converts := Converts table (e.layout args table)
    let entry := prologueLines e.frame name count.toNat table
    let exit := epilogueLines e.frame
    ∃ before after,
      List.Forall₂ converts ((shape.body.take e.start.toNat).filter (!mentionsAlign ·)) before ∧
      List.Forall₂ converts ((shape.body.drop e.stop.toNat).filter (!mentionsAlign ·)) after ∧
      out = entry ++ (before ++ (exit ++ after)) ∧
      ((out.length : Int) = entry.length + (shape.body.length - (e.stop - e.start)) + exit.length ↔
        ∀ line ∈ e.outside shape.body, mentionsAlign line = false) := by
  intro e converts entry exit
  unfold convertSubroutine at h
  obtain ⟨body, hbody, h⟩ := exists_of_bind_eq_ok h
  cases h
  obtain ⟨hf, before, after, hbefore, hafter, rfl⟩ := exists_of_convertBody hbody
  obtain ⟨-, hlt, -⟩ := Shape.epilogue_range hs
  rw [if_pos hlt]
  rw [keptLines_of_holdsCode fun line hl => Shape.holdsCode_of_mem hs (List.mem_of_mem_take hl)] at hbefore
  rw [keptLines_of_holdsCode fun line hl => Shape.holdsCode_of_mem hs (List.mem_of_mem_drop hl)] at hafter
  refine ⟨before, after, hbefore, hafter, rfl, ?_⟩
  have hkept : ((e.outside shape.body).filter (!mentionsAlign ·)).length = before.length + after.length := by
    rw [Epilogue.outside, List.filter_append, List.length_append, hbefore.length_eq, hafter.length_eq]
  have hall : ((e.outside shape.body).filter (!mentionsAlign ·)).length = (e.outside shape.body).length ↔
      ∀ line ∈ e.outside shape.body, mentionsAlign line = false := by
    rw [List.length_filter_eq_length_iff]
    simp only [Bool.not_eq_true']
  have houtside : ((e.outside shape.body).length : Int) = shape.body.length - (e.stop - e.start) :=
    Epilogue.length_outside hf
  rw [← hall, hkept, List.length_append, List.length_append, List.length_append]
  change ((entry.length + (before.length + (exit.length + after.length)) : Nat) : Int) = _ ↔ _
  omega

/-- A function that names a symbol with the directive in its name. -/
def Function.sample : Function where
  name := "f".toList
  lineNumber := 1
  lines := ["lea rdi, [rip + .L__const.f.align]".toList, "mov eax, 1".toList, "ret".toList]

/-- The shape of that function. -/
def Shape.sample : Shape where
  body := Function.sample.lines
  epilogue := { start := 2, stop := 3 }
  offsetToFirst := 8

/-- One line before the exit sequence is left of two. -/
theorem Shape.convertSubroutine_lines_sample :
    let table : Table := { name := "LCDATA1".toList, labels := [⟨".L__const.f.align".toList, 0⟩] }
    let entry := prologueLines {} "f".toList (0 : Int).toNat table
    let out := entry ++ [disabledMargin ++ "mov eax, 1".toList, "    RET".toList]
    Shape.ofFunction .sample = .ok .sample ∧
      convertSubroutine Shape.sample.body "f".toList Shape.sample.epilogue (0 : Int).toNat {} table = .ok out ∧
      ∃ before after, out = entry ++ (before ++ (["    RET".toList] ++ after)) ∧ before.length = 1 := by
  intro table entry out
  have hs : Shape.ofFunction .sample = .ok .sample := by rfl
  have h : convertSubroutine Shape.sample.body "f".toList Shape.sample.epilogue (0 : Int).toNat {} table = .ok out := by
    rfl
  obtain ⟨before, after, hb, -, ho, -⟩ := convertSubroutine_lines hs h
  exact ⟨hs, h, before, after, ho, hb.length_eq.symm⟩

/-- An address is lost because of the name of its symbol. -/
theorem Shape.address_lost :
    let table : Table := { name := "LCDATA1".toList, labels := [⟨".L__const.f.align".toList, 0⟩] }
    let entry := prologueLines {} "f".toList 0 table
    let out := entry ++ [disabledMargin ++ "mov eax, 1".toList, "    RET".toList]
    Shape.ofFunction .sample = .ok .sample ∧
      convertSubroutine Shape.sample.body "f".toList Shape.sample.epilogue 0 {} table = .ok out ∧
      (out.length : Int) ≠ entry.length + (Shape.sample.body.length - (3 - 2)) + (epilogueLines {}).length := by
  intro table entry out
  exact ⟨by rfl, by rfl, by decide⟩

/-! ## Stack arguments that are left -/

theorem mem_exit {f : Frame} {i : Instruction} (h : i ∈ f.release ++ f.finish) :
    i = .add f.size .sp ∨ i ∈ [.load (-8) .sp .sp, .clearUpper, .ret] := by
  rcases List.mem_append.mp h with h | h
  · unfold Frame.release at h
    split at h
    · exact .inr (List.mem_cons.mpr (.inl (List.mem_singleton.mp h)))
    · split at h
      · exact .inl (List.mem_singleton.mp h)
      · cases h
  · unfold Frame.finish at h
    split at h
    · exact .inr (List.mem_cons_of_mem _ h)
    · exact .inr (List.mem_cons_of_mem _ (List.mem_cons_of_mem _ h))

/-- The lines of the new exit sequence have neither brackets nor comments. -/
theorem not_mem_epilogueLines {f : Frame} {line : Text} (hl : line ∈ epilogueLines f) : '[' ∉ line ∧ '/' ∉ line := by
  obtain ⟨item, hitem, rfl⟩ := List.mem_map.mp hl
  obtain ⟨i, hi, rfl⟩ := List.mem_map.mp hitem
  rcases mem_exit hi with rfl | hi
  · have hrender : (Item.code (.add f.size .sp)).render = "    ADDQ $".toList ++ (Decimal.ofInt f.size ++ ", SP".toList) := by
      change "    ".toList ++ ("ADDQ".toList ++ " ".toList ++ ('$' :: Decimal.ofInt f.size) ++ ", ".toList ++ "SP".toList) = _
      simp only [String.reduceToList, List.append_assoc, List.cons_append, List.nil_append]
    rw [hrender, List.mem_append, List.mem_append, List.mem_append, List.mem_append, not_or, not_or, not_or, not_or]
    exact ⟨⟨by decide, Decimal.not_mem_ofInt (by decide) (by decide), by decide⟩,
      by decide, Decimal.not_mem_ofInt (by decide) (by decide), by decide⟩
  · have hall : ∀ i ∈ [Instruction.load (-8) .sp .sp, .clearUpper, .ret],
        '[' ∉ (Item.code i).render ∧ '/' ∉ (Item.code i).render := by
      decide
    exact hall i hi

theorem not_exposesArgument_epilogueLines {f : Frame} {line : Text} (hl : line ∈ epilogueLines f) :
    ¬ ExposesArgument line := by
  obtain ⟨hb, hc⟩ := not_mem_epilogueLines hl
  have hcomment : ¬ "/*".toList <:+: line := fun h => hc (h.subset (by decide))
  rw [ExposesArgument, dropComments_eq_self hcomment]
  exact fun h => hb (h.opening_infix.subset (by decide))

theorem exists_mem_splice_iff {p : Text → Prop} {before exit after : List Text} (h : ∀ line ∈ exit, ¬ p line) :
    (∃ line ∈ before ++ (exit ++ after), p line) ↔ ∃ line ∈ before ++ after, p line := by
  have hno : ¬ ∃ line ∈ exit, p line := fun ⟨line, hl, hp⟩ => h line hl hp
  simp only [List.mem_append, or_and_right, exists_or, hno, false_or]

/-- An operand above the old frame pointer is left outside the comments of a body exactly where a line leaves it, and
each one that ends its line, in a line without constant, is put where its argument is. -/
theorem convertBody_exposesArgument_iff {lines out : List Text} {e : Epilogue} {args : StackArgs} {table : Table}
    (h : convertBody lines e args table = .ok out)
    (hu : ∀ line ∈ keptLines (e.outside lines), MovesOperand table (respelledLine line) →
      (respelledLine line).IsUncommented) :
    ((∃ line ∈ out, ExposesArgument line) ↔
      ∃ line ∈ keptLines (e.outside lines), LeavesArgument table (respelledLine line)) ∧
    ∀ line ∈ keptLines (e.outside lines), ∀ digits, constantCut? table (respelledLine line) = none →
      EndsInArgument (respelledLine line) digits →
      ∃ head tail, (respelledLine line).cut? rbpOpening = some (head, tail) ∧
        commented head ((e.layout args table).resolve (Decimal.value digits)) "rsp".toList rbpOpening tail ∈ out := by
  obtain ⟨-, before, after, hbefore, hafter, rfl⟩ := exists_of_convertBody h
  have hall : List.Forall₂ (Converts table (e.layout args table)) (keptLines (e.outside lines)) (before ++ after) := by
    rw [keptLines_outside]
    exact List.rel_append hbefore hafter
  constructor
  · have hiff : ∀ line ∈ keptLines (e.outside lines), ∀ converted, Converts table (e.layout args table) line converted →
        (LeavesArgument table (respelledLine line) ↔ ExposesArgument converted) := fun line hl converted hc =>
      (exposesArgument_iff (hu line hl) hc.resolveOperands_eq).symm
    rw [exists_mem_iff_of_forall₂ hall hiff]
    refine exists_mem_splice_iff fun line hl => ?_
    split at hl
    · exact not_exposesArgument_epilogueLines hl
    · cases hl
  · intro line hl digits hc hd
    obtain ⟨converted, hm, hconv⟩ := exists_mem_of_forall₂ hall hl
    obtain ⟨head, tail, hcut, rfl⟩ := resolveOperands_of_endsInArgument hc hd hconv.resolveOperands_eq
    refine ⟨head, tail, hcut, ?_⟩
    rcases List.mem_append.mp hm with hm | hm
    · exact List.mem_append_left _ hm
    · exact List.mem_append_right _ (List.mem_append_right _ hm)

/-- A load at the end of its line is found at its new place. -/
theorem convertBody_exposesArgument_sample :
    let lines := ["mov rax, qword ptr [rbp + 16]".toList, "ret".toList]
    let e : Epilogue := { start := 1, stop := 2 }
    let args : StackArgs := { number := 1, offsetToFirst := 16 }
    let out := [disabledMargin ++ "mov rax, qword 56[rsp] /* [rbp + 16] */".toList, "    RET".toList]
    convertBody lines e args {} = .ok out ∧
      (∀ line ∈ keptLines (e.outside lines), MovesOperand {} (respelledLine line) → (respelledLine line).IsUncommented) ∧
      ∃ head tail, commented head 56 "rsp".toList rbpOpening tail ∈ out := by
  intro lines e args out
  have h : convertBody ["mov rax, qword ptr [rbp + 16]".toList, "ret".toList] { start := 1, stop := 2 }
      { number := 1, offsetToFirst := 16 } {} =
        .ok [disabledMargin ++ "mov rax, qword 56[rsp] /* [rbp + 16] */".toList, "    RET".toList] := by rfl
  have hkept : keptLines (e.outside lines) = ["mov rax, qword ptr [rbp + 16]".toList] := by rfl
  have hline : respelledLine "mov rax, qword ptr [rbp + 16]".toList =
      disabledMargin ++ "mov rax, qword [rbp + 16]".toList := by rfl
  have hu : ∀ line ∈ keptLines (e.outside lines), MovesOperand {} (respelledLine line) →
      (respelledLine line).IsUncommented := by
    intro line hl _
    rw [hkept, List.mem_singleton] at hl
    rw [hl, hline]
    exact { opening := by decide +kernel, closing := by decide +kernel, oneLine := by decide +kernel }
  have hl : "mov rax, qword ptr [rbp + 16]".toList ∈ keptLines (e.outside lines) := by
    rw [hkept]
    exact List.mem_singleton_self _
  have hd : EndsInArgument (respelledLine "mov rax, qword ptr [rbp + 16]".toList) "16".toList := by
    rw [hline]
    exact ⟨by decide, disabledMargin ++ "mov rax, qword ".toList, [], rfl, rfl⟩
  obtain ⟨head, tail, -, hm⟩ := (convertBody_exposesArgument_iff h hu).2 _ hl "16".toList rfl hd
  exact ⟨h, hu, head, tail, hm⟩

/-- A load with an operand behind it is left. -/
theorem argument_left :
    let lines := ["vpshufd xmm0, xmmword ptr [rbp + 16], 78".toList, "ret".toList]
    let e : Epilogue := { start := 1, stop := 2 }
    let args : StackArgs := { number := 1, offsetToFirst := 16 }
    ∃ out, convertBody lines e args {} = .ok out ∧ ∃ line ∈ out, ExposesArgument line := by
  intro lines e args
  refine ⟨[disabledMargin ++ "vpshufd xmm0, [rbp + 16], 78".toList, "    RET".toList], by rfl, _, List.mem_cons_self, ?_⟩
  rw [ExposesArgument, dropComments_eq_self (by decide +kernel)]
  exact ⟨"16".toList, by decide, by decide, by decide +kernel⟩

end AsmBridge
