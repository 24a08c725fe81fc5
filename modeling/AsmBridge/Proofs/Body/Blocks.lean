import AsmBridge.Proofs.Body.Lemmas.SameReading
import AsmBridge.Proofs.Line.Block

/-!
# Blocks of a function

The blocks of a function and the jumps to them come through conversion in their order, and the way the listing spells
them makes no difference.
-/

namespace AsmBridge

namespace BlockLine

variable {b : BlockLine} {line other : Text}

theorem Spells.sameReading (h : b.Spells line) (ho : b.Spells other) : SameReading line other where
  code := h.isInner.code.trans ho.isInner.code.symm
  entry := h.isInner.entry.trans ho.isInner.entry.symm
  exit := h.isInner.exit.trans ho.isInner.exit.symm
  ret := h.isInner.ret.trans ho.isInner.ret.symm
  upper := h.isInner.upper.trans ho.isInner.upper.symm
  converted := fun table layout => (h.convertLine table layout).trans (ho.convertLine table layout).symm

/-- Whether a line is another one, or a line with a block that is spelled another way. -/
def Respelled (line other : Text) : Prop :=
  line = other ∨ ∃ b : BlockLine, b.Spells line ∧ b.Spells other

theorem Respelled.sameReading (h : Respelled line other) : SameReading line other := by
  rcases h with rfl | ⟨b, h, ho⟩
  · exact .refl line
  · exact h.sameReading ho

/-- A line of neither sequence is around the exit sequence. -/
theorem IsInner.mem_around {entry before exit after : List Text} (h : IsInner line)
    (hm : line ∈ entry ++ (before ++ (exit ++ after))) (hentry : ∀ line ∈ entry, (EntryForm.ofLine? line).isSome)
    (hexit : ∀ line ∈ exit, isExitForm line = true ∨ isReturn line = true) :
    line ∈ before ++ after ∧ line ∉ entry ++ exit := by
  have hno : line ∉ entry ++ exit := fun hm => by
    rcases List.mem_append.mp hm with hm | hm
    · have hsome := hentry line hm
      rw [h.entry] at hsome
      cases hsome
    · have hform := hexit line hm
      rw [h.exit, h.ret] at hform
      exact hform.elim (fun h => by cases h) fun h => by cases h
  refine ⟨?_, hno⟩
  simp only [List.mem_append, not_or] at hm hno ⊢
  exact (hm.resolve_left hno.1).imp_right fun h => h.resolve_left hno.2

end BlockLine

/-- The lines that hold code are an entry sequence, an exit sequence and lines around the latter that become lines of the
output in their order. Those with a block are not in the sequences, and each becomes the line that it is meant to be. -/
theorem Shape.convertSubroutine_blocks {f : Function} {shape : Shape} (hs : Shape.ofFunction f = .ok shape) {name : Text}
    {count : Int} {args : StackArgs} {table : Table} {out : List Text}
    (h : convertSubroutine shape.body name shape.epilogue count.toNat args table = .ok out) :
    let become := outputOf table (shape.epilogue.layout args table)
    (∃ entry before exit after,
      bodyLines f.lines = entry ++ (before ++ (exit ++ after)) ∧
      out = prologueLines shape.epilogue.frame name count.toNat table ++
        (before.flatMap become ++ (epilogueLines shape.epilogue.frame ++ after.flatMap become)) ∧
      (∀ b : BlockLine, ∀ line ∈ f.lines, b.Spells line → line ∈ before ++ after ∧ line ∉ entry ++ exit) ∧
      ∀ b : BlockLine, ∀ line, b.Spells line → become line = [b.converted]) ∧
    (∀ j : BlockJump, (∃ line ∈ f.lines, (BlockLine.jump j).Spells line) →
      (∃ line ∈ f.lines, (BlockLine.label j.target).Spells line) →
      (BlockLine.jump j).converted ∈ out ∧ (BlockLine.label j.target).converted ∈ out) ∧
    ∀ g : Function, List.Forall₂ BlockLine.Respelled f.lines g.lines →
      ∃ other, Shape.ofFunction g = .ok other ∧
        convertSubroutine other.body name other.epilogue count.toNat args table = .ok out := by
  intro become
  obtain ⟨entry, before, exit, after, hlines, hbody, hstart, hstop, hne, hentry, hexit⟩ := exists_sequences hs
  have hout : out = prologueLines shape.epilogue.frame name count.toNat table ++
      (before.flatMap become ++ (epilogueLines shape.epilogue.frame ++ after.flatMap become)) := by
    have hsplit := h
    unfold convertSubroutine at hsplit
    obtain ⟨body, hb, hsplit⟩ := exists_of_bind_eq_ok hsplit
    cases hsplit
    rw [hbody] at hb
    rw [eq_splice_of_convertBody hstart hstop hne hb]
  have hbecome : ∀ b : BlockLine, ∀ line, b.Spells line → become line = [b.converted] := fun b line hb =>
    outputOf_of_convertLine (hb.convertLine table _)
  have hinside : ∀ b : BlockLine, ∀ line ∈ f.lines, b.Spells line → line ∈ before ++ after ∧ line ∉ entry ++ exit := by
    intro b line hl hb
    refine hb.isInner.mem_around ?_ hentry hexit
    rw [← hbody, ← hlines]
    exact List.mem_filter.mpr ⟨hl, hb.isInner.code⟩
  have hmem : ∀ b : BlockLine, (∃ line ∈ f.lines, b.Spells line) → b.converted ∈ out := by
    rintro b ⟨line, hl, hb⟩
    have hconverted : b.converted ∈ become line := by
      rw [hbecome b line hb]
      exact List.mem_singleton_self _
    rw [hout]
    rcases List.mem_append.mp (hinside b line hl hb).1 with hl | hl
    · exact List.mem_append_right _ (List.mem_append_left _ (List.mem_flatMap.mpr ⟨line, hl, hconverted⟩))
    · refine List.mem_append_right _ (List.mem_append_right _ (List.mem_append_right _ ?_))
      exact List.mem_flatMap.mpr ⟨line, hl, hconverted⟩
  refine ⟨⟨entry, before, exit, after, by rw [hlines, hbody], hout, hinside, hbecome⟩,
    fun j hj hl => ⟨hmem _ hj, hmem _ hl⟩, fun g hg => ?_⟩
  obtain ⟨other, ho, hsame, hepilogue, -⟩ := exists_ofFunction (bodyLines_congr (hg.imp fun _ _ hr => hr.sameReading)) hs
  exact ⟨other, ho, by rw [hepilogue, ← convertSubroutine_congr hsame, h]⟩

/-- The only block of a function. -/
def BlockName.sample : BlockName where
  function := "0".toList
  block := "1".toList
  function_digits := by decide
  block_digits := by decide

/-- A jump to it. -/
def BlockJump.sample : BlockJump where
  indent := "\t".toList
  letters := "ne".toList
  gap := "\t".toList
  target := .sample
  indent_blank := isBlank_of_mem_tab
  letters_small := by decide
  gap_blank := isBlank_of_mem_tab
  gap_nonempty := by decide

/-- A loop, with dots in front of its block or without. -/
def Function.loop (dotted : Bool) : Function where
  name := "wait".toList
  lineNumber := 1
  lines := ["\tpush\trbp".toList, "\tmov\trbp, rsp".toList, (BlockLine.label .sample).render dotted,
    (BlockLine.jump .sample).render dotted, "\tpop\trbp".toList, "\tret".toList]

/-- The loop is kept, with the same output for both listings. -/
theorem Shape.convertSubroutine_blocks_sample :
    let body := [".LBB0_1:".toList, "\tjne\t.LBB0_1".toList, "\tpop\trbp".toList, "\tret".toList]
    let shape : Shape := { body := body, epilogue := { start := 2, stop := 4 }, offsetToFirst := 16 }
    let out := prologueLines {} "wait".toList (0 : Int).toNat {} ++
      ["LBB0_1:".toList, "\tJNE LBB0_1".toList, "    RET".toList]
    Shape.ofFunction (.loop true) = .ok shape ∧
      convertSubroutine shape.body "wait".toList shape.epilogue (0 : Int).toNat {} {} = .ok out ∧
      "\tJNE LBB0_1".toList ∈ out ∧ "LBB0_1:".toList ∈ out ∧
      ∃ other, Shape.ofFunction (.loop false) = .ok other ∧
        convertSubroutine other.body "wait".toList other.epilogue (0 : Int).toNat {} {} = .ok out := by
  intro body shape out
  obtain ⟨hs, h⟩ : Shape.ofFunction (.loop true) = .ok shape ∧
      convertSubroutine shape.body "wait".toList shape.epilogue (0 : Int).toNat {} {} = .ok out := by
    decide +kernel
  have hlabel : ∀ dotted, (BlockLine.label .sample).Spells ((BlockLine.label .sample).render dotted) := fun dotted =>
    ⟨dotted, by cases dotted <;> decide +kernel⟩
  have hjump : ∀ dotted, (BlockLine.jump .sample).Spells ((BlockLine.jump .sample).render dotted) := fun dotted =>
    ⟨dotted, by cases dotted <;> decide +kernel⟩
  obtain ⟨-, htarget, hsame⟩ := convertSubroutine_blocks hs h
  have hmem := htarget .sample ⟨_, .tail _ (.tail _ (.tail _ (.head _))), hjump true⟩
    ⟨_, .tail _ (.tail _ (.head _)), hlabel true⟩
  have hrespelled : List.Forall₂ BlockLine.Respelled (Function.loop true).lines (Function.loop false).lines :=
    .cons (.inl rfl) (.cons (.inl rfl) (.cons (.inr ⟨_, hlabel true, hlabel false⟩)
      (.cons (.inr ⟨_, hjump true, hjump false⟩) (.cons (.inl rfl) (.cons (.inl rfl) .nil)))))
  exact ⟨hs, h, hmem.1, hmem.2, hsame (.loop false) hrespelled⟩

end AsmBridge
