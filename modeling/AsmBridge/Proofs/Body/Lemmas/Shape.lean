import AsmBridge.Listing.Shape
import AsmBridge.Proofs.Body.Lemmas.Splice

/-!
# Bodies of functions

The body of a function whose shape is known holds instructions and labels only, and its exit sequence lies within it.
-/

namespace AsmBridge

namespace Shape

variable {f : Function} {shape : Shape}

theorem exists_of_ofFunction (h : ofFunction f = .ok shape) :
    ∃ entry position, shape = build entry shape.body position ∧ returnPositions shape.body = [position] ∧
      shape.body = (bodyLines f.lines).dropWhile fun line => (EntryForm.ofLine? line).isSome := by
  unfold ofFunction at h
  obtain ⟨entry, -, h⟩ := exists_of_bind_eq_ok h
  simp only at h
  split at h
  · cases h
  · rename_i position hp
    cases h
    exact ⟨entry, position, rfl, hp, rfl⟩
  · cases h

theorem body_suffix (h : ofFunction f = .ok shape) : shape.body <:+ bodyLines f.lines := by
  obtain ⟨-, -, -, -, hs⟩ := exists_of_ofFunction h
  rw [hs]
  exact List.dropWhile_suffix _

theorem holdsCode_of_mem (h : ofFunction f = .ok shape) {line : Text} (hl : line ∈ shape.body) : holdsCode line = true :=
  (List.mem_filter.mp ((body_suffix h).subset hl)).2

theorem body_subset (h : ofFunction f = .ok shape) : shape.body ⊆ f.lines :=
  List.Subset.trans (body_suffix h).subset (List.filter_subset_self _)

theorem exists_of_mem_returnPositions {body : List Text} {position : Nat} (h : position ∈ returnPositions body) :
    ∃ hp : position < body.length, isReturn body[position] = true := by
  obtain ⟨⟨line, i⟩, hi, rfl⟩ := List.mem_map.mp h
  obtain ⟨hm, hr⟩ := List.mem_filter.mp hi
  obtain ⟨hp, he⟩ := List.mem_zipIdx' hm
  exact ⟨hp, he ▸ hr⟩

theorem lt_length_of_mem_returnPositions {body : List Text} {position : Nat} (h : position ∈ returnPositions body) :
    position < body.length :=
  (exists_of_mem_returnPositions h).1

/-- The lines of the exit sequence in front of the return, which are as many as there are. -/
theorem exists_append_exitForms (body : List Text) (position : Nat) :
    ∃ before exit, body.take position = before ++ exit ∧ exit.length = exitLength body position ∧
      (∀ line ∈ exit, isExitForm line = true) ∧ ∀ line ∈ before.getLast?, isExitForm line = false := by
  refine ⟨((body.take position).reverse.dropWhile isExitForm).reverse,
    ((body.take position).reverse.takeWhile isExitForm).reverse, ?_, List.length_reverse, fun line hl => ?_, fun line hl => ?_⟩
  · rw [← List.reverse_append, List.takeWhile_append_dropWhile, List.reverse_reverse]
  · exact List.all_eq_true.mp List.all_takeWhile line (List.mem_reverse.mp hl)
  · have hnot := List.head?_dropWhile_not isExitForm (body.take position).reverse
    rw [List.getLast?_reverse] at hl
    rw [hl] at hnot
    exact hnot

/-- What holds code in a function is its entry sequence, and lines around its exit sequence. -/
theorem exists_sequences (h : ofFunction f = .ok shape) :
    ∃ entry before exit after, bodyLines f.lines = entry ++ shape.body ∧ shape.body = before ++ (exit ++ after) ∧
      shape.epilogue.start = before.length ∧ shape.epilogue.stop = before.length + exit.length ∧ exit ≠ [] ∧
      (∀ line ∈ entry, (EntryForm.ofLine? line).isSome) ∧ ∀ line ∈ exit, isExitForm line = true ∨ isReturn line = true := by
  obtain ⟨summary, position, he, hp, hbody⟩ := exists_of_ofFunction h
  obtain ⟨hlt, hret⟩ := exists_of_mem_returnPositions (hp ▸ List.mem_singleton_self position)
  obtain ⟨before, exit, htake, hlength, hexit, -⟩ := exists_append_exitForms shape.body position
  have hsum : before.length + exit.length = position := by
    rw [← List.length_append, ← htake, List.length_take_of_le (Nat.le_of_lt hlt)]
  have hstart : shape.epilogue.start = (position - exitLength shape.body position : Nat) := by rw [he]; rfl
  have hstop : shape.epilogue.stop = position + 1 := by rw [he]; rfl
  refine ⟨(bodyLines f.lines).takeWhile fun line => (EntryForm.ofLine? line).isSome, before,
    exit ++ [shape.body[position]], shape.body.drop (position + 1), ?_, ?_, ?_, ?_, by simp, ?_, ?_⟩
  · rw [hbody, List.takeWhile_append_dropWhile]
  · rw [List.append_assoc, ← List.append_assoc before, ← htake, List.singleton_append, ← List.drop_eq_getElem_cons hlt,
      List.take_append_drop]
  · omega
  · rw [List.length_append, List.length_singleton]
    omega
  · exact fun line hl => List.all_eq_true.mp List.all_takeWhile line hl
  · intro line hl
    rcases List.mem_append.mp hl with hl | hl
    · exact .inl (hexit line hl)
    · exact .inr (List.mem_singleton.mp hl ▸ hret)

/-- The exit sequence has at least the return. -/
theorem epilogue_range (h : ofFunction f = .ok shape) :
    0 ≤ shape.epilogue.start ∧ shape.epilogue.start < shape.epilogue.stop ∧
      shape.epilogue.stop ≤ shape.body.length := by
  obtain ⟨entry, position, he, hp, -⟩ := exists_of_ofFunction h
  have hlt : position < shape.body.length := lt_length_of_mem_returnPositions (hp ▸ List.mem_singleton_self position)
  rw [he]
  simp only [build]
  omega

theorem epilogue_fits (h : ofFunction f = .ok shape) : shape.epilogue.fits shape.body.length = true := by
  obtain ⟨hstart, hlt, hstop⟩ := epilogue_range h
  exact Epilogue.fits_iff.mpr ⟨hstart, Int.le_of_lt hlt, hstop⟩

end Shape

/-- Whether a line mentions the directive that aligns code. -/
def mentionsAlign (line : Text) : Bool :=
  (stripComment line).includes alignDirective

/-- A line that is more than a comment is dropped where it mentions the directive. -/
theorem isDropped_eq_mentionsAlign {line : Text} (h : stripComment line ≠ []) : isDropped line = mentionsAlign line := by
  rw [isDropped, isCommentOnly, List.isEmpty_eq_false_iff.mpr h, Bool.and_false, Bool.false_or]
  rfl

theorem isDropped_of_holdsCode {line : Text} (h : holdsCode line = true) : isDropped line = mentionsAlign line := by
  refine isDropped_eq_mentionsAlign fun hs => ?_
  simp only [holdsCode, hs] at h
  exact absurd h (by decide)

theorem keptLines_of_holdsCode {lines : List Text} (h : ∀ line ∈ lines, holdsCode line = true) :
    keptLines lines = lines.filter (!mentionsAlign ·) :=
  List.filter_congr fun line hl => by rw [isDropped_of_holdsCode (h line hl)]

end AsmBridge
