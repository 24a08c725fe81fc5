import AsmBridge.Proofs.Body.Faults
import AsmBridge.Proofs.Body.Lemmas.Shape
import AsmBridge.Proofs.Listing.Digits
import AsmBridge.Proofs.Listing.Form

/-!
# Entry and exit sequences

A function with one return has a shape, which is said of the lines of the function: where its entry sequence stops, which
numbers are the last ones in it, and where its exit sequence starts and stops.
-/

namespace AsmBridge

/-! ## Numbers of an entry sequence -/

/-- Whether a number is that of the last line of an entry sequence that has one, if any line has one. -/
inductive LastNumber (number? : EntryForm → Option Int) : List Text → Option Int → Prop
  | absent {lines : List Text}
      (h : ∀ line ∈ lines, ∀ form : EntryForm, form.Spells (normalize line) → number? form = none) :
      LastNumber number? lines none
  | last {before after : List Text} {line : Text} {form : EntryForm} {n : Int}
      (hl : form.Spells (normalize line)) (hn : number? form = some n)
      (ha : ∀ later ∈ after, ∀ form : EntryForm, form.Spells (normalize later) → number? form = none) :
      LastNumber number? (before ++ line :: after) (some n)

theorem EntryForm.Spells.unique {t : Text} {form other : EntryForm} (h : form.Spells t) (ho : other.Spells t) : other = form :=
  Option.some.inj ((ofText?_of_spells ho).symm.trans (ofText?_of_spells h))

theorem EntryForm.Spells.eq_pushFramePointer_iff {t : Text} {form : EntryForm} (h : form.Spells t) :
    t = "push rbp".toList ↔ form = .pushFramePointer := by
  constructor
  · rintro rfl
    exact Spells.unique .pushFramePointer h
  · rintro rfl
    cases h
    rfl

/-- One more line has the last number, if it has one. -/
theorem LastNumber.concat {number? : EntryForm → Option Int} {lines : List Text} {last? : Option Int}
    (h : LastNumber number? lines last?) {line : Text} {form : EntryForm} (hf : form.Spells (normalize line)) :
    LastNumber number? (lines ++ [line]) ((number? form).or last?) := by
  cases hn : number? form with
  | some n => exact .last hf hn (fun later hl => absurd hl List.not_mem_nil)
  | none =>
      have hline : ∀ other ∈ [line], ∀ form : EntryForm, form.Spells (normalize other) → number? form = none :=
        List.forall_mem_singleton.mpr fun other ho => hf.unique ho ▸ hn
      cases h with
      | absent h => exact .absent (List.forall_mem_append.mpr ⟨h, hline⟩)
      | last hl hn ha =>
          rw [List.append_assoc, List.cons_append]
          exact .last hl hn (List.forall_mem_append.mpr ⟨ha, hline⟩)

/-- A number is read before it is taken for an integer. -/
theorem Decimal.eq_value_of_read_cast {digits : Text} {n : Int} (h : (do return ((← read digits : Nat) : Int)) = Except.ok n) :
    n = value digits := by
  obtain ⟨size, hread, he⟩ := exists_of_bind_eq_ok h
  cases he
  rw [eq_value_of_read hread]

theorem Decimal.eq_signedValue_of_readSigned {t : Text} {n : Int} (h : readSigned t = .ok n) : n = signedValue t := by
  unfold readSigned at h
  split at h
  · rename_i digits
    obtain ⟨size, hsize, rfl⟩ := exists_of_map_eq_ok h
    rw [signedValue, eq_value_of_read_cast hsize]
  · rename_i hsign
    obtain ⟨size, hsize, rfl⟩ := exists_of_map_eq_ok h
    rw [eq_value_of_read_cast hsize]
    unfold signedValue
    split
    · exact absurd rfl (hsign _)
    · rfl

namespace Entry

/-- What an entry sequence says about the frame. -/
structure Summarizes (e : Entry) (lines : List Text) : Prop where
  framePointer : e.pushesFramePointer = true ↔ ∃ line ∈ lines, normalize line = "push rbp".toList
  mask : ∃ mask?, LastNumber EntryForm.mask? lines mask? ∧ e.realigned = mask?.isSome ∧ e.mask = mask?.getD 0
  size : ∃ size?, LastNumber EntryForm.size? lines size? ∧ e.size = size?.getD 0

/-- What is known after one more instruction, whatever the length of its number. -/
def extend (e : Entry) : EntryForm → Entry
  | .pushFramePointer => { e with pushesFramePointer := true }
  | .setFramePointer | .pushRegister => e
  | .round number => { e with realigned := true, mask := Decimal.signedValue number }
  | .reserve number => { e with size := (Decimal.value number : Int) }

variable {e next : Entry} {form : EntryForm} {lines : List Text}

theorem eq_extend_of_step (h : e.step form = .ok next) : next = e.extend form := by
  cases form with
  | pushFramePointer => cases h; rfl
  | setFramePointer => cases h; rfl
  | pushRegister => cases h; rfl
  | round number =>
      obtain ⟨mask, hread, rfl⟩ := exists_of_map_eq_ok h
      rw [extend, Decimal.eq_signedValue_of_readSigned hread]
  | reserve number =>
      obtain ⟨size, hsize, rfl⟩ := exists_of_map_eq_ok h
      rw [extend, Decimal.eq_value_of_read_cast hsize]

theorem Summarizes.concat (hs : e.Summarizes lines) {line : Text} (hf : form.Spells (normalize line)) :
    (e.extend form).Summarizes (lines ++ [line]) := by
  obtain ⟨hpointer, ⟨mask?, hmask, hrealigned, hmaskValue⟩, size?, hsize, hsizeValue⟩ := hs
  refine ⟨?_, ⟨_, hmask.concat hf, ?_⟩, _, hsize.concat hf, ?_⟩
  · simp only [List.mem_append, List.mem_singleton, or_and_right, exists_or, exists_eq_left, ← hpointer, hf.eq_pushFramePointer_iff]
    cases form <;> simp [extend]
  · cases form <;> exact ⟨by simp [extend, EntryForm.mask?, hrealigned], by simp [extend, EntryForm.mask?, hmaskValue]⟩
  · cases form <;> simp [extend, EntryForm.size?, hsizeValue]

theorem summarizes_of_ofForms (hl : ∀ line ∈ lines, ∃ form : EntryForm, form.Spells (normalize line))
    (h : ofForms (lines.filterMap EntryForm.ofLine?) = .ok e) : e.Summarizes lines := by
  -- The last line of the sequence is the last one read, so the induction is from the end.
  induction lines using List.reverseRecOn generalizing e with
  | nil =>
      cases h
      exact ⟨by simp, ⟨none, .absent nofun, rfl, rfl⟩, none, .absent nofun, rfl⟩
  | append_singleton lines line ih =>
      obtain ⟨hlines, hline⟩ := List.forall_mem_append.mp hl
      obtain ⟨form, hf⟩ := hline line List.mem_cons_self
      have hform : EntryForm.ofLine? line = some form := EntryForm.ofText?_of_spells hf
      rw [ofForms, List.filterMap_append, List.foldlM_append] at h
      obtain ⟨before, hbefore, h⟩ := exists_of_bind_eq_ok h
      rw [List.filterMap_cons_some hform, List.filterMap_nil, List.foldlM_cons] at h
      obtain ⟨after, hafter, h⟩ := exists_of_bind_eq_ok h
      cases h
      exact eq_extend_of_step hafter ▸ (ih hlines hbefore).concat hf

end Entry

/-! ## Shapes -/

namespace Shape

/-- Whether a shape is that of lines with an entry sequence and a rest. -/
structure Delimits (shape : Shape) (entry rest : List Text) : Prop where
  body : shape.body = rest
  /-- The exit sequence ends with a return, and there is no line in front of it that could belong to it. -/
  exit : ∃ before exit ret after, rest = before ++ (exit ++ ret :: after) ∧
    shape.epilogue.start = before.length ∧ shape.epilogue.stop = before.length + exit.length + 1 ∧
    isReturn ret = true ∧ (∀ line ∈ exit, ExitSpells (normalize line)) ∧
    (∀ line ∈ before.getLast?, ¬ ExitSpells (normalize line)) ∧
    (shape.epilogue.frame.clearsUpper = true ↔ ∃ line ∈ exit ++ [ret], normalize line = "vzeroupper".toList)
  mask : ∃ mask?, LastNumber EntryForm.mask? entry mask? ∧
    shape.epilogue.frame.realigned = mask?.isSome ∧ shape.epilogue.frame.mask = mask?.getD 0
  size : ∃ size?, LastNumber EntryForm.size? entry size? ∧ shape.epilogue.frame.size = size?.getD 0
  /-- The return address lies below the arguments, and the frame pointer, if it is saved. -/
  offset : ((∃ line ∈ entry, normalize line = "push rbp".toList) ∧ shape.offsetToFirst = 16) ∨
    ((∀ line ∈ entry, normalize line ≠ "push rbp".toList) ∧ shape.offsetToFirst = 8)

theorem length_returnPositions (body : List Text) : (returnPositions body).length = body.countP isReturn := by
  have hpositions : returnPositions body = (body.zipIdx.filter fun p => isReturn p.1).map (·.2) := rfl
  have hcount : (body.zipIdx.map Prod.fst).countP isReturn = body.zipIdx.countP fun p => isReturn p.1 := List.countP_map
  rw [hpositions, List.length_map, ← List.countP_eq_length_filter, ← hcount, List.zipIdx_map_fst]

theorem delimits_build {e : Entry} {entry body : List Text} (he : e.Summarizes entry) {position : Nat}
    (hp : returnPositions body = [position]) : (build e body position).Delimits entry body := by
  obtain ⟨hlt, hret⟩ := exists_of_mem_returnPositions (hp ▸ List.mem_singleton_self position)
  obtain ⟨before, exit, htake, hlength, hexit, hbefore⟩ := exists_append_exitForms body position
  have hsum : before.length + exit.length = position := by
    rw [← List.length_append, ← htake, List.length_take_of_le (Nat.le_of_lt hlt)]
  have hstart : position - exitLength body position = before.length := by omega
  have hrange : (body.take (position + 1)).drop (position - exitLength body position) = exit ++ [body[position]] := by
    rw [List.take_succ_eq_append_getElem hlt, htake, hstart, List.append_assoc, List.drop_left]
  refine ⟨rfl, ⟨before, exit, body[position], body.drop (position + 1), ?_, ?_, ?_, hret, ?_, ?_, ?_⟩, he.mask, he.size, ?_⟩
  · rw [← List.append_assoc, ← htake, ← List.drop_eq_getElem_cons hlt, List.take_append_drop]
  · rw [build, hstart]
  · rw [build]
    simp only
    omega
  · exact fun line hl => isExitForm_iff.mp (hexit line hl)
  · exact fun line hl h => Bool.false_ne_true ((hbefore line hl).symm.trans (isExitForm_iff.mpr h))
  · simp only [build, hrange, List.any_eq_true, clearsUpper, beq_iff_eq]
  · have hoffset : (build e body position).offsetToFirst = e.offsetToFirst := rfl
    rw [hoffset, Entry.offsetToFirst]
    cases hpointer : e.pushesFramePointer with
    | true => exact .inl ⟨he.framePointer.mp hpointer, rfl⟩
    | false =>
        refine .inr ⟨fun line hl hline => ?_, rfl⟩
        rw [he.framePointer.mpr ⟨line, hl, hline⟩] at hpointer
        cases hpointer

end Shape

/-- The lines of the entry sequence of a function. -/
def Function.entryLines (f : Function) : List Text :=
  (bodyLines f.lines).takeWhile fun line => (EntryForm.ofLine? line).isSome

/-- The lines behind the entry sequence of a function. -/
def Function.restLines (f : Function) : List Text :=
  (bodyLines f.lines).dropWhile fun line => (EntryForm.ofLine? line).isSome

namespace Function

variable {f : Function}

theorem spells_of_mem_entryLines {line : Text} (hl : line ∈ f.entryLines) : ∃ form : EntryForm, form.Spells (normalize line) :=
  EntryForm.isSome_ofLine?_iff.mp (List.all_eq_true.mp List.all_takeWhile line hl)

/-- The entry sequence reaches as far as it can. -/
theorem not_spells_of_head?_restLines {line : Text} (hl : f.restLines.head? = some line) :
    ¬ ∃ form : EntryForm, form.Spells (normalize line) := by
  have hnot := List.head?_dropWhile_not (fun line => (EntryForm.ofLine? line).isSome) (bodyLines f.lines)
  rw [restLines] at hl
  rw [hl] at hnot
  exact fun h => Bool.false_ne_true (hnot.symm.trans (EntryForm.isSome_ofLine?_iff.mpr h))

theorem exists_ofForms_entryLines (hn : ∀ line ∈ f.lines, line.longestRun ≤ Decimal.digitLimit) :
    ∃ e, Entry.ofForms (f.entryLines.filterMap EntryForm.ofLine?) = .ok e := by
  cases h : Entry.ofForms (f.entryLines.filterMap EntryForm.ofLine?) with
  | ok e => exact ⟨e, rfl⟩
  | error fault =>
      obtain ⟨-, line, hl, form, hform, hlong⟩ := Entry.fault_of_ofForms h
      have hmem : line ∈ f.lines := List.mem_of_mem_filter ((List.takeWhile_prefix _).subset hl)
      exact absurd ((EntryForm.longestRun_number_le hform).trans (hn line hmem)) (Nat.not_le.mpr hlong)

end Function

namespace Shape

/-- The shape of a function depends on where it returns behind its entry sequence. -/
theorem ofFunction_eq {f : Function} {e : Entry} (he : Entry.ofForms (f.entryLines.filterMap EntryForm.ofLine?) = .ok e) :
    ofFunction f = match returnPositions f.restLines with
      | [] => .error (.noReturn f.name)
      | [position] => .ok (build e f.restLines position)
      | positions => .error (.severalReturns f.name positions.length) := by
  rw [Function.entryLines] at he
  simp only [ofFunction, he]
  rfl

theorem listing_of_ofFunction_iff {f : Function} {e : Entry}
    (he : Entry.ofForms (f.entryLines.filterMap EntryForm.ofLine?) = .ok e) :
    (∃ fault, ofFunction f = .error fault ∧ fault.kind = .listing) ↔ f.restLines.countP isReturn ≠ 1 := by
  rw [ofFunction_eq he, ← length_returnPositions]
  rcases returnPositions f.restLines with _ | ⟨first, _ | ⟨second, more⟩⟩
  · exact ⟨nofun, fun _ => ⟨_, rfl, rfl⟩⟩
  · exact ⟨fun ⟨_, h, _⟩ => (nomatch h), fun h => absurd rfl h⟩
  · exact ⟨fun _ => by simp, fun _ => ⟨_, rfl, rfl⟩⟩

/-- The exit sequence of a shape lies within its body, so the conversion does not refuse it. -/
theorem convertSubroutine_ne_epilogueRange {f : Function} {shape : Shape} (hs : ofFunction f = .ok shape) (name : Text)
    (count : Nat) (args : StackArgs) (table : Table) (start stop length : Int) :
    convertSubroutine shape.body name shape.epilogue count args table ≠ .error (.epilogueRange start stop length) := by
  intro h
  rcases cases_of_bind_eq_error h with h | ⟨body, -, h⟩
  · rcases fault_of_convertBody (Shape.epilogue_fits hs) h with hlocal | ⟨hlong, -⟩
    · cases hlocal
    · cases hlong
  · cases h

/-- A function with short numbers has a shape exactly where it returns once behind its entry sequence, which reaches as far as
it can, and is refused as a listing otherwise. The exit sequence of the shape lies within its body. -/
theorem ofFunction_delimits {f : Function} (hn : ∀ line ∈ f.lines, line.longestRun ≤ Decimal.digitLimit) :
    ∃ entry rest, bodyLines f.lines = entry ++ rest ∧
      (∀ line ∈ entry, ∃ form : EntryForm, form.Spells (normalize line)) ∧
      (∀ line ∈ rest.head?, ¬ ∃ form : EntryForm, form.Spells (normalize line)) ∧
      ((∃ fault, ofFunction f = .error fault ∧ fault.kind = .listing) ↔ rest.countP isReturn ≠ 1) ∧
      (rest.countP isReturn = 1 → ∃ shape, ofFunction f = .ok shape ∧ shape.Delimits entry rest) ∧
      ∀ shape, ofFunction f = .ok shape → shape.epilogue.check shape.body.length = .ok () ∧
        ∀ name count args table start stop length,
          convertSubroutine shape.body name shape.epilogue count args table ≠ .error (.epilogueRange start stop length) := by
  obtain ⟨e, he⟩ := Function.exists_ofForms_entryLines hn
  refine ⟨f.entryLines, f.restLines, List.takeWhile_append_dropWhile.symm, fun line => Function.spells_of_mem_entryLines,
    fun line => Function.not_spells_of_head?_restLines, listing_of_ofFunction_iff he, fun hone => ?_, fun shape hs => ?_⟩
  · rw [← length_returnPositions, List.length_eq_one_iff] at hone
    obtain ⟨position, hposition⟩ := hone
    refine ⟨build e f.restLines position, ?_, delimits_build ?_ hposition⟩
    · rw [ofFunction_eq he, hposition]
    · exact Entry.summarizes_of_ofForms (fun line => Function.spells_of_mem_entryLines) he
  · exact ⟨if_pos (Shape.epilogue_fits hs), convertSubroutine_ne_epilogueRange hs⟩

end Shape

/-- A function that rounds the stack pointer. -/
def Function.rounding : Function where
  name := "f".toList
  lineNumber := 1
  lines := ["push rbp".toList, "and rsp, -32".toList, "mov eax, 1".toList, "vzeroupper".toList, "ret".toList]

/-- The shape of that function. -/
def Shape.rounding : Shape where
  body := ["mov eax, 1".toList, "vzeroupper".toList, "ret".toList]
  epilogue := { start := 1, stop := 3, frame := { realigned := true, mask := -32, clearsUpper := true } }
  offsetToFirst := 16

/-- Two lines belong to the entry sequence and two to the exit sequence. -/
theorem Shape.ofFunction_delimits_sample :
    (∀ line ∈ Function.rounding.lines, line.longestRun ≤ Decimal.digitLimit) ∧
      ofFunction .rounding = .ok .rounding ∧ ∃ entry rest, Shape.rounding.Delimits entry rest := by
  have hn : ∀ line ∈ Function.rounding.lines, line.longestRun ≤ Decimal.digitLimit := by decide
  have hs : ofFunction .rounding = .ok .rounding := by decide +kernel
  obtain ⟨entry, rest, -, -, -, hlisting, hone, -⟩ := ofFunction_delimits hn
  have hcount : rest.countP isReturn = 1 := by
    by_contra hcount
    obtain ⟨fault, hfault, -⟩ := hlisting.mpr hcount
    rw [hs] at hfault
    cases hfault
  obtain ⟨shape, hshape, hdelimits⟩ := hone hcount
  rw [hs] at hshape
  cases hshape
  exact ⟨hn, hs, entry, rest, hdelimits⟩

end AsmBridge
